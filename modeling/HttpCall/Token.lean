/-!
# Tokens

The token characters of HTTP, out of which method names, header names and
cookie names are made.
-/

namespace HttpCall
namespace Token

/-- A character that may stand in a token: an ASCII letter or digit, or one of
fifteen marks. -/
def isTokenChar (c : Char) : Bool :=
  c.isAlphanum || "!#$%&'*+-.^_\x60|~".toList.contains c

def isToken (s : List Char) : Bool :=
  !s.isEmpty && s.all isTokenChar

end Token
end HttpCall
