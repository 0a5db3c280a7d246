import HttpCall.Text.Blank
import HttpCall.Text.Split

/-!
# Content types

Finding the character set that a content type declares.
-/

namespace HttpCall
namespace ContentType

def charsetValue? (parameter : List Char) : Option (List Char) :=
  match Text.splitOnce '=' parameter with
  | some (name, value) =>
      if (Text.trim name).map Char.toLower = "charset".toList then
        some (Text.dropEndWhile (· == '"') ((Text.trim value).dropWhile (· == '"')))
      else none
  | none => none

/-- The label in the first parameter named `charset`; parameters are the parts
after the first semicolon. -/
def charsetLabel? (contentType : String) : Option String :=
  (((Text.splitOn ';' contentType.toList).drop 1).findSome? charsetValue?).map String.ofList

def bodyCharset (contentType : String) : String :=
  (charsetLabel? contentType).getD "utf-8"

end ContentType
end HttpCall
