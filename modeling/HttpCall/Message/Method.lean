import HttpCall.Token

/-!
# Request methods
-/

namespace HttpCall

structure Method where
  name : String
deriving DecidableEq, Repr

namespace Method

def get : Method := ⟨"GET"⟩
def head : Method := ⟨"HEAD"⟩
def post : Method := ⟨"POST"⟩
def put : Method := ⟨"PUT"⟩
def patch : Method := ⟨"PATCH"⟩
def delete : Method := ⟨"DELETE"⟩

def parse? (s : String) : Option Method :=
  if Token.isToken s.toList then some ⟨s⟩ else none

end Method
end HttpCall
