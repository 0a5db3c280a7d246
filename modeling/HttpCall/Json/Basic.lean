/-!
# JSON values

The values a JSON text can hold.  An object keeps one value for each key.
-/

namespace HttpCall

/-- A number: an integer of at most sixty-four bits, or a binary fraction. -/
inductive Json.Number where
  | natural (n : Nat)
  | negative (n : Int)
  | fraction (x : Float)

inductive Json where
  | null
  | bool (b : Bool)
  | number (n : Json.Number)
  | string (s : String)
  | array (items : List Json)
  | object (fields : List (String × Json))

namespace Json

/-- Give a key a value, in the place of an earlier one. -/
def setField (fields : List (String × Json)) (key : String) (value : Json) :
    List (String × Json) :=
  fields.filter (fun field => field.1 != key) ++ [(key, value)]

end Json
end HttpCall
