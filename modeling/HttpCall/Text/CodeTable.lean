import HttpCall.Text.Numeral
import HttpCall.Text.Search
import HttpCall.Text.Split

/-!
# Tables of records on code points

Records in ascending order of their code points.  In the text of a table a record
is a list of hexadecimal numbers with commas between them; the first number is the
distance from the code point of the record before.
-/

namespace HttpCall
namespace Text

structure CodeTable where
  records : Array (Nat × List Nat)

namespace CodeTable

/-- Read a record, given the code point of the one before. -/
def readRecord? (before : Nat) (word : List Char) : Option (Nat × List Nat) :=
  match (splitOn ',' word).mapM (readDigits hexValue? 16 0) with
  | some (distance :: data) => some (before + distance, data)
  | _ => none

def readRecords : Nat -> List (List Char) -> List (Nat × List Nat)
  | _, [] => []
  | before, word :: rest =>
      match readRecord? before word with
      | some record => record :: readRecords record.1 rest
      | none => []

def ofText (s : String) : CodeTable := ⟨(readRecords 0 (words s.toList)).toArray⟩

def ofList (records : List (Nat × List Nat)) : CodeTable :=
  ⟨(records.mergeSort fun a b => a.1 <= b.1).toArray⟩

def floor? (t : CodeTable) (n : Nat) : Option (Nat × List Nat) :=
  match search (fun i => (t.records[i]?.map Prod.fst).getD 0) n t.records.size with
  | 0 => none
  | count + 1 => t.records[count]?

def find? (t : CodeTable) (n : Nat) : Option (List Nat) :=
  match t.floor? n with
  | some (start, data) => if start = n then some data else none
  | none => none

/-- In a table whose records hold from their code point to the next record, the
number that holds for a code point. -/
def valueAt (t : CodeTable) (n : Nat) : Nat :=
  match t.floor? n with
  | some (_, value :: _) => value
  | _ => 0

end CodeTable
end Text
end HttpCall
