import HttpCall.Text.Combining
import HttpCall.Text.Decomposition

/-!
# Canonical composition

The form of a text in which equivalent texts are equal: every character is
decomposed, marks are put into order, and what can be composed is composed.
-/

namespace HttpCall
namespace Text

/-- Put a character before a text in order; a mark goes behind the marks of lower
classes that follow it. -/
def place (c : Char) : List Char -> List Char
  | [] => [c]
  | d :: rest =>
      if combiningClass d ≠ 0 ∧ combiningClass d < combiningClass c then d :: place c rest
      else c :: d :: rest

def reorder (s : List Char) : List Char := s.foldr place []

/-- Whether the marks after a starter, newest first, keep a character from it. -/
def isBlocked (marks : List Char) (c : Char) : Bool :=
  match marks with
  | [] => false
  | mark :: _ => combiningClass c <= combiningClass mark

/-- Compose a starter with what follows it, given the marks between, newest first. -/
def composeFrom (starter : Char) (marks : List Char) : List Char -> List Char
  | [] => starter :: marks.reverse
  | c :: rest =>
      match if isBlocked marks c then none else compose? starter c with
      | some composite => composeFrom composite marks rest
      | none =>
          if combiningClass c = 0 then starter :: marks.reverse ++ composeFrom c [] rest
          else composeFrom starter (c :: marks) rest

def composeAll : List Char -> List Char
  | [] => []
  | c :: rest =>
      if combiningClass c = 0 then composeFrom c [] rest else c :: composeAll rest

def normalize (s : List Char) : List Char :=
  composeAll (reorder (s.flatMap decompose))

end Text
end HttpCall
