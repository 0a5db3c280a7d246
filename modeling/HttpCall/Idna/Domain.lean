import HttpCall.Idna.Label
import HttpCall.Text.Split

/-!
# Domain names

The form of a domain name in which it is looked up.
-/

namespace HttpCall
namespace Idna

def isForbidden (c : Char) : Bool :=
  c.toNat <= 32 || c.toNat == 127 || "%#/:<>?@[\\]^|".toList.contains c

def isPlain (label : List Char) : Bool :=
  label.all isAscii && !Label.mark.isPrefixOf (label.map Char.toLower)

def directionsFit (labels : List Label) : Bool :=
  !(labels.any fun l => l.directions.any Direction.isFromRight) ||
    labels.all fun l => Direction.fit l.directions

def labels? (name : List Char) : Option (List Label) :=
  match foldText? name with
  | some folded =>
      if folded.any isForbidden then none
      else ((Text.splitOn '.' folded).mapM Label.ofFolded?).filter directionsFit
  | none => none

/-- The form of a domain name in which it is looked up.  Where all labels are plain
only their letters are folded. -/
def toAscii? (name : List Char) : Option (List Char) :=
  if (Text.splitOn '.' name).all isPlain then
    if name.any isForbidden then none else some (name.map Char.toLower)
  else (labels? name).map fun labels => ['.'].intercalate (labels.map Label.ascii)

end Idna
end HttpCall
