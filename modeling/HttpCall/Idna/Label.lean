import HttpCall.Idna.Direction
import HttpCall.Idna.Folding
import HttpCall.Idna.Joiner
import HttpCall.Idna.Punycode
import HttpCall.Text.Mark
import HttpCall.Text.Normal

/-!
# Labels

A label of a domain name: its characters, and the ASCII form in which it is looked
up.  The ASCII form of a label with other characters begins with `xn--`.
-/

namespace HttpCall
namespace Idna

def isAscii (c : Char) : Bool := c.toNat < 128

def foldText? (s : List Char) : Option (List Char) :=
  (s.mapM fold?).map fun folded => Text.normalize folded.flatten

def isFolded (c : Char) : Bool := foldText? [c] == some [c]

structure Label where
  chars : List Char
  ascii : List Char
deriving DecidableEq, Repr

namespace Label

def mark : List Char := ['x', 'n', '-', '-']

def longest : Nat := 1000

/-- The most characters that an encoded label may have after its mark. -/
def longestCode : Nat := 2000

/-- The characters of an encoded label: they are those that folding gives, and not
all of them are ASCII. -/
def decode? (code : List Char) : Option (List Char) :=
  if code.getLast? = some '-' ∨ longestCode < code.length then none
  else
    match Punycode.decode? code with
    | some s =>
        if !s.all isAscii && s.all isFolded && Text.normalize s == s then some s else none
    | none => none

def isWellFormed (s : List Char) : Bool :=
  !s.head?.any Text.isMark && joinersFit [] s && (s.all isAscii || s.length <= longest)

def ofFolded? (s : List Char) : Option Label :=
  let label? : Option Label :=
    if mark.isPrefixOf s then (decode? (s.drop mark.length)).map fun chars => ⟨chars, s⟩
    else if s.all isAscii then some ⟨s, s⟩
    else some ⟨s, mark ++ Punycode.encode s⟩
  label?.filter fun label => isWellFormed label.chars

def directions (l : Label) : List Direction := l.chars.map Direction.of

end Label
end Idna
end HttpCall
