/-!
# Hangul syllables

A syllable is composed of a leading consonant, a vowel and perhaps a trailing
consonant; its code point is computed from theirs.
-/

namespace HttpCall
namespace Text
namespace Hangul

def firstSyllable : Nat := 0xAC00
def firstLeading : Nat := 0x1100
def firstVowel : Nat := 0x1161
def noTrailing : Nat := 0x11A7

def syllables : Nat := 11172

def letters? (c : Char) : Option (List Char) :=
  let n := c.toNat - firstSyllable
  if firstSyllable <= c.toNat ∧ n < syllables then
    let opening := [Char.ofNat (firstLeading + n / 588), Char.ofNat (firstVowel + n % 588 / 28)]
    some (if n % 28 = 0 then opening else opening ++ [Char.ofNat (noTrailing + n % 28)])
  else none

/-- The syllable of a leading consonant and a vowel, or of a syllable without a
trailing consonant and such a consonant. -/
def compose? (a b : Char) : Option Char :=
  let leading := a.toNat - firstLeading
  let vowel := b.toNat - firstVowel
  let syllable := a.toNat - firstSyllable
  let trailing := b.toNat - noTrailing
  if firstLeading <= a.toNat ∧ leading < 19 ∧ firstVowel <= b.toNat ∧ vowel < 21 then
    some (Char.ofNat (firstSyllable + (leading * 21 + vowel) * 28))
  else if firstSyllable <= a.toNat ∧ syllable < syllables ∧ syllable % 28 = 0 ∧
      noTrailing < b.toNat ∧ trailing < 28 then
    some (Char.ofNat (a.toNat + trailing))
  else none

end Hangul
end Text
end HttpCall
