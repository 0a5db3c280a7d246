import HttpCall.Text.Utf16
import HttpCall.Text.Utf8

/-!
# Unicode as bytes

A text can be had back from its bytes in UTF-8, and from its sixteen-bit units, whose bytes
may stand in either order: reading takes one character off the front, whatever follows it.
-/

namespace HttpCall
namespace Text

/-! ## UTF-8 -/

namespace Utf8

theorem toNat_byte {n : Nat} (h : n < 256) : (UInt8.ofNat n).toNat = n := by
  rw [UInt8.toNat_ofNat']
  exact Nat.mod_eq_of_lt h

section

variable {b first : UInt8}

theorem isTail_iff : isTail b = true <-> 0x80 <= b.toNat ∧ b.toNat <= 0xBF := by
  simp [isTail, UInt8.le_iff_toNat_le]

theorem isSecond_of_range {low high least most : UInt8} (hb : isTail b = true)
    (hlow : first.toNat = low.toNat -> least.toNat <= b.toNat)
    (hhigh : first.toNat = high.toNat -> b.toNat <= most.toNat) :
    (if first = low then least <= b && b <= 0xBF
      else if first = high then 0x80 <= b && b <= most
      else isTail b) = true := by
  have hbounds := isTail_iff.mp hb
  split
  · rename_i hfirst
    subst hfirst
    simpa [UInt8.le_iff_toNat_le] using ⟨hlow rfl, hbounds.right⟩
  · split
    · rename_i hfirst
      subst hfirst
      simpa [UInt8.le_iff_toNat_le] using ⟨hbounds.left, hhigh rfl⟩
    · exact hb

theorem width_eq (first : UInt8) : width first =
    if first.toNat < 0x80 then 1
    else if 0xC2 <= first.toNat ∧ first.toNat <= 0xDF then 2
    else if 0xE0 <= first.toNat ∧ first.toNat <= 0xEF then 3
    else if 0xF0 <= first.toNat ∧ first.toNat <= 0xF4 then 4
    else 0 := by
  simp [width, UInt8.lt_iff_toNat_lt, UInt8.le_iff_toNat_le]

end

/-! ### The front of an encoded character

A character is given by its number, since the bytes are made from its digits to base 64. -/

section

variable {v : Nat} (rest : List UInt8)

theorem front_one (h : v < 0x80) :
    front (UInt8.ofNat v) rest = ⟨some (Char.ofNat v), 0⟩ := by
  have hfirst := toNat_byte (n := v) (by omega)
  have hwidth : width (UInt8.ofNat v) = 1 := by
    rw [width_eq, hfirst, if_pos h]
  unfold front
  rw [hwidth, hfirst]
  cases rest <;> rfl

theorem front_two (hlow : 0x80 <= v) (hhigh : v < 0x800) :
    front (UInt8.ofNat (v / 64 % 32 + 192)) (UInt8.ofNat (v % 64 + 128) :: rest) =
      ⟨some (Char.ofNat v), 1⟩ := by
  have hfirst := toNat_byte (n := v / 64 % 32 + 192) (by omega)
  have hsecond := toNat_byte (n := v % 64 + 128) (by omega)
  have hwidth : width (UInt8.ofNat (v / 64 % 32 + 192)) = 2 := by
    rw [width_eq, hfirst, if_neg (by omega), if_pos (by omega)]
  have htail : isTail (UInt8.ofNat (v % 64 + 128)) = true := by
    rw [isTail_iff, hsecond]
    omega
  have hvalue : (v / 64 % 32 + 192) % 32 * 64 + (v % 64 + 128) % 64 = v := by omega
  unfold front
  rw [hwidth]
  simp only [htail, if_true, low, hfirst, hsecond, hvalue]

theorem front_three (hlow : 0x800 <= v) (hhigh : v < 0x10000)
    (hvalid : v < 0xD800 ∨ 0xDFFF < v) :
    front (UInt8.ofNat (v / 4096 % 16 + 224))
        (UInt8.ofNat (v / 64 % 64 + 128) :: UInt8.ofNat (v % 64 + 128) :: rest) =
      ⟨some (Char.ofNat v), 2⟩ := by
  have hfirst := toNat_byte (n := v / 4096 % 16 + 224) (by omega)
  have hsecond := toNat_byte (n := v / 64 % 64 + 128) (by omega)
  have hthird := toNat_byte (n := v % 64 + 128) (by omega)
  have hwidth : width (UInt8.ofNat (v / 4096 % 16 + 224)) = 3 := by
    rw [width_eq, hfirst, if_neg (by omega), if_neg (by omega), if_pos (by omega)]
  have htail : isTail (UInt8.ofNat (v % 64 + 128)) = true := by
    rw [isTail_iff, hthird]
    omega
  have hmiddle : isSecondOfThree (UInt8.ofNat (v / 4096 % 16 + 224))
      (UInt8.ofNat (v / 64 % 64 + 128)) = true := by
    apply isSecond_of_range
    · rw [isTail_iff, hsecond]
      omega
    · rw [hfirst, hsecond]
      change _ = 0xE0 -> 0xA0 <= _
      omega
    · rw [hfirst, hsecond]
      change _ = 0xED -> _ <= 0x9F
      omega
  have hvalue : (v / 4096 % 16 + 224) % 16 * 4096 + (v / 64 % 64 + 128) % 64 * 64 +
      (v % 64 + 128) % 64 = v := by
    omega
  unfold front
  rw [hwidth]
  simp only [hmiddle, htail, if_true, low, hfirst, hsecond, hthird, hvalue]

theorem front_four (hlow : 0x10000 <= v) (hhigh : v < 0x110000) :
    front (UInt8.ofNat (v / 262144 % 8 + 240))
        (UInt8.ofNat (v / 4096 % 64 + 128) :: UInt8.ofNat (v / 64 % 64 + 128) ::
          UInt8.ofNat (v % 64 + 128) :: rest) =
      ⟨some (Char.ofNat v), 3⟩ := by
  have hfirst := toNat_byte (n := v / 262144 % 8 + 240) (by omega)
  have hsecond := toNat_byte (n := v / 4096 % 64 + 128) (by omega)
  have hthird := toNat_byte (n := v / 64 % 64 + 128) (by omega)
  have hfourth := toNat_byte (n := v % 64 + 128) (by omega)
  have hwidth : width (UInt8.ofNat (v / 262144 % 8 + 240)) = 4 := by
    rw [width_eq, hfirst, if_neg (by omega), if_neg (by omega), if_neg (by omega),
      if_pos (by omega)]
  have hthirdTail : isTail (UInt8.ofNat (v / 64 % 64 + 128)) = true := by
    rw [isTail_iff, hthird]
    omega
  have hfourthTail : isTail (UInt8.ofNat (v % 64 + 128)) = true := by
    rw [isTail_iff, hfourth]
    omega
  have hmiddle : isSecondOfFour (UInt8.ofNat (v / 262144 % 8 + 240))
      (UInt8.ofNat (v / 4096 % 64 + 128)) = true := by
    apply isSecond_of_range
    · rw [isTail_iff, hsecond]
      omega
    · rw [hfirst, hsecond]
      change _ = 0xF0 -> 0x90 <= _
      omega
    · rw [hfirst, hsecond]
      change _ = 0xF4 -> _ <= 0x8F
      omega
  have hvalue : (v / 262144 % 8 + 240) % 8 * 262144 + (v / 4096 % 64 + 128) % 64 * 4096 +
      (v / 64 % 64 + 128) % 64 * 64 + (v % 64 + 128) % 64 = v := by
    omega
  unfold front
  rw [hwidth]
  simp only [hmiddle, hthirdTail, hfourthTail, if_true, low, hfirst, hsecond, hthird, hfourth,
    hvalue]

end

theorem toNat_bounds (c : Char) : (c.toNat < 0xD800 ∨ 0xDFFF < c.toNat) ∧ c.toNat < 0x110000 := by
  have hvalid : c.toNat < 0xD800 ∨ 0xDFFF < c.toNat ∧ c.toNat < 0x110000 := c.valid
  omega

theorem exists_encodeChar_eq (c : Char) :
    exists first tail, String.utf8EncodeChar c = first :: tail ∧
      forall rest, front first (tail ++ rest) = ⟨some c, tail.length⟩ := by
  have hbounds := toNat_bounds c
  have hnumber : c.val.toNat = c.toNat := rfl
  have hchar := Char.ofNat_toNat c
  unfold String.utf8EncodeChar
  simp only [hnumber]
  generalize c.toNat = v at hbounds hchar
  subst hchar
  by_cases hone : v <= 127
  · rw [if_pos hone]
    exact ⟨_, [], rfl, fun rest => front_one rest (by omega)⟩
  · by_cases htwo : v <= 2047
    · rw [if_neg hone, if_pos htwo]
      exact ⟨_, [_], rfl, fun rest => front_two rest (by omega) (by omega)⟩
    · by_cases hthree : v <= 65535
      · rw [if_neg hone, if_neg htwo, if_pos hthree]
        exact ⟨_, [_, _], rfl, fun rest =>
          front_three rest (by omega) (by omega) hbounds.left⟩
      · rw [if_neg hone, if_neg htwo, if_neg hthree]
        exact ⟨_, [_, _, _], rfl, fun rest => front_four rest (by omega) hbounds.right⟩

theorem toNat_of_mem_encodeChar {c : Char} {b : UInt8} (h : b ∈ String.utf8EncodeChar c) :
    b.toNat = c.toNat ∨ 0x80 <= b.toNat := by
  have hnumber : c.val.toNat = c.toNat := rfl
  unfold String.utf8EncodeChar at h
  simp only [hnumber] at h
  split at h
  · rw [List.mem_singleton.mp h]
    exact .inl (toNat_byte (by omega))
  · right
    split at h
    · simp only [List.mem_cons, List.not_mem_nil, or_false] at h
      rcases h with rfl | rfl <;> rw [toNat_byte (by omega)] <;> omega
    · split at h
      · simp only [List.mem_cons, List.not_mem_nil, or_false] at h
        rcases h with rfl | rfl | rfl <;> rw [toNat_byte (by omega)] <;> omega
      · simp only [List.mem_cons, List.not_mem_nil, or_false] at h
        rcases h with rfl | rfl | rfl | rfl <;> rw [toNat_byte (by omega)] <;> omega

theorem decodeAfter?_append (tail rest : List UInt8) :
    decodeAfter? tail.length (tail ++ rest) = decode? rest := by
  induction tail with
  | nil =>
      rfl
  | cons b others ih =>
      rw [List.length_cons, List.cons_append, decodeAfter?]
      exact ih

/-- Decoding takes the character off the front, whatever follows it. -/
theorem decode?_encodeChar_append (c : Char) (rest : List UInt8) :
    decode? (String.utf8EncodeChar c ++ rest) = (decode? rest).map (c :: ·) := by
  obtain ⟨first, tail, hbytes, hfront⟩ := exists_encodeChar_eq c
  rw [hbytes, List.cons_append, decode?, decodeAfter?, hfront rest, decodeAfter?_append]
  cases decode? rest <;> rfl

end Utf8

/-! ## UTF-16 -/

namespace Utf16

def unitsOf? (unit : UInt8 -> UInt8 -> Nat) : List UInt8 -> Option (List Nat)
  | [] => some []
  | [_] => none
  | first :: second :: rest => (unitsOf? unit rest).map (unit first second :: ·)

def ofBigEndian (first second : UInt8) : Nat := first.toNat * 256 + second.toNat

def ofLittleEndian (first second : UInt8) : Nat := second.toNat * 256 + first.toNat

/-- The text of some units.  A surrogate only stands in a pair, the high one first. -/
def decode? : List Nat -> Option (List Char)
  | [] => some []
  | unit :: rest =>
      if unit < 0xD800 ∨ 0xDFFF < unit then (decode? rest).map (Char.ofNat unit :: ·)
      else
        match rest with
        | [] => none
        | next :: rest =>
            if unit < 0xDC00 ∧ 0xDC00 <= next ∧ next <= 0xDFFF then
              (decode? rest).map
                (Char.ofNat (0x10000 + (unit - 0xD800) * 0x400 + (next - 0xDC00)) :: ·)
            else none

/-- A high surrogate alone is no text. -/
example : decode? [0xD83D, 0xDE00] = some ['😀'] ∧ decode? [0xD83D] = none := by decide

theorem lt_of_mem_unitsOf {c : Char} {unit : Nat} (h : unit ∈ unitsOf c) : unit < 0x10000 := by
  have hbounds := Utf8.toNat_bounds c
  unfold unitsOf at h
  split at h
  · rw [List.mem_singleton] at h
    omega
  · simp only [List.mem_cons, List.not_mem_nil, or_false] at h
    omega

theorem decode?_unitsOf_append (c : Char) (rest : List Nat) :
    decode? (unitsOf c ++ rest) = (decode? rest).map (c :: ·) := by
  have hbounds := Utf8.toNat_bounds c
  have hchar := Char.ofNat_toNat c
  unfold unitsOf
  generalize c.toNat = v at hbounds hchar
  subst hchar
  split
  · rename_i hplain
    rw [List.singleton_append, decode?.eq_def]
    exact if_pos hbounds.left
  · rename_i hpair
    have hvalue : 0x10000 + (0xD800 + (v - 0x10000) / 0x400 - 0xD800) * 0x400 +
        (0xDC00 + (v - 0x10000) % 0x400 - 0xDC00) = v := by
      omega
    rw [List.cons_append, List.singleton_append, decode?, if_neg (by omega),
      if_pos (by omega), hvalue]

theorem unitsOf?_flatMap_append {bytes : Nat -> List UInt8} {ofBytes : UInt8 -> UInt8 -> Nat}
    {units : List Nat}
    (h : forall unit, unit ∈ units -> exists first second,
      bytes unit = [first, second] ∧ ofBytes first second = unit) (rest : List UInt8) :
    unitsOf? ofBytes (units.flatMap bytes ++ rest) =
      (unitsOf? ofBytes rest).map (units ++ ·) := by
  induction units with
  | nil =>
      simp
  | cons unit others ih =>
      obtain ⟨first, second, hbytes, hunit⟩ := h unit List.mem_cons_self
      rw [List.flatMap_cons, hbytes, List.append_assoc, List.cons_append,
        List.singleton_append, unitsOf?, ih fun u hu => h u (List.mem_cons_of_mem unit hu),
        hunit, Option.map_map]
      rfl

theorem exists_bigEndian_eq {unit : Nat} (h : unit < 0x10000) :
    exists first second, bigEndian unit = [first, second] ∧ ofBigEndian first second = unit := by
  refine ⟨_, _, rfl, ?_⟩
  unfold ofBigEndian
  rw [Utf8.toNat_byte (by omega), Utf8.toNat_byte (by omega)]
  omega

theorem exists_littleEndian_eq {unit : Nat} (h : unit < 0x10000) :
    exists first second,
      littleEndian unit = [first, second] ∧ ofLittleEndian first second = unit := by
  refine ⟨_, _, rfl, ?_⟩
  unfold ofLittleEndian
  rw [Utf8.toNat_byte (by omega), Utf8.toNat_byte (by omega)]
  omega

end Utf16

end Text
end HttpCall
