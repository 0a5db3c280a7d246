/-!
# Blank characters

The characters with the Unicode property White_Space, and trimming a text of
them at either end.
-/

namespace HttpCall
namespace Text

def isBlank (c : Char) : Bool :=
  (9 <= c.toNat && c.toNat <= 13) || c.toNat == 0x20 || c.toNat == 0x85 ||
    c.toNat == 0xA0 || c.toNat == 0x1680 ||
    (0x2000 <= c.toNat && c.toNat <= 0x200A) ||
    c.toNat == 0x2028 || c.toNat == 0x2029 || c.toNat == 0x202F ||
    c.toNat == 0x205F || c.toNat == 0x3000

def dropEndWhile {α : Type} (p : α -> Bool) (s : List α) : List α :=
  (s.reverse.dropWhile p).reverse

def trim (s : List Char) : List Char :=
  dropEndWhile isBlank (s.dropWhile isBlank)

end Text
end HttpCall
