/-!
# UTF-16

The sixteen-bit units of a text, and the bytes of a unit in either order.
-/

namespace HttpCall
namespace Text
namespace Utf16

def unitsOf (c : Char) : List Nat :=
  if c.toNat < 0x10000 then [c.toNat]
  else [0xD800 + (c.toNat - 0x10000) / 0x400, 0xDC00 + (c.toNat - 0x10000) % 0x400]

def bigEndian (unit : Nat) : List UInt8 :=
  [UInt8.ofNat (unit / 256), UInt8.ofNat (unit % 256)]

def littleEndian (unit : Nat) : List UInt8 :=
  [UInt8.ofNat (unit % 256), UInt8.ofNat (unit / 256)]

end Utf16
end Text
end HttpCall
