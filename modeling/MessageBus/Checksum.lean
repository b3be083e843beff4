import MessageBus.Wire.Layout

namespace MessageBus

open Wire (Bytes)

/-!
# CRC-32

The checksum that stands for a definition text.  It is the remainder of the
text, read as a polynomial over two elements with the lowest bit of each byte
first, on division by the generator 0xEDB88320 (the reflected form of
0x04C11DB7); the register starts with all bits set and is complemented at the
end.

The register is advanced one bit at a time.  Each such step is linear in the
register, and so is everything that is built from steps, which is the reason
why small differences between two texts of one length cannot cancel.
-/

namespace Crc32

/-- The generator, lowest power first. -/
def generator : UInt32 := 0xEDB88320

/-- Move the register by one bit. -/
def shift (register : UInt32) : UInt32 :=
  if register &&& 1 == 1 then (register >>> 1) ^^^ generator else register >>> 1

/-- Move the register by a number of bits. -/
def shifts : (count : Nat) -> UInt32 -> UInt32
  | 0, register => register
  | count + 1, register => shifts count (shift register)

/-- Take one byte into the register. -/
def absorb (register : UInt32) (byte : UInt8) : UInt32 :=
  shifts 8 (register ^^^ byte.toUInt32)

/-- The register after a byte string, from the given start. -/
def run (register : UInt32) (bytes : Bytes) : UInt32 :=
  bytes.foldl absorb register

def checksum (bytes : Bytes) : UInt32 :=
  run 0xFFFFFFFF bytes ^^^ 0xFFFFFFFF

end Crc32

end MessageBus
