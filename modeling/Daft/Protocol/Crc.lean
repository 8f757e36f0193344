/-!
# The checksum

`crc16_ccitt` guards the packets on the wire and the configuration slots.
-/

namespace Daft

/-- One round of the bit loop of `crc16_ccitt`. -/
def crcBit (crc : UInt16) : UInt16 :=
  if crc &&& 0x8000 ≠ 0 then (crc <<< 1) ^^^ 0x1021 else crc <<< 1

/-- One round of its byte loop. -/
def crcByte (crc : UInt16) (byte : UInt8) : UInt16 :=
  Nat.repeat crcBit 8 (crc ^^^ (byte.toUInt16 <<< 8))

/-- `crc16_ccitt` of the bytes `data`. -/
def crc16Ccitt (data : List UInt8) : UInt16 := data.foldl crcByte 0xFFFF

/-- The check value of CRC-16/CCITT-FALSE, over `123456789`. -/
example : crc16Ccitt [0x31, 0x32, 0x33, 0x34, 0x35, 0x36, 0x37, 0x38, 0x39] = 0x29B1 := by
  decide +kernel

end Daft
