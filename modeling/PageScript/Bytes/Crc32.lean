/-
The checksum CRC-32: the remainder of the bytes as a polynomial over two elements, bits reflected,
started with all ones and complemented at the end.
-/

namespace PageScript.Bytes

def crcPolynomial : UInt32 := 0xEDB88320

def crcBit (r : UInt32) : UInt32 :=
  if r &&& 1 = 1 then (r >>> 1) ^^^ crcPolynomial else r >>> 1

def crcByte (r : UInt32) (b : UInt8) : UInt32 :=
  Nat.repeat crcBit 8 (r ^^^ b.toUInt32)

def crc32 (bytes : List UInt8) : Nat :=
  (bytes.foldl crcByte 0xFFFFFFFF ^^^ 0xFFFFFFFF).toNat

end PageScript.Bytes
