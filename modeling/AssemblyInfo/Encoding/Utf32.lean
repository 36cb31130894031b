import AssemblyInfo.Encoding.Utf16

/-!
# UTF-32

A byte string is read as code points of four bytes. A unit that is no character, and a last unit
of fewer than four bytes, are read as one replacement character each.
-/

namespace AssemblyInfo.Encoding.Utf32

def point (order : ByteOrder) (a b c d : UInt8) : Nat :=
  match order with
  | .littleEndian => ((d.toNat * 256 + c.toNat) * 256 + b.toNat) * 256 + a.toNat
  | .bigEndian => ((a.toNat * 256 + b.toNat) * 256 + c.toNat) * 256 + d.toNat

/-- `charOf n` is the character with code point `n`, or the replacement character. -/
def charOf (n : Nat) : Char :=
  if n.isValidChar then Char.ofNat n else replacement

/-- `decodeReplacing order bytes` reads `bytes`, with replacement characters for what is
ill-formed. -/
def decodeReplacing (order : ByteOrder) : List UInt8 → List Char
  | [] => []
  | a :: b :: c :: d :: rest => charOf (point order a b c d) :: decodeReplacing order rest
  | _ => [replacement]

def encodeChar (order : ByteOrder) (c : Char) : List UInt8 :=
  let n := c.toNat
  let bytes := [n % 256, n / 256 % 256, n / 65536 % 256, n / 16777216].map Nat.toUInt8
  match order with
  | .littleEndian => bytes
  | .bigEndian => bytes.reverse

/-- `encode order chars` is the bytes of `chars`. -/
def encode (order : ByteOrder) (chars : List Char) : List UInt8 :=
  chars.flatMap (encodeChar order)

end AssemblyInfo.Encoding.Utf32
