import AssemblyInfo.Encoding.Utf8

/-!
# UTF-16

A byte string is read as code units of two bytes. A lone surrogate is read as one replacement
character, and so is what the bytes end within: half a unit, or a first surrogate with or without
half a unit after it.
-/

namespace AssemblyInfo.Encoding

/-- Which byte of a unit comes first. -/
inductive ByteOrder where
  | littleEndian
  | bigEndian
  deriving DecidableEq, Repr

namespace Utf16

/-- `unit order first second` is the code unit of two bytes. -/
def unit (order : ByteOrder) (first second : UInt8) : Nat :=
  match order with
  | .littleEndian => second.toNat * 256 + first.toNat
  | .bigEndian => first.toNat * 256 + second.toNat

/-- `units order bytes` is the code units of `bytes`, and whether a byte is left over. -/
def units (order : ByteOrder) : List UInt8 → List Nat × Bool
  | [] => ([], false)
  | [_] => ([], true)
  | first :: second :: rest =>
    let (found, left) := units order rest
    (unit order first second :: found, left)

def isFirstSurrogate (u : Nat) : Bool :=
  0xD800 ≤ u && u < 0xDC00

def isSecondSurrogate (u : Nat) : Bool :=
  0xDC00 ≤ u && u < 0xE000

/-- `readUnits left units` reads `units`; `left` says that half a unit follows them. -/
def readUnits (left : Bool) : List Nat → List Char
  | [] => if left then [replacement] else []
  | [u] =>
    if isFirstSurrogate u then [replacement]
    else
      (if isSecondSurrogate u then replacement else Char.ofNat u) :: readUnits left []
  | u :: v :: rest =>
    if isFirstSurrogate u then
      if isSecondSurrogate v then
        Char.ofNat (0x10000 + (u - 0xD800) * 1024 + (v - 0xDC00)) :: readUnits left rest
      else replacement :: readUnits left (v :: rest)
    else
      (if isSecondSurrogate u then replacement else Char.ofNat u) :: readUnits left (v :: rest)

/-- `decodeReplacing order bytes` reads `bytes`, with replacement characters for what is
ill-formed. -/
def decodeReplacing (order : ByteOrder) (bytes : List UInt8) : List Char :=
  let (found, left) := units order bytes
  readUnits left found

def encodeUnit (order : ByteOrder) (u : Nat) : List UInt8 :=
  match order with
  | .littleEndian => [(u % 256).toUInt8, (u / 256).toUInt8]
  | .bigEndian => [(u / 256).toUInt8, (u % 256).toUInt8]

def charUnits (c : Char) : List Nat :=
  if c.toNat < 0x10000 then [c.toNat]
  else [0xD800 + (c.toNat - 0x10000) / 1024, 0xDC00 + (c.toNat - 0x10000) % 1024]

/-- `encode order chars` is the bytes of `chars`. -/
def encode (order : ByteOrder) (chars : List Char) : List UInt8 :=
  (chars.flatMap charUnits).flatMap (encodeUnit order)

end Utf16

end AssemblyInfo.Encoding
