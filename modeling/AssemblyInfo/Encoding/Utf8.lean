/-!
# UTF-8

A byte string is read as a sequence of pieces: characters, and ill-formed stretches that are as
long as they can be while still the start of some character. A reader that replaces gives one
replacement character for each ill-formed stretch; a strict reader stops at the first one.
-/

namespace AssemblyInfo.Encoding

/-- The character that stands for bytes that cannot be read. -/
def replacement : Char := '\uFFFD'

namespace Utf8

/-- Why a stretch of bytes is ill-formed. -/
inductive Flaw where
  /-- The first byte starts no character. -/
  | badStart
  /-- The next byte does not continue the character. -/
  | badContinuation
  /-- The bytes end within the character. -/
  | unexpectedEnd
  deriving DecidableEq, Repr

/-- A stretch of a byte string. -/
inductive Piece where
  | char (c : Char)
  | illFormed (bytes : List UInt8) (flaw : Flaw)
  deriving DecidableEq, Repr

/-- A character whose first bytes have been read. -/
structure Pending where
  /-- The bytes read so far. -/
  seen : List UInt8
  /-- The number of bytes that follow the next one. -/
  after : Nat
  /-- The bits read so far. -/
  bits : Nat
  /-- The least next byte. -/
  least : UInt8
  /-- The greatest next byte. -/
  most : UInt8
  deriving DecidableEq, Repr

/-- `lead? byte` is the character that `byte` starts, beyond ASCII. -/
def lead? (byte : UInt8) : Option Pending :=
  if 0xC2 ≤ byte && byte ≤ 0xDF then some ⟨[byte], 0, byte.toNat - 0xC0, 0x80, 0xBF⟩
  else if byte = 0xE0 then some ⟨[byte], 1, 0, 0xA0, 0xBF⟩
  else if byte = 0xED then some ⟨[byte], 1, 0xD, 0x80, 0x9F⟩
  else if 0xE1 ≤ byte && byte ≤ 0xEF then some ⟨[byte], 1, byte.toNat - 0xE0, 0x80, 0xBF⟩
  else if byte = 0xF0 then some ⟨[byte], 2, 0, 0x90, 0xBF⟩
  else if byte = 0xF4 then some ⟨[byte], 2, 4, 0x80, 0x8F⟩
  else if 0xF1 ≤ byte && byte ≤ 0xF3 then some ⟨[byte], 2, byte.toNat - 0xF0, 0x80, 0xBF⟩
  else none

def start (byte : UInt8) : List Piece × Option Pending :=
  if byte < 0x80 then ([.char (Char.ofNat byte.toNat)], none)
  else
    match lead? byte with
    | some pending => ([], some pending)
    | none => ([.illFormed [byte] .badStart], none)

def Pending.next (pending : Pending) (byte : UInt8) : List Piece × Option Pending :=
  let bits := pending.bits * 64 + (byte.toNat - 0x80)
  match pending.after with
  | 0 => ([.char (Char.ofNat bits)], none)
  | after + 1 => ([], some ⟨pending.seen ++ [byte], after, bits, 0x80, 0xBF⟩)

/-- `step state byte` reads one byte. -/
def step (state : Option Pending) (byte : UInt8) : List Piece × Option Pending :=
  match state with
  | none => start byte
  | some pending =>
    if pending.least ≤ byte && byte ≤ pending.most then pending.next byte
    else
      let (found, next) := start byte
      (.illFormed pending.seen .badContinuation :: found, next)

def finish : Option Pending → List Piece
  | none => []
  | some pending => [.illFormed pending.seen .unexpectedEnd]

def piecesFrom (state : Option Pending) : List UInt8 → List Piece
  | [] => finish state
  | byte :: rest => (step state byte).1 ++ piecesFrom (step state byte).2 rest

/-- `pieces bytes` is the sequence of the pieces of `bytes`. -/
def pieces (bytes : List UInt8) : List Piece :=
  piecesFrom none bytes

def Piece.replaced : Piece → Char
  | .char c => c
  | .illFormed _ _ => replacement

/-- `decodeReplacing bytes` reads `bytes`, with a replacement character for each ill-formed
stretch. -/
def decodeReplacing (bytes : List UInt8) : List Char :=
  (pieces bytes).map Piece.replaced

def encodeChar (c : Char) : List UInt8 :=
  let n := c.toNat
  let continuation := fun (bits : Nat) => (0x80 + bits % 64).toUInt8
  if n < 0x80 then [n.toUInt8]
  else if n < 0x800 then [(0xC0 + n / 64).toUInt8, continuation n]
  else if n < 0x10000 then
    [(0xE0 + n / 4096).toUInt8, continuation (n / 64), continuation n]
  else
    [(0xF0 + n / 262144).toUInt8, continuation (n / 4096), continuation (n / 64), continuation n]

/-- `encode chars` is the bytes of `chars`. -/
def encode (chars : List Char) : List UInt8 :=
  chars.flatMap encodeChar

/-- An ill-formed stretch and where it starts. -/
structure IllFormed where
  position : Nat
  bytes : List UInt8
  flaw : Flaw
  deriving DecidableEq, Repr

/-- `Piece.collect position pieces` is the characters of `pieces`, which start at `position`,
unless some piece is ill-formed. -/
def Piece.collect (position : Nat) : List Piece → Except IllFormed (List Char)
  | [] => .ok []
  | .char c :: rest => (Piece.collect (position + (encodeChar c).length) rest).map (c :: ·)
  | .illFormed bytes flaw :: _ => .error ⟨position, bytes, flaw⟩

/-- `decode bytes` reads `bytes` if they are well formed. -/
def decode (bytes : List UInt8) : Except IllFormed (List Char) :=
  Piece.collect 0 (pieces bytes)

end Utf8

end AssemblyInfo.Encoding
