/-!
# Base 64

Bytes written with six bits a character. Characters outside the alphabet are passed over, and so is
everything after the padding.
-/

namespace AssemblyInfo.Encoding.Base64

def sextet? (c : Char) : Option Nat :=
  if 'A' ≤ c && c ≤ 'Z' then some (c.toNat - 0x41)
  else if 'a' ≤ c && c ≤ 'z' then some (c.toNat - 0x61 + 26)
  else if '0' ≤ c && c ≤ '9' then some (c.toNat - 0x30 + 52)
  else if c = '+' then some 62
  else if c = '/' then some 63
  else none

/-- The state of the reading: how many characters of a group of four have been read, the bits left
over from them, and how many padding characters have followed. -/
structure Group where
  count : Nat := 0
  bits : Nat := 0
  pads : Nat := 0

/-- `group.next sextet` takes six bits, and gives the byte that they complete. -/
def Group.next (group : Group) (sextet : Nat) : List UInt8 × Group :=
  match group.count with
  | 0 => ([], { count := 1, bits := sextet })
  | 1 => ([(group.bits * 4 + sextet / 16).toUInt8], { count := 2, bits := sextet % 16 })
  | 2 => ([(group.bits * 16 + sextet / 4).toUInt8], { count := 3, bits := sextet % 4 })
  | _ => ([(group.bits * 64 + sextet).toUInt8], {})

/-- `decodeFrom? group chars` reads `chars`, unless they end within a group. -/
def decodeFrom? (group : Group) : List Char → Option (List UInt8)
  | [] => if group.count = 0 then some [] else none
  | c :: rest =>
    if c = '=' then
      let pads := if 2 ≤ group.count then group.pads + 1 else group.pads
      if 2 ≤ group.count && 4 ≤ group.count + pads then some []
      else decodeFrom? { group with pads } rest
    else
      match sextet? c with
      | none => decodeFrom? group rest
      | some sextet => (decodeFrom? (group.next sextet).2 rest).map ((group.next sextet).1 ++ ·)

/-- `decode? chars` reads `chars`, which have to be ASCII. -/
def decode? (chars : List Char) : Option (List UInt8) :=
  if chars.all fun c => c.toNat < 0x80 then decodeFrom? {} chars else none

end AssemblyInfo.Encoding.Base64
