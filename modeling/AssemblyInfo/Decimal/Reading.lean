import AssemblyInfo.Text.Blank
import AssemblyInfo.Text.Digit
import AssemblyInfo.Text.LowerCase
import AssemblyInfo.Text.Hex

/-!
# Reading numbers

Numbers written by people: blanks around them are passed over, a sign may come first, and the
digits may be those of any script. The ASCII separators 1C to 1F are no blanks here.
-/

namespace AssemblyInfo.Decimal
open Text

def asciiDigit (c : Char) : Char :=
  match digit? c with
  | some value => Char.ofNat (0x30 + value)
  | none => c

def isPadding (c : Char) : Bool :=
  isBlank c && !(0x1C ≤ c.toNat && c.toNat ≤ 0x1F)

/-- `withoutPadding chars` is `chars` without the blanks around it. -/
def withoutPadding (chars : List Char) : List Char :=
  ((chars.dropWhile isPadding).reverse.dropWhile isPadding).reverse

/-- `plainNumber chars` is `chars` without blanks around it and with ASCII digits. -/
def plainNumber (chars : List Char) : List Char :=
  (withoutPadding chars).map asciiDigit

/-- `takeSign chars` says whether a minus sign starts `chars`, and drops the sign. -/
def takeSign : List Char → Bool × List Char
  | '-' :: rest => (true, rest)
  | '+' :: rest => (false, rest)
  | chars => (false, chars)

def digitIn? (base : Nat) (c : Char) : Option Nat :=
  match hexValue? c with
  | some value => if value < base then some value else none
  | none => none

/-- `naturalFrom? base value chars` reads the digits `chars` after digits of the given value. -/
def naturalFrom? (base value : Nat) : List Char → Option Nat
  | [] => some value
  | c :: rest =>
    match digitIn? base c with
    | some digit => naturalFrom? base (value * base + digit) rest
    | none => none

/-- `natural? base chars` reads `chars`, one digit or more. -/
def natural? (base : Nat) (chars : List Char) : Option Nat :=
  if chars.isEmpty then none else naturalFrom? base 0 chars

/-- `baseMark base` is the letter that names the base after a zero. -/
def baseMark : Nat → Option Char
  | 2 => some 'b'
  | 8 => some 'o'
  | 16 => some 'x'
  | _ => none

/-- `dropBaseMark base chars` is `chars` without a leading zero and letter that name the base. -/
def dropBaseMark (base : Nat) (chars : List Char) : List Char :=
  match chars with
  | '0' :: c :: rest => if baseMark base = some (lowerAscii c) then rest else chars
  | _ => chars

def integer? (base : Nat) (chars : List Char) : Option Int :=
  let (negative, rest) := takeSign (plainNumber chars)
  (natural? base (dropBaseMark base rest)).map fun (n : Nat) => if negative then -(n : Int) else n

/-- `spanDigits chars` splits `chars` after its leading ASCII digits. -/
def spanDigits (chars : List Char) : List Char × List Char :=
  chars.span fun c => '0' ≤ c && c ≤ '9'

/-- `leadingDigits chars` is the number of decimal digits before the first other character, apart
from blanks and a sign at the start. -/
def leadingDigits (chars : List Char) : Nat :=
  (spanDigits (takeSign (plainNumber chars)).2).1.length

/-- `exponent? chars` reads the exponent of a decimal; there may be none. -/
def exponent? : List Char → Option Int
  | [] => some 0
  | c :: rest =>
    if c = 'e' || c = 'E' then
      let (negative, digits) := takeSign rest
      if digits.all fun c => '0' ≤ c && c ≤ '9' then
        (natural? 10 digits).map fun (n : Nat) => if negative then -(n : Int) else n
      else none
    else none

/-- `scientific digits exponent` is the double nearest to `digits * 10 ^ exponent`. Exponents far
beyond the range of doubles are cut first, which changes no result. -/
def scientific (digits : Nat) (exponent : Int) : Float :=
  if digits = 0 then 0
  else
    let last := exponent + (Nat.toDigits 10 digits).length
    if 400 < last then Float.ofScientific 1 false 400
    else if last < -400 then 0
    else
      match exponent with
      | .ofNat e => Float.ofScientific digits false e
      | .negSucc e => Float.ofScientific digits true (e + 1)

/-- `decimal? chars` reads a decimal without a sign. -/
def decimal? (chars : List Char) : Option Float :=
  let (whole, rest) := spanDigits chars
  let (fraction, rest) :=
    match rest with
    | '.' :: rest => spanDigits rest
    | _ => ([], rest)
  match natural? 10 (whole ++ fraction), exponent? rest with
  | some digits, some exponent => some (scientific digits (exponent - fraction.length))
  | _, _ => none

/-- `unsignedFloat? chars` reads a decimal, an infinity or the name of no number, without a sign. -/
def unsignedFloat? (chars : List Char) : Option Float :=
  let name := String.ofList (chars.map lowerAscii)
  if name = "inf" || name = "infinity" then some (1.0 / 0.0)
  else if name = "nan" then some (0.0 / 0.0)
  else decimal? chars

def float? (chars : List Char) : Option Float :=
  let (negative, rest) := takeSign (plainNumber chars)
  (unsignedFloat? rest).map fun x => if negative then -x else x

end AssemblyInfo.Decimal
