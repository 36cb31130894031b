/-!
# Shortest decimals

A finite double stands for a fraction, and every decimal that lies nearer to it than to any other
double reads back as it. The shortest decimal is the one with the fewest digits among these, and
the nearest to the double among those with as few.
-/

namespace AssemblyInfo.Decimal

/-- A double without its sign: `mantissa * 2 ^ exponent`, infinity or no number. -/
inductive Magnitude where
  | finite (mantissa : Nat) (exponent : Int)
  | infinite
  | notANumber
  deriving DecidableEq, Repr

/-- The bit of the sign of a double: `2 ^ 63`. -/
def signBit : Nat := 0x8000000000000000

/-- The bit of a mantissa that is not written: `2 ^ 52`. -/
def hiddenBit : Nat := 0x10000000000000

/-- The number of exponents of a double. -/
def exponentCount : Nat := 0x800

def isNegative (x : Float) : Bool :=
  x.toBits.toNat / signBit == 1

/-- `magnitude x` is `x` without its sign. -/
def magnitude (x : Float) : Magnitude :=
  let bits := x.toBits.toNat
  let fraction := bits % hiddenBit
  match bits / hiddenBit % exponentCount with
  | 0 => .finite fraction (-1074)
  | 0x7FF => if fraction = 0 then .infinite else .notANumber
  | exponent => .finite (hiddenBit + fraction) (exponent - 1075)

/-- A fraction of natural numbers. -/
structure Ratio where
  num : Nat
  den : Nat
  deriving DecidableEq, Repr

def Ratio.scale (n base : Nat) : Int → Ratio
  | .ofNat exponent => ⟨n * Nat.pow base exponent, 1⟩
  | .negSucc exponent => ⟨n, Nat.pow base (exponent + 1)⟩

def Ratio.compare (a b : Ratio) : Ordering :=
  Ord.compare (a.num * b.den) (b.num * a.den)

def digitCount (n : Nat) : Nat :=
  (Nat.toDigits 10 n).length

/-- `decimalExponent r` is the exponent of the first digit of `r`, which is not zero. -/
def decimalExponent (r : Ratio) : Int :=
  if r.den ≤ r.num then (digitCount (r.num / r.den) : Int) - 1
  else -(digitCount ((r.den - 1) / r.num) : Int)

/-- A decimal: `digits * 10 ^ exponent`. -/
structure Scientific where
  digits : Nat
  exponent : Int
  deriving DecidableEq, Repr

/-- The fractions that read back as a double: the double, the ends of the interval around it, and
whether the ends belong to it. -/
structure Rounding where
  value : Ratio
  lower : Ratio
  upper : Ratio
  closed : Bool
  deriving DecidableEq, Repr

/-- `Rounding.of mantissa exponent` is the interval around `mantissa * 2 ^ exponent`. Below a power
of two the doubles lie twice as dense. -/
def Rounding.of (mantissa : Nat) (exponent : Int) : Rounding :=
  let below := if mantissa = hiddenBit && exponent != -1074 then 1 else 2
  { value := .scale (4 * mantissa) 2 (exponent - 2)
    lower := .scale (4 * mantissa - below) 2 (exponent - 2)
    upper := .scale (4 * mantissa + 2) 2 (exponent - 2)
    closed := mantissa % 2 == 0 }

def Rounding.holds (rounding : Rounding) (r : Ratio) : Bool :=
  match rounding.lower.compare r, r.compare rounding.upper with
  | .lt, .lt => true
  | .gt, _ => false
  | _, .gt => false
  | _, _ => rounding.closed

/-- `nearer value exponent n` is the one of `n` and `n + 1` whose multiple of `10 ^ exponent` lies
nearer to `value`; of two as near it is the even one. -/
def nearer (value : Ratio) (exponent : Int) (n : Nat) : Nat :=
  match (Ratio.scale (2 * n + 1) 10 exponent).compare ⟨2 * value.num, value.den⟩ with
  | .gt => n
  | .lt => n + 1
  | .eq => if n % 2 == 0 then n else n + 1

/-- `rounding.onGrid? exponent` is the multiple of `10 ^ exponent` in the interval that is nearest
to the value, if the interval holds one of the two next to the value. -/
def Rounding.onGrid? (rounding : Rounding) (exponent : Int) : Option Scientific :=
  let unit := Ratio.scale 1 10 exponent
  let n := rounding.value.num * unit.den / (rounding.value.den * unit.num)
  match rounding.holds (.scale n 10 exponent), rounding.holds (.scale (n + 1) 10 exponent) with
  | true, true => some ⟨nearer rounding.value exponent n, exponent⟩
  | true, false => some ⟨n, exponent⟩
  | false, true => some ⟨n + 1, exponent⟩
  | false, false => none

/-- `rounding.shortest` is the first decimal of the interval on the grids of one digit, two digits
and so on; seventeen digits always do. -/
def Rounding.shortest (rounding : Rounding) : Scientific :=
  let first := decimalExponent rounding.value
  let found := (List.range 17).findSome? fun (more : Nat) => rounding.onGrid? (first - (more : Int))
  found.getD ⟨0, 0⟩

end AssemblyInfo.Decimal
