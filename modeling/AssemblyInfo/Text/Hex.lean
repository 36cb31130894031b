/-!
# Hexadecimal digits
-/

namespace AssemblyInfo.Text

/-- `hexDigit n` is the lower case hexadecimal digit of the last four bits of `n`. -/
def hexDigit (n : Nat) : Char :=
  Char.ofNat (if n % 16 < 10 then 0x30 + n % 16 else 0x57 + n % 16)

/-- `hexDigits width n` is `n` as `width` hexadecimal digits; higher digits are left out. -/
def hexDigits : Nat → Nat → List Char
  | 0, _ => []
  | width + 1, n => hexDigits width (n / 16) ++ [hexDigit n]

/-- `hexValue? c` is the value of the hexadecimal digit `c`, in either case. -/
def hexValue? (c : Char) : Option Nat :=
  if '0' ≤ c && c ≤ '9' then some (c.toNat - 0x30)
  else if 'a' ≤ c && c ≤ 'f' then some (c.toNat - 0x57)
  else if 'A' ≤ c && c ≤ 'F' then some (c.toNat - 0x37)
  else none

end AssemblyInfo.Text
