import AssemblyInfo.Decimal.Shortest

/-!
# Decimal notation

The text of a number. A double is written with the fewest digits that read back, and always with a
point or an exponent.
-/

namespace AssemblyInfo.Decimal

def naturalText (n : Nat) : List Char :=
  Nat.toDigits 10 n

/-- `integerText n` is the decimal digits of `n`, after a minus sign if `n` is negative. -/
def integerText : Int → List Char
  | .ofNat n => naturalText n
  | .negSucc n => '-' :: naturalText (n + 1)

/-- The number of digits up to which integers are read and written in decimal. -/
def longestNumeral : Nat := 4300

def isLong (n : Nat) : Bool :=
  Nat.pow 10 longestNumeral ≤ n

/-- `dropZeros chars` is `chars` without its trailing zeros. -/
def dropZeros (chars : List Char) : List Char :=
  (chars.reverse.dropWhile (· == '0')).reverse

def exponentText (exponent : Int) : List Char :=
  let digits := naturalText exponent.natAbs
  'e' :: (if exponent < 0 then '-' else '+') :: (if digits.length < 2 then '0' :: digits else digits)

/-- `pointedText digits point` is `digits`, which are not empty, with the decimal point after the
first `point` of them. Zeros fill the places between the point and the digits. -/
def pointedText (digits : List Char) : Int → List Char
  | .ofNat 0 => '0' :: '.' :: digits
  | .ofNat point =>
    if digits.length ≤ point then
      digits ++ List.replicate (point - digits.length) '0' ++ ['.', '0']
    else digits.take point ++ '.' :: digits.drop point
  | .negSucc zeros => '0' :: '.' :: List.replicate (zeros + 1) '0' ++ digits

/-- `exponentialText digits exponent` is `digits`, which are not empty, with the point after the
first one, and an exponent. -/
def exponentialText (digits : List Char) (exponent : Int) : List Char :=
  match digits with
  | [] => []
  | [d] => d :: exponentText exponent
  | d :: rest => d :: '.' :: rest ++ exponentText exponent

/-- `scientificText digits exponent` writes the decimal whose first digit has the given exponent:
positionally from `10 ^ -4` to below `10 ^ 16`. -/
def scientificText (digits : List Char) (exponent : Int) : List Char :=
  if -4 ≤ exponent && exponent < 16 then pointedText digits (exponent + 1)
  else exponentialText digits exponent

def finiteText (mantissa : Nat) (exponent : Int) : List Char :=
  if mantissa = 0 then ['0', '.', '0']
  else
    let shortest := (Rounding.of mantissa exponent).shortest
    let digits := naturalText shortest.digits
    scientificText (dropZeros digits) (shortest.exponent + digits.length - 1)

/-- How the doubles that are no finite numbers are written. -/
structure SpecialNames where
  infinity : List Char
  notANumber : List Char

def floatTextWith (names : SpecialNames) (x : Float) : List Char :=
  let signed := fun (chars : List Char) => if isNegative x then '-' :: chars else chars
  match magnitude x with
  | .finite mantissa exponent => signed (finiteText mantissa exponent)
  | .infinite => signed names.infinity
  | .notANumber => names.notANumber

def floatText (x : Float) : List Char :=
  floatTextWith ⟨"inf".toList, "nan".toList⟩ x

end AssemblyInfo.Decimal
