import AssemblyInfo.Text.Hex
import AssemblyInfo.Text.Printable

/-!
# Quoted texts

A text as messages show it: between quotes, on one line, with escapes for what is not printable.
The quotes are single ones, unless the text holds a single quote and no double quote.
-/

namespace AssemblyInfo.Text

def quoteFor (chars : List Char) : Char :=
  if chars.contains '\'' && !chars.contains '"' then '"' else '\''

/-- `escapeShort? quote c` is the escape of two characters for `c` between `quote`s, if there is
one. -/
def escapeShort? (quote c : Char) : Option (List Char) :=
  if c = quote || c = '\\' then some ['\\', c]
  else if c = '\n' then some ['\\', 'n']
  else if c = '\r' then some ['\\', 'r']
  else if c = '\t' then some ['\\', 't']
  else none

/-- `escapeCode n` is the escape by code point, of two, four or eight digits. -/
def escapeCode (n : Nat) : List Char :=
  if n < 0x100 then '\\' :: 'x' :: hexDigits 2 n
  else if n < 0x10000 then '\\' :: 'u' :: hexDigits 4 n
  else '\\' :: 'U' :: hexDigits 8 n

def quotedChar (quote c : Char) : List Char :=
  match escapeShort? quote c with
  | some escape => escape
  | none => if isPrintable c then [c] else escapeCode c.toNat

def quotedChars (chars : List Char) : List Char :=
  quoteFor chars :: chars.flatMap (quotedChar (quoteFor chars)) ++ [quoteFor chars]

def quoted (text : String) : String :=
  String.ofList (quotedChars text.toList)

def quotedByte (quote : Char) (byte : UInt8) : List Char :=
  match escapeShort? quote (Char.ofNat byte.toNat) with
  | some escape => escape
  | none =>
    if 0x20 ≤ byte.toNat && byte.toNat < 0x7F then [Char.ofNat byte.toNat]
    else escapeCode byte.toNat

/-- `quotedBytes bytes` is `bytes` between quotes, after the letter b. -/
def quotedBytes (bytes : List UInt8) : String :=
  let quote := quoteFor (bytes.map fun byte => Char.ofNat byte.toNat)
  String.ofList ('b' :: quote :: bytes.flatMap (quotedByte quote) ++ [quote])

end AssemblyInfo.Text
