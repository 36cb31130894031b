import AssemblyInfo.Text.RangeTable

/-!
# Blank characters

The white space of Unicode together with the four ASCII separators 1C to 1F, and the trimming of
texts by it.
-/

namespace AssemblyInfo.Text

/-- The blank characters. -/
def blankTable : RangeTable := [
  (0x9, 0xD), (0x1C, 0x20), (0x85, 0x85), (0xA0, 0xA0), (0x1680, 0x1680), (0x2000, 0x200A),
  (0x2028, 0x2029), (0x202F, 0x202F), (0x205F, 0x205F), (0x3000, 0x3000)]

/-- `isBlank c` says that `c` is a blank character. -/
def isBlank (c : Char) : Bool :=
  blankTable.has c

/-- `allBlank chars` says that `chars` holds blank characters only. -/
def allBlank (chars : List Char) : Bool :=
  chars.all isBlank

/-- `trimStart chars` is `chars` without its leading blank characters. -/
def trimStart (chars : List Char) : List Char :=
  chars.dropWhile isBlank

/-- `trimEnd chars` is `chars` without its trailing blank characters. -/
def trimEnd (chars : List Char) : List Char :=
  (chars.reverse.dropWhile isBlank).reverse

/-- `trim chars` is `chars` without its leading and trailing blank characters. -/
def trim (chars : List Char) : List Char :=
  trimEnd (trimStart chars)

theorem isBlank_newline : isBlank '\n' = true := rfl

end AssemblyInfo.Text
