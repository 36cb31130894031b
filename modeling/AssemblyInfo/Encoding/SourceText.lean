import AssemblyInfo.Encoding.Utf32

/-!
# Source text

The bytes of a source file are read in the encoding that their byte order mark names, and in UTF-8
if there is none. The mark is not part of the text, and no bytes are refused.
-/

namespace AssemblyInfo.Encoding

/-- The encodings of source files. -/
inductive Charset where
  | utf8
  | utf16 (order : ByteOrder)
  | utf32 (order : ByteOrder)
  deriving DecidableEq, Repr

namespace Charset

/-- `charset.decode bytes` reads `bytes`, with replacement characters for what is ill-formed. -/
def decode (charset : Charset) (bytes : List UInt8) : List Char :=
  match charset with
  | .utf8 => Utf8.decodeReplacing bytes
  | .utf16 order => Utf16.decodeReplacing order bytes
  | .utf32 order => Utf32.decodeReplacing order bytes

/-- `charset.encode chars` is the bytes of `chars`. -/
def encode (charset : Charset) (chars : List Char) : List UInt8 :=
  match charset with
  | .utf8 => Utf8.encode chars
  | .utf16 order => Utf16.encode order chars
  | .utf32 order => Utf32.encode order chars

/-- `charset.mark` is the byte order mark of `charset`: the bytes of U+FEFF. -/
def mark : Charset → List UInt8
  | .utf32 .littleEndian => [0xFF, 0xFE, 0x00, 0x00]
  | .utf32 .bigEndian => [0x00, 0x00, 0xFE, 0xFF]
  | .utf8 => [0xEF, 0xBB, 0xBF]
  | .utf16 .littleEndian => [0xFF, 0xFE]
  | .utf16 .bigEndian => [0xFE, 0xFF]

/-- The encodings in the order in which their marks are looked for: the mark of UTF-32 starts with
the one of UTF-16. -/
def all : List Charset :=
  [.utf32 .littleEndian, .utf32 .bigEndian, .utf8, .utf16 .littleEndian, .utf16 .bigEndian]

end Charset

/-- `markedCharset? bytes` is the first encoding whose mark starts `bytes`. -/
def markedCharset? (bytes : List UInt8) : Option Charset :=
  Charset.all.find? fun charset => charset.mark.isPrefixOf bytes

/-- `decodeSource bytes` is the text of a source file. -/
def decodeSource (bytes : List UInt8) : List Char :=
  match markedCharset? bytes with
  | some charset => charset.decode (bytes.drop charset.mark.length)
  | none => Utf8.decodeReplacing bytes

end AssemblyInfo.Encoding
