import AssemblyInfo.Calendar
import AssemblyInfo.Encoding.Utf8
import AssemblyInfo.Text.Hex
import AssemblyInfo.Text.Quoted

/-!
# Faults

Everything that can go wrong, by cause, and the wording of each cause.
-/

namespace AssemblyInfo
open Text

/-- Why a path cannot be used. -/
inductive PathCause where
  | missing
  | occupied
  | notDirectory
  | isDirectory
  | nameTooLong
  | denied
  deriving DecidableEq, Repr

/-- What went wrong. -/
inductive Fault where
  /-- A value of the given kind stands where a text is folded to lower case. -/
  | notText (kind : String)
  /-- A value of the given kind stands where a function is called. -/
  | notCallable (kind : String)
  /-- A value of the given kind stands where a text is stripped of its quotes. -/
  | notQuotable (kind : String)
  /-- Bytes stand where a text is stripped of its quotes. -/
  | bytesNotQuotable
  /-- A value of the given kind has no length. -/
  | noLength (kind : String)
  /-- A value of the given kind has no items. -/
  | notIterable (kind : String)
  /-- No entry for the key, which is given as it is shown. -/
  | missing (shown : String)
  /-- Nothing to take from an empty collection. -/
  | empty
  /-- No folded set can be built from other items. -/
  | notBuildable
  /-- A folded set and an operand of another kind have no order. -/
  | incomparable (relation kind : String)
  /-- A value of the given kind is no key of a JSON object. -/
  | badKey (kind : String)
  /-- A value of the given kind stands where a key is filed. -/
  | unhashable (kind : String)
  /-- A field of a value of the given kind has not been set. -/
  | unset (kind field : String)
  /-- A value of the given kind cannot be copied. -/
  | notCopyable (kind : String)
  /-- A collection contains itself. -/
  | circular
  /-- No path was given. -/
  | noPath
  /-- A value of the given kind stands where a path is wanted. -/
  | notPath (kind : String)
  /-- A path holds a null character. -/
  | nullInPath
  /-- There is no home directory of the given user. -/
  | noHome
  /-- The file system refuses a path. -/
  | refused (cause : PathCause) (file : String)
  /-- The disk is full. -/
  | noSpace
  /-- The source file does not exist. -/
  | noSource (file : String)
  /-- The settings file does not exist. -/
  | noSettings (file : String)
  /-- The settings file cannot be parsed. -/
  | malformedSettings (name : String)
  /-- The settings file holds something else than a mapping. -/
  | settingsNotMapping (name : String)
  /-- The settings file is not in UTF-8. -/
  | illFormedText (stretch : Encoding.Utf8.IllFormed)
  /-- A date or time is out of range. -/
  | calendar (flaw : Calendar.Flaw)
  /-- A text is no integer of the base. -/
  | badInteger (base : Nat) (text : String)
  /-- A text is no double. -/
  | badFloat (text : String)
  /-- A decimal integer of the given number of digits is too long to be read. -/
  | longNumeral (digits : Nat)
  /-- An integer is too long to be written in decimal. -/
  | longInteger
  /-- A number has no digits. -/
  | emptyNumber
  /-- A scalar tagged as a timestamp is none. -/
  | badTimestamp
  /-- A mapping is tagged as a timestamp. -/
  | timestampMapping
  /-- An escape names no character. -/
  | badCodePoint
  /-- The number of an escape does not fit in a machine word. -/
  | hugeCodePoint
  /-- An escape names a surrogate. -/
  | loneSurrogate
  /-- A part of a double is too large. -/
  | numberTooLarge
  /-- Values stand for one another, or are copied, without end. -/
  | endless
  deriving DecidableEq, Repr

namespace PathCause

def text : PathCause → String
  | .missing => "[Errno 2] No such file or directory"
  | .denied => "[Errno 13] Permission denied"
  | .occupied => "[Errno 17] File exists"
  | .notDirectory => "[Errno 20] Not a directory"
  | .isDirectory => "[Errno 21] Is a directory"
  | .nameTooLong => "[Errno 36] File name too long"

end PathCause

def flawText : Encoding.Utf8.Flaw → String
  | .badStart => "invalid start byte"
  | .badContinuation => "invalid continuation byte"
  | .unexpectedEnd => "unexpected end of data"

def stretchText (stretch : Encoding.Utf8.IllFormed) : String :=
  let number := fun n => String.ofList (Decimal.naturalText n)
  match stretch.bytes with
  | [byte] =>
    "byte 0x" ++ String.ofList (hexDigits 2 byte.toNat) ++ " in position " ++
      number stretch.position
  | bytes =>
    "bytes in position " ++ number stretch.position ++ "-" ++
      number (stretch.position + bytes.length - 1)

/-- `shortened text` is the first two hundred characters of `text`. -/
def shortened (text : String) : String :=
  String.ofList (text.toList.take 200)

/-- The wording of the limit on the digits of integers. -/
def limitText : String :=
  "Exceeds the limit (" ++ String.ofList (Decimal.naturalText Decimal.longestNumeral) ++
    " digits) for integer string conversion"

/-- How the limit on the digits of integers is raised. -/
def limitAdvice : String :=
  "; use sys.set_int_max_str_digits() to increase the limit"

namespace Fault

def message : Fault → String
  | .notText kind => "'" ++ kind ++ "' object has no attribute 'lower'"
  | .notCallable kind => "'" ++ kind ++ "' object is not callable"
  | .notQuotable kind => "'" ++ kind ++ "' object has no attribute 'startswith'"
  | .bytesNotQuotable => "startswith first arg must be bytes or a tuple of bytes, not str"
  | .noLength kind => "object of type '" ++ kind ++ "' has no len()"
  | .notIterable kind => "'" ++ kind ++ "' object is not iterable"
  | .missing shown => shown
  | .empty => ""
  | .notBuildable => "CaseInsensitiveSet.__init__() takes 1 positional argument but 2 were given"
  | .incomparable relation kind =>
    "'" ++ relation ++ "' not supported between instances of 'CaseInsensitiveSet' and '" ++
      kind ++ "'"
  | .badKey kind => "keys must be str, int, float, bool or None, not " ++ kind
  | .unhashable kind => "unhashable type: '" ++ kind ++ "'"
  | .unset kind field => "'" ++ kind ++ "' object has no attribute '" ++ field ++ "'"
  | .notCopyable kind => "cannot pickle '" ++ kind ++ "' object"
  | .circular => "Circular reference detected"
  | .noPath => "path must not be None"
  | .notPath kind => "expected str, bytes or os.PathLike object, not " ++ kind
  | .nullInPath => "embedded null byte"
  | .noHome => "Could not determine home directory."
  | .refused cause file => cause.text ++ ": " ++ quoted file
  | .noSpace => "[Errno 28] No space left on device"
  | .noSource file => "Assembly info file '" ++ file ++ "' does not exist."
  | .noSettings file => "Settings file '" ++ file ++ "' does not exist."
  | .malformedSettings name => "Failed to parse " ++ name ++ ":"
  | .settingsNotMapping name => name ++ " must contain a mapping at the root"
  | .illFormedText stretch =>
    "'utf-8' codec can't decode " ++ stretchText stretch ++ ": " ++ flawText stretch.flaw
  | .calendar flaw => flaw.message
  | .badInteger base text =>
    "invalid literal for int() with base " ++ String.ofList (Decimal.naturalText base) ++ ": " ++
      shortened (quoted text)
  | .badFloat text => "could not convert string to float: " ++ quoted text
  | .longNumeral digits =>
    limitText ++ ": value has " ++ String.ofList (Decimal.naturalText digits) ++ " digits" ++
      limitAdvice
  | .longInteger => limitText ++ limitAdvice
  | .emptyNumber => "string index out of range"
  | .badTimestamp => "'NoneType' object has no attribute 'groupdict'"
  | .timestampMapping => "expected string or bytes-like object, got 'list'"
  | .badCodePoint => "chr() arg not in range(0x110000)"
  | .hugeCodePoint => "Python int too large to convert to C int"
  | .loneSurrogate => "surrogates not allowed"
  | .numberTooLarge => "int too large to convert to float"
  | .endless => "maximum recursion depth exceeded"

/-- `fault.isConfiguration` says that `fault` lies in what the user configured, and is reported
without a failure of the program. -/
def isConfiguration : Fault → Bool
  | .noSource _ | .noSettings _ | .malformedSettings _ | .settingsNotMapping _ => true
  | _ => false

end Fault

end AssemblyInfo
