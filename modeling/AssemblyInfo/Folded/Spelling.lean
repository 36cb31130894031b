import AssemblyInfo.Fault
import AssemblyInfo.Text.LowerCase
import AssemblyInfo.Value.Text

/-!
# Spellings

Names in which case does not count. All spellings of a name have one folded form. Names are texts, or texts
and bytes, which have a lower case form of their own. A key may be something else than a name; then it has no
folded form, and is refused.
-/

namespace AssemblyInfo.Folded
open Text

/-- Names in which case does not count. -/
class Spelling (ν : Type) where
  /-- The form that all spellings of a name have in common. -/
  fold : ν → ν
  /-- A name as a value. -/
  toValue : ν → Value

/-- Keys some of which are names. -/
class Naming (κ ν : Type) where
  /-- The name that a key is. -/
  nameOf : κ → Except Fault ν

/-- `noLowerCase value` is the fault that `value` has no lower case form. An object may have an attribute
of that name, but it cannot be called. -/
def noLowerCase (value : Value) : Fault :=
  match value with
  | .record fields =>
    match fields.reverse.lookup "lower" with
    | some own => .notCallable own.kind
    | none => .notText value.kind
  | .dataclass kind _ fields =>
    match fields.reverse.lookup "lower" with
    | some (.ok own) => .notCallable own.kind
    | _ => .notText kind
  | _ => .notText value.kind

instance : Spelling String where
  fold := lower
  toValue := .text

@[simp]
theorem fold_text (s : String) : Spelling.fold s = lower s := rfl

/-- The value that stands for a name, where texts are the only names. -/
instance : Naming Value String where
  nameOf value :=
    match value.now with
    | .text s => .ok s
    | other => .error (noLowerCase other)

/-- A key that is a text, or something of another kind that has no lower case form. -/
inductive Key where
  | text (s : String)
  | other (kind : String)
  deriving DecidableEq, Repr

instance : Naming Key String where
  nameOf
    | .text s => .ok s
    | .other kind => .error (.notText kind)

/-- A text or bytes. -/
inductive Name where
  | text (s : String)
  | bytes (data : List UInt8)
  deriving DecidableEq, Repr

/-- `lowerByte byte` is the lower case form of an ASCII capital, and `byte` itself otherwise. -/
def lowerByte (byte : UInt8) : UInt8 :=
  if 0x41 ≤ byte && byte ≤ 0x5A then byte + 0x20 else byte

instance : Spelling Name where
  fold
    | .text s => .text (lower s)
    | .bytes data => .bytes (data.map lowerByte)
  toValue
    | .text s => .text s
    | .bytes data => .bytes data

/-- The value that stands for a name, where texts and bytes are names. -/
instance : Naming Value Name where
  nameOf value :=
    match value.now with
    | .text s => .ok (.text s)
    | .bytes data => .ok (.bytes data)
    | other => .error (noLowerCase other)

end AssemblyInfo.Folded
