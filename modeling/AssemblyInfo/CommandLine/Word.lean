import AssemblyInfo.CommandLine.Misuse
import AssemblyInfo.Text.Digit

/-!
# Words of command lines

What each word is, before any is acted upon. A long name may be shortened as long as no other one
starts the same way, a value may be attached to a name, and short names may be written in one word.
After a pair of dashes no word is a name.
-/

namespace AssemblyInfo.CommandLine
open Text

/-- What a word is. -/
inductive Role where
  /-- An argument or a value. -/
  | plain
  /-- The pair of dashes after which no word is a name. -/
  | dashes
  /-- The name of no option. -/
  | unknown
  | flag (flag : Flag)
  /-- A short name with more letters after it. -/
  | bundle (flag : Flag) (more : List Char)
  /-- A long name of a flag with a value. -/
  | valued (flag : Flag) (value : String)
  | parameter (parameter : Parameter) (value : Option String)
  deriving DecidableEq, Repr

/-- A word with its role. -/
structure Word where
  text : String
  role : Role
  deriving DecidableEq, Repr

/-- `assignment? chars` is what stands before and after the first equals sign. -/
def assignment? : List Char → Option (List Char × List Char)
  | [] => none
  | c :: rest =>
    if c = '=' then some ([], rest)
    else (assignment? rest).map fun (name, value) => (c :: name, value)

def areDigits (chars : List Char) : Bool :=
  !chars.isEmpty && chars.all fun c => (digit? c).isSome

/-- `withoutBreak chars` is `chars` without a line feed at its end. -/
def withoutBreak (chars : List Char) : List Char :=
  if chars.getLast? = some '\n' then chars.dropLast else chars

/-- `isMagnitude chars` says that `chars` writes a number without a sign. -/
def isMagnitude (chars : List Char) : Bool :=
  let whole := chars.takeWhile fun c => (digit? c).isSome
  match chars.drop whole.length with
  | [] => areDigits whole
  | '.' :: fraction => areDigits fraction
  | _ => false

def isNegativeNumber : List Char → Bool
  | '-' :: rest => isMagnitude (withoutBreak rest)
  | _ => false

/-- `named switch value` is the role of the long name of `switch` with a value, if one is attached. -/
def Role.named (switch : Switch) (value : Option String) : Role :=
  match switch, value with
  | .flag which, none => .flag which
  | .flag which, some text => .valued which text
  | .parameter which, text? => .parameter which text?

/-- `otherRole chars` is the role of a word with a dash at its start that names no option. -/
def otherRole (chars : List Char) : Role :=
  if isNegativeNumber chars || chars.contains ' ' then .plain else .unknown

/-- `shortRole letter more` is the role of a word of one dash, `letter` and `more`. -/
def shortRole (letter : Char) (more : List Char) : Role :=
  match Flag.ofLetter? letter, more with
  | some flag, [] => .flag flag
  | some flag, '=' :: value => .bundle flag value
  | some flag, more => .bundle flag more
  | none, more => otherRole ('-' :: letter :: more)

namespace Grammar

def named? (grammar : Grammar) (name : String) : Option Switch :=
  grammar.names.lookup name

def startingWith (grammar : Grammar) (start : List Char) : List (String × Switch) :=
  grammar.names.filter fun entry => start.isPrefixOf entry.1.toList

/-- `grammar.longRole text` is the role of the word `text`, which starts with two dashes. -/
def longRole (grammar : Grammar) (text : String) : Except Misuse Role :=
  let (name, value) :=
    match assignment? text.toList with
    | some (name, value) => (name, some (String.ofList value))
    | none => (text.toList, none)
  match grammar.named? (String.ofList name) with
  | some switch => .ok (.named switch value)
  | none =>
    match grammar.startingWith name with
    | [] => .ok (otherRole text.toList)
    | [(_, switch)] => .ok (.named switch value)
    | several => .error (.ambiguous text (several.map Prod.fst))

/-- `grammar.role text` is the role of the word `text` before any pair of dashes. -/
def role (grammar : Grammar) (text : String) : Except Misuse Role :=
  match text.toList with
  | '-' :: '-' :: _ => grammar.longRole text
  | '-' :: letter :: more => .ok (shortRole letter more)
  | _ => .ok .plain

def words (grammar : Grammar) : List String → Except Misuse (List Word)
  | [] => .ok []
  | text :: rest =>
    if text = "--" then .ok (⟨text, .dashes⟩ :: rest.map fun later => ⟨later, .plain⟩)
    else do
      let role ← grammar.role text
      return ⟨text, role⟩ :: (← grammar.words rest)

end Grammar

end AssemblyInfo.CommandLine
