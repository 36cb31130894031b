import AssemblyInfo.Text.Hex

/-!
# Log records

Messages may hold surrogates without a partner, which stand for the bytes of a file name that is in no
encoding. A log file takes no such message, and the console shows their numbers.
-/

namespace AssemblyInfo.Log

/-- How important a record is. -/
structure Level where
  rank : Int
  deriving DecidableEq, Repr

namespace Level

def debug : Level := ⟨10⟩

def info : Level := ⟨20⟩

def warning : Level := ⟨30⟩

def error : Level := ⟨40⟩

def critical : Level := ⟨50⟩

/-- The levels that have a name. -/
def names : List (Level × String) :=
  [(debug, "DEBUG"), (info, "INFO"), (warning, "WARNING"), (error, "ERROR"), (critical, "CRITICAL")]

def name (level : Level) : String :=
  (names.lookup level).getD ("Level " ++ toString level.rank)

def admits (level other : Level) : Bool :=
  level.rank ≤ other.rank

end Level

/-- A part of a message. -/
inductive Symbol where
  | char (c : Char)
  | surrogate (number : Fin 0x800)
  deriving DecidableEq, Repr

namespace Symbol

def char? : Symbol → Option Char
  | char c => some c
  | surrogate _ => none

def escaped : Symbol → List Char
  | char c => [c]
  | surrogate number => '\\' :: 'u' :: Text.hexDigits 4 (0xd800 + number)

end Symbol

abbrev Message := List Symbol

namespace Message

def ofString (text : String) : Message :=
  text.toList.map .char

instance : Coe String Message := ⟨ofString⟩

/-- `message.text?` is the text of `message`, if it holds no surrogate. -/
def text? (message : Message) : Option String :=
  (message.mapM Symbol.char?).map String.ofList

/-- `message.escaped` is `message` with the numbers of its surrogates in their place. -/
def escaped (message : Message) : String :=
  String.ofList (message.flatMap Symbol.escaped)

end Message

/-- A message of one of the program's loggers. -/
structure Record where
  logger : Message
  level : Level
  message : Message
  deriving DecidableEq, Repr

/-- The logger at the top of the hierarchy. -/
def rootLogger : String := "asminfo"

def loggerName : Option Message → Message
  | some name => if name = [] then rootLogger else .ofString (rootLogger ++ ".") ++ name
  | none => rootLogger

def debug (name message : String) : Record :=
  ⟨loggerName (some name), .debug, message⟩

end AssemblyInfo.Log
