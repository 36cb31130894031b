import AssemblyInfo.CommandLine.Grammar
import AssemblyInfo.Text.Quoted

/-!
# Misuse of command lines
-/

namespace AssemblyInfo.CommandLine
open Text

/-- Why a command line cannot be read. -/
inductive Misuse where
  /-- A shortened name could be any of several. -/
  | ambiguous (word : String) (names : List String)
  /-- A value is attached to a flag. -/
  | attachedValue (flag : Flag) (value : String)
  /-- A parameter has no value. -/
  | noValue (parameter : Parameter)
  /-- Something that is required is not given. -/
  | missing (names : List String)
  /-- No command has the name. -/
  | unknownCommand (name : String)
  /-- Some words have no meaning. -/
  | unrecognized (words : List String)
  deriving DecidableEq, Repr

namespace Misuse

def listed (texts : List String) : String :=
  ", ".intercalate texts

def message : Misuse → String
  | .ambiguous word names => "ambiguous option: " ++ word ++ " could match " ++ listed names
  | .attachedValue flag value =>
    "argument " ++ (Switch.flag flag).title ++ ": ignored explicit argument " ++ quoted value
  | .noValue parameter => "argument " ++ parameter.long ++ ": expected one argument"
  | .missing names => "the following arguments are required: " ++ listed names
  | .unknownCommand name =>
    "argument " ++ Grammar.main.argument ++ ": invalid choice: " ++ quoted name ++
      " (choose from " ++ listed (Command.all.map fun command => quoted command.name) ++ ")"
  | .unrecognized words => "unrecognized arguments: " ++ " ".intercalate words

end Misuse

/-- How the reading of a command line ends early. -/
inductive Stop where
  /-- The help text is asked for. -/
  | help (lines : List String)
  | misuse (program : String) (cause : Misuse)
  deriving DecidableEq, Repr

end AssemblyInfo.CommandLine
