import AssemblyInfo.CommandLine.Reading

/-!
# Invocations

What a command line asks for.
-/

namespace AssemblyInfo.CommandLine

/-- What is to be done. -/
inductive Task where
  | parse (path : String)
  | create (output config : String) (version fileVersion informationalVersion : Option String)
  deriving DecidableEq, Repr

/-- What a command line asks for. -/
structure Invocation where
  verbose : Bool
  logFile : Option String
  task : Task
  deriving DecidableEq, Repr

/-- `command.task reading` is what `command` is to do after `reading`, in which nothing that is
required is missing. -/
def Command.task (command : Command) (reading : Reading) : Task :=
  let argument := reading.argument.getD ""
  let value? := fun parameter => reading.values.lookup parameter
  match command with
  | .parse => .parse argument
  | .create =>
    .create argument ((value? .config).getD "") (value? .version) (value? .fileVersion)
      (value? .informationalVersion)

/-- `readHead words reading` acts upon the words before the command, and returns the words from it
on. -/
def readHead : List Word → Reading → Except Stop (Reading × List String)
  | [], reading => .ok (reading, [])
  | ⟨_, .parameter parameter none⟩ :: ⟨value, .plain⟩ :: rest, reading =>
    readHead rest (reading.give parameter value)
  | ⟨text, .plain⟩ :: rest, reading => .ok (reading, text :: rest.map Word.text)
  | [⟨text, .dashes⟩], reading => .ok (reading.leave text, [])
  | ⟨text, .dashes⟩ :: rest, reading => .ok (reading, text :: rest.map Word.text)
  | ⟨text, .unknown⟩ :: rest, reading => readHead rest (reading.leave text)
  | ⟨_, role⟩ :: rest, reading => do
    readHead rest (← Grammar.main.act role reading)

/-- `command.read texts` reads what stands after `command`. -/
def Command.read (command : Command) (texts : List String) : Except Stop Reading := do
  let grammar := command.grammar
  let reading ← grammar.read (← grammar.wordsOf texts) {}
  match grammar.missing reading with
  | [] => return reading
  | names => grammar.stop (.missing names)

namespace Invocation

def ofTexts (texts : List String) : Except Stop Invocation := do
  let (head, rest) ← readHead (← Grammar.main.wordsOf texts) {}
  match rest with
  | [] => Grammar.main.stop (.missing [Grammar.main.argument])
  | name :: arguments =>
    match Command.ofName? name with
    | none => Grammar.main.stop (.unknownCommand name)
    | some command =>
      let reading ← command.read arguments
      match head.leftOver.reverse ++ reading.leftOver.reverse with
      | [] =>
        return { verbose := head.verbose || reading.verbose
                 logFile := head.values.lookup .logFile
                 task := command.task reading }
      | words => Grammar.main.stop (.unrecognized words)

end Invocation

end AssemblyInfo.CommandLine
