import AssemblyInfo.CommandLine.Word

/-!
# Reading command lines

Words are acted upon from left to right: a flag is raised, a parameter takes its value, and the first
plain word that is left is the argument. Words without a meaning are kept for a message.
-/

namespace AssemblyInfo.CommandLine

/-- What has been read. -/
structure Reading where
  verbose : Bool := false
  argument : Option String := none
  /-- The parameters with their values, the last one first. -/
  values : List (Parameter × String) := []
  /-- The words without a meaning, the last one first. -/
  leftOver : List String := []
  deriving DecidableEq, Repr

namespace Reading

def give (reading : Reading) (parameter : Parameter) (value : String) : Reading :=
  { reading with values := (parameter, value) :: reading.values }

def take (reading : Reading) (argument : String) : Reading :=
  { reading with argument := some argument }

/-- `reading.leave word` keeps a word without a meaning. -/
def leave (reading : Reading) (word : String) : Reading :=
  { reading with leftOver := word :: reading.leftOver }

end Reading

def unbundle : Flag → List Char → Except Misuse (List Flag)
  | flag, [] => .error (.attachedValue flag "")
  | flag, letter :: more =>
    match Flag.ofLetter? letter with
    | none => .error (.attachedValue flag (String.ofList (letter :: more)))
    | some next =>
      if more.isEmpty then .ok [flag, next] else (unbundle next more).map (flag :: ·)

namespace Grammar

def stop {α : Type} (grammar : Grammar) (cause : Misuse) : Except Stop α :=
  .error (.misuse grammar.program cause)

/-- `grammar.raise flags reading` raises `flags` one after the other. -/
def raise (grammar : Grammar) : List Flag → Reading → Except Stop Reading
  | [], reading => .ok reading
  | .help :: _, _ => .error (.help grammar.help)
  | .verbose :: rest, reading => grammar.raise rest { reading with verbose := true }

def act (grammar : Grammar) (role : Role) (reading : Reading) : Except Stop Reading :=
  match role with
  | .flag flag => grammar.raise [flag] reading
  | .bundle flag more =>
    match unbundle flag more with
    | .ok flags => grammar.raise flags reading
    | .error cause => grammar.stop cause
  | .valued flag value => grammar.stop (.attachedValue flag value)
  | .parameter parameter (some value) => .ok (reading.give parameter value)
  | .parameter parameter none => grammar.stop (.noValue parameter)
  | .plain | .dashes | .unknown => .ok reading

def read (grammar : Grammar) : List Word → Reading → Except Stop Reading
  | [], reading => .ok reading
  | ⟨_, .parameter parameter none⟩ :: ⟨value, .plain⟩ :: rest, reading =>
    grammar.read rest (reading.give parameter value)
  | ⟨text, .plain⟩ :: rest, reading =>
    if reading.argument.isSome then grammar.read rest (reading.leave text)
    else
      match rest with
      | ⟨_, .dashes⟩ :: rest => grammar.read rest (reading.take text)
      | rest => grammar.read rest (reading.take text)
  | ⟨text, .dashes⟩ :: rest, reading =>
    if reading.argument.isSome then grammar.read rest (reading.leave text)
    else grammar.read rest reading
  | ⟨text, .unknown⟩ :: rest, reading => grammar.read rest (reading.leave text)
  | ⟨_, role⟩ :: rest, reading => do
    grammar.read rest (← grammar.act role reading)

/-- `grammar.missing reading` is the names of what is required and not given. -/
def missing (grammar : Grammar) (reading : Reading) : List String :=
  (if reading.argument.isSome then [] else [grammar.argument]) ++
    (grammar.required.filter fun parameter => (reading.values.lookup parameter).isNone).map
      Parameter.long

def wordsOf (grammar : Grammar) (texts : List String) : Except Stop (List Word) :=
  match grammar.words texts with
  | .ok words => .ok words
  | .error cause => grammar.stop cause

end Grammar

end AssemblyInfo.CommandLine
