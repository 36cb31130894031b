import AssemblyInfo.FileSystem.Basic
import AssemblyInfo.Log.Record

/-!
# Loggers

Where log records go. Before a logger is set up, warnings and errors go to the console as they are.
-/

namespace AssemblyInfo.Log

/-- A place that records go to. -/
inductive Handler where
  | console
  | file (location : Location)
  deriving DecidableEq, Repr

/-- The setup of the top logger. -/
structure Logger where
  /-- The least important level that is kept. -/
  level : Option Level := none
  /-- Whether records go on to the loggers of other programs. -/
  propagates : Bool := true
  handlers : List Handler := []
  deriving DecidableEq, Repr

namespace Logger

def console (level : Level) : Logger where
  level := some level
  propagates := false
  handlers := [.console]

def add (logger : Logger) (handler : Handler) : Logger :=
  { logger with handlers := logger.handlers ++ [handler] }

def remove (logger : Logger) (handler : Handler) : Logger :=
  { logger with handlers := logger.handlers.erase handler }

theorem foldl_remove {handlers : List Handler} {logger : Logger} (all : logger.handlers = handlers) :
    handlers.foldl remove logger = { logger with handlers := [] } := by
  induction handlers generalizing logger with
  | nil => rw [List.foldl_nil, ← all]
  | cons handler rest ih =>
    have left : (logger.remove handler).handlers = rest := by
      simp [remove, all]
    rw [List.foldl_cons, ih left]
    rfl

/-- `logger.reset level` keeps records from `level` on, and sends them to the console only. -/
def reset (logger : Logger) (level : Level) : Logger :=
  (logger.handlers.foldl remove { logger with level := some level, propagates := false }).add .console

theorem reset_eq_console (logger : Logger) (level : Level) : logger.reset level = console level := by
  rw [reset, foldl_remove rfl]
  rfl

def admits (logger : Logger) (level : Level) : Bool :=
  (logger.level.getD .warning).admits level

end Logger

namespace Record

def consoleLine (record : Record) : String :=
  "[" ++ rootLogger ++ "] " ++ record.level.name ++ " " ++ record.message.escaped ++ "\n"

/-- `record.bareLine` is the line for `record` on the console before a logger is set up. -/
def bareLine (record : Record) : String :=
  record.message.escaped ++ "\n"

/-- `record.fileLine clock` is the line for `record` in a file, written at the time `clock`. -/
def fileLine (record : Record) (clock : String) : Message :=
  .ofString (clock ++ " " ++ record.level.name ++ " ") ++ record.logger ++ .ofString ": " ++
    record.message ++ .ofString "\n"

end Record

def levelFor (verbose : Bool) : Level :=
  if verbose then .debug else .info

end AssemblyInfo.Log
