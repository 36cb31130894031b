/-!
# Grammars of command lines

A command line names a command, and each command has flags, parameters and one argument of its own.
A flag has a short name and a long one, a parameter has a long name and takes a value.
-/

namespace AssemblyInfo.CommandLine

/-- An option without a value. -/
inductive Flag where
  | help
  | verbose
  deriving DecidableEq, Repr

/-- An option with a value. -/
inductive Parameter where
  | logFile
  | config
  | version
  | fileVersion
  | informationalVersion
  deriving DecidableEq, Repr

/-- An option. -/
inductive Switch where
  | flag (flag : Flag)
  | parameter (parameter : Parameter)
  deriving DecidableEq, Repr

namespace Flag

/-- All flags. -/
def all : List Flag := [.help, .verbose]

def letter : Flag → Char
  | .help => 'h'
  | .verbose => 'v'

def short : Flag → String
  | .help => "-h"
  | .verbose => "-v"

def long : Flag → String
  | .help => "--help"
  | .verbose => "--verbose"

def ofLetter? (c : Char) : Option Flag :=
  all.find? fun flag => flag.letter = c

end Flag

def Parameter.long : Parameter → String
  | .logFile => "--log-file"
  | .config => "--config"
  | .version => "--version"
  | .fileVersion => "--file-version"
  | .informationalVersion => "--informational-version"

def Switch.title : Switch → String
  | .flag which => which.short ++ "/" ++ which.long
  | .parameter which => which.long

/-- What a command line may hold. -/
structure Grammar where
  /-- The words that the command line starts with. -/
  program : String
  /-- The name of the argument. -/
  argument : String
  parameters : List Parameter
  /-- The parameters that have to be given. -/
  required : List Parameter := []
  /-- The lines of the help text. -/
  help : List String

/-- `grammar.names` is all names of options, in order. -/
def Grammar.names (grammar : Grammar) : List (String × Switch) :=
  Flag.all.flatMap (fun flag => [(flag.short, .flag flag), (flag.long, .flag flag)]) ++
    grammar.parameters.map fun parameter => (parameter.long, .parameter parameter)

/-- A command. -/
inductive Command where
  | parse
  | create
  deriving DecidableEq, Repr

namespace Command

/-- All commands. -/
def all : List Command := [.parse, .create]

def name : Command → String
  | .parse => "parse"
  | .create => "create"

def ofName? (name : String) : Option Command :=
  all.find? fun command => command.name = name

end Command

namespace Grammar

/-- The command line up to the command. -/
def main : Grammar where
  program := "asminfo"
  argument := "command"
  parameters := [.logFile]
  help :=
    ["usage: asminfo [-h] [-v] [--log-file LOG_FILE] \x7bparse,create\x7d ...",
      "",
      "Read and generate .NET assembly info attribute files.",
      "",
      "positional arguments:",
      "  \x7bparse,create\x7d",
      "    parse              Print the attributes declared in an assembly info file",
      "                       as JSON.",
      "    create             Generate an assembly info file from a YAML settings",
      "                       file.",
      "",
      "options:",
      "  -h, --help           show this help message and exit",
      "  -v, --verbose        Increase log verbosity for troubleshooting.",
      "  --log-file LOG_FILE  Also write log records, with timestamps, to this file."]

/-- The command line after the command that reads a source file. -/
def parse : Grammar where
  program := "asminfo parse"
  argument := "path"
  parameters := []
  help :=
    ["usage: asminfo parse [-h] [-v] path",
      "",
      "positional arguments:",
      "  path           Path to the AssemblyInfo.cs or AssemblyInfo.vb file.",
      "",
      "options:",
      "  -h, --help     show this help message and exit",
      "  -v, --verbose  Increase log verbosity for troubleshooting."]

/-- The command line after the command that writes a source file. -/
def create : Grammar where
  program := "asminfo create"
  argument := "output"
  parameters := [.config, .version, .fileVersion, .informationalVersion]
  required := [.config]
  help :=
    ["usage: asminfo create [-h] [-v] --config CONFIG [--version ASSEMBLY_VERSION]",
      "                      [--file-version FILE_VERSION]",
      "                      [--informational-version INFORMATIONAL_VERSION]",
      "                      output",
      "",
      "positional arguments:",
      "  output                Destination file; a .vb extension selects Visual Basic",
      "                        syntax.",
      "",
      "options:",
      "  -h, --help            show this help message and exit",
      "  -v, --verbose         Increase log verbosity for troubleshooting.",
      "  --config CONFIG       YAML file describing the attributes to emit.",
      "  --version ASSEMBLY_VERSION",
      "                        Override AssemblyVersion.",
      "  --file-version FILE_VERSION",
      "                        Override AssemblyFileVersion.",
      "  --informational-version INFORMATIONAL_VERSION",
      "                        Override AssemblyInformationalVersion."]

end Grammar

/-- `command.grammar` is what stands after `command`. -/
def Command.grammar : Command → Grammar
  | .parse => .parse
  | .create => .create

end AssemblyInfo.CommandLine
