import PollAudit.Address

namespace PollAudit

/-- Why the arguments are no command. -/
inductive UsageError
  | missingAddress
  | unknownArgument
  | valueNotTaken
  | badAddress (cause : AddressError)
deriving DecidableEq, Repr

def UsageError.message : UsageError → String
  | missingAddress => "the address <HOST:PORT> is missing"
  | unknownArgument => "unexpected argument"
  | valueNotTaken => "unexpected value for an option"
  | badAddress cause => cause.message

/-- What the arguments ask for. -/
inductive Command
  | watch (address : Address)
  | help
  | longHelp
  | version
  | usage (error : UsageError)
deriving DecidableEq, Repr

namespace Command

/-- The summary that `-h` prints. -/
def helpText : String :=
  "Check that the Modbus polling engine holds every enabled point\n" ++
  "\n" ++
  "Usage: pollwatch <HOST:PORT>\n" ++
  "\n" ++
  "Arguments:\n" ++
  "  <HOST:PORT>  API address, e.g. 192.168.15.10:1660\n" ++
  "\n" ++
  "Options:\n" ++
  "  -h, --help     Print help (see more with '--help')\n" ++
  "  -V, --version  Print version\n"

/-- The explanation that `--help` prints. -/
def longHelpText : String :=
  "Every 5 seconds, sums the poll queue, standby list and in-flight counters of each Modbus " ++
  "network and\n" ++
  "compares the total with the number of enabled points in the configuration. A mismatch that " ++
  "survives\n" ++
  "a configuration refresh is reported as INCORRECT COUNT.\n" ++
  "\n" ++
  "Runs until interrupted. Any failed request ends the run.\n" ++
  "\n" ++
  "Usage: pollwatch <HOST:PORT>\n" ++
  "\n" ++
  "Arguments:\n" ++
  "  <HOST:PORT>\n" ++
  "          API address, e.g. 192.168.15.10:1660\n" ++
  "\n" ++
  "Options:\n" ++
  "  -h, --help\n" ++
  "          Print help (see a summary with '-h')\n" ++
  "\n" ++
  "  -V, --version\n" ++
  "          Print version\n"

/-- The name and version that `--version` prints. -/
def versionText : String := "pollwatch 0.1.0\n"

/-- What one argument is before a lone `--` has been met. -/
inductive Argument
  /-- The lone `--`, after which every argument is a value. -/
  | separator
  /-- A known flag. -/
  | flag (command : Command)
  /-- A flag that does not exist or does not take the value it was given. -/
  | wrong (error : UsageError)
  | value

/-- Reads what follows `--`. -/
def longArgument (name : List Char) : Argument :=
  let word := String.ofList (name.takeWhile (· != '='))
  let valued := name.contains '='
  if word = "help" then if valued then .wrong .valueNotTaken else .flag .longHelp
  else if word = "version" then if valued then .wrong .valueNotTaken else .flag .version
  else .wrong .unknownArgument

/-- Classifies an argument. The first letter of a cluster of short flags decides it, since every
short flag ends the reading; a lone `-` is a value. -/
def classify (argument : String) : Argument :=
  match argument.toList with
  | ['-', '-'] => .separator
  | '-' :: '-' :: name => longArgument name
  | '-' :: 'h' :: _ => .flag .help
  | '-' :: 'V' :: _ => .flag .version
  | '-' :: _ :: _ => .wrong .unknownArgument
  | _ => .value

/-- The command of an address given as text. -/
def ofAddress (text : String) : Command :=
  match Address.parse text with
  | .ok address => watch address
  | .error cause => usage (.badAddress cause)

/-- Reads arguments of which all are values. At most one is. -/
def readValues : (given : Option String) → List String → Command
  | none, [] => usage .missingAddress
  | some text, [] => ofAddress text
  | none, text :: rest => readValues (some text) rest
  | some _, _ :: _ => usage .unknownArgument

/-- Reads the arguments from the left. The address is looked at when a flag or the end is reached,
so a wrong one is reported ahead of the flag, but behind an argument that cannot be read. -/
def read : (given : Option String) → List String → Command
  | none, [] => usage .missingAddress
  | some text, [] => ofAddress text
  | given, argument :: rest =>
    match classify argument with
    | .separator => readValues given rest
    | .wrong error => usage error
    | .flag command =>
      match given.map ofAddress with
      | some (usage error) => usage error
      | _ => command
    | .value =>
      match given with
      | none => read (some argument) rest
      | some _ => usage .unknownArgument

def parse (arguments : List String) : Command :=
  read none arguments

/-- The text a command prints by itself. -/
def output : Command → String
  | help => helpText
  | longHelp => longHelpText
  | version => versionText
  | watch _ | usage _ => ""

end Command

end PollAudit
