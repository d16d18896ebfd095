/-!
# The command line

The words a command line is made of. An option has a long name and maybe a letter; it takes a value
or none. There are three levels: the program itself, which has commands, and the two commands, each
of which has one operand, the container. Some options stand at every level.
-/

namespace Readiness.Command

/-- What can be given on a command line. -/
inductive Item
  | config
  | verbose
  | help
  | version
  | log
  | sequence
  | fullLog
  | http
  | method
  | status
  | timeout
  | name
  | quiet
  /-- The operand of a command. -/
  | container
  deriving DecidableEq, Repr

namespace Item

/-- The long name of an option; the operand has none. -/
def long? : Item → Option String
  | config => some "config"
  | verbose => some "verbose"
  | help => some "help"
  | version => some "version"
  | log => some "log"
  | sequence => some "sequence"
  | fullLog => some "full-log"
  | http => some "http"
  | method => some "method"
  | status => some "status"
  | timeout => some "timeout"
  | name => some "name"
  | quiet => some "quiet"
  | container => none

/-- The letter of an option. -/
def letter? : Item → Option Char
  | config => some 'c'
  | verbose => some 'v'
  | help => some 'h'
  | version => some 'V'
  | timeout => some 't'
  | quiet => some 'q'
  | _ => none

/-- Whether an option takes a value. -/
def takesValue : Item → Bool
  | verbose | help | version | quiet => false
  | _ => true

/-- Whether it may be given more than once at a level. -/
def repeatable : Item → Bool
  | verbose | log | sequence | fullLog => true
  | _ => false

end Item

inductive Level
  | program
  | wait
  | logs
  deriving DecidableEq, Repr

namespace Level

/-- The options of a level. -/
def options : Level → List Item
  | program => [.config, .verbose, .help, .version]
  | wait => [.log, .sequence, .fullLog, .http, .method, .status, .timeout, .name, .quiet, .config,
    .verbose, .help]
  | logs => [.config, .verbose, .help]

/-- How many operands a level has. -/
def operands : Level → Nat
  | program => 0
  | _ => 1

/-- The words that begin a command at a level. -/
def commands : Level → List String
  | program => ["wait", "logs", "help"]
  | _ => []

def ofLong? (l : Level) (name : String) : Option Item := l.options.find? (·.long? == some name)

def ofLetter? (l : Level) (c : Char) : Option Item := l.options.find? (·.letter? == some c)

end Level

/-- Why a command line is not carried out. -/
inductive Refusal
  | helpWanted
  | versionWanted
  /-- Nothing at all was given. -/
  | nothingGiven
  | missingCommand
  | unknownCommand
  | unknownArgument
  | missingValue
  | needlessValue
  | invalidValue
  /-- Given again although once is enough. -/
  | repeated
  | missingArgument
  deriving DecidableEq, Repr

end Readiness.Command
