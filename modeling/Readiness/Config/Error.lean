import Readiness.Data.Datum
import Readiness.Text.Numeral

/-!
# Failures of configuration
-/

namespace Readiness

/-- What is wrong with the value of a setting. -/
inductive ValueFault
  | numeral (fault : NumeralFault)
  | notBoolean
  | belowOne
  | zero
  /-- As whoever set it puts it. -/
  | stated (text : String)
  deriving DecidableEq, Repr

def ValueFault.text : ValueFault → String
  | numeral fault => fault.text
  | notBoolean =>
    "must be 'true' or 'false': provided string was not `true` or `false`"
  | belowOne => "must be at least 1"
  | zero => "must be greater than zero"
  | stated text => text

/-- Why a document of settings cannot be read. -/
inductive DocumentFault
  /-- It is no document at all. -/
  | malformed
  | data (fault : DataFault)
  /-- As the reader puts it. -/
  | stated (text : String)
  deriving DecidableEq, Repr

def DocumentFault.text : DocumentFault → String
  | malformed => "malformed document"
  | data fault => fault.text
  | stated text => text

/-- Why a file cannot be read. -/
inductive FileFault
  | notFound
  | notText
  /-- As the system puts it. -/
  | stated (text : String)
  deriving DecidableEq, Repr

def FileFault.text : FileFault → String
  | notFound => "No such file or directory (os error 2)"
  | notText => "stream did not contain valid UTF-8"
  | stated text => text

inductive ConfigError
  | invalidValue (key : String) (fault : ValueFault)
  | parse (fault : DocumentFault)
  | io (fault : FileFault)
  deriving DecidableEq, Repr

def ConfigError.message : ConfigError → String
  | invalidValue key fault => "Invalid value for " ++ key ++ ": " ++ fault.text
  | parse fault => "Failed to parse configuration: " ++ fault.text
  | io fault => "I/O error: " ++ fault.text

end Readiness
