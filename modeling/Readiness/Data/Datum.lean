import Readiness.Data.Binary
import Readiness.Text.Quoted

/-!
# Data

A `Datum` is what a document of settings holds: plain values, lists, and tables whose fields keep
their order. Where a datum is not what the reader expects, a `DataFault` says so.
-/

namespace Readiness

inductive Datum
  | null
  | boolean (value : Bool)
  | integer (value : Int)
  | float (value : Binary)
  | string (value : String)
  /-- A date, a time, or both. -/
  | moment
  | list (items : List Datum)
  | table (fields : List (String × Datum))
  deriving Repr, Inhabited

/-- What a datum is called where it does not belong. -/
def Datum.found : Datum → String
  | null => "null"
  | boolean value => "boolean `" ++ toString value ++ "`"
  | integer value => "integer `" ++ toString value ++ "`"
  | float value => "floating point `" ++ value.text ++ "`"
  | string value => "string " ++ Quoted.text value
  | list _ => "sequence"
  | moment | table _ => "map"

/-- Why data cannot be read. -/
inductive DataFault
  | unknownField (name : String) (known : List String)
  | missingField (name : String)
  | unknownVariant (name : String) (known : List String)
  /-- A datum of another kind than expected. -/
  | invalidType (found : String) (expected : String)
  /-- A datum of the expected kind that is out of range. -/
  | invalidValue (found : String) (expected : String)
  /-- A list with too few or too many items. -/
  | invalidLength (length : Nat) (expected : String)
  deriving DecidableEq, Repr

namespace DataFault

/-- Names as they are listed. -/
def listed (names : List String) : String :=
  "one of " ++ ", ".intercalate (names.map fun n => "`" ++ n ++ "`")

def text : DataFault → String
  | unknownField name known => "unknown field `" ++ name ++ "`, expected " ++ listed known
  | missingField name => "missing field `" ++ name ++ "`"
  | unknownVariant name known => "unknown variant `" ++ name ++ "`, expected " ++ listed known
  | invalidType found expected => "invalid type: " ++ found ++ ", expected " ++ expected
  | invalidValue found expected => "invalid value: " ++ found ++ ", expected " ++ expected
  | invalidLength length expected =>
    "invalid length " ++ toString length ++ ", expected " ++ expected

end DataFault

namespace Datum

/-- Whatever was read instead of what was expected. -/
def unexpected {α : Type} (d : Datum) (expected : String) : Except DataFault α :=
  .error (.invalidType d.found expected)

def asString (d : Datum) : Except DataFault String :=
  match d with
  | string value => .ok value
  | d => d.unexpected "a string"

def asBoolean (d : Datum) : Except DataFault Bool :=
  match d with
  | boolean value => .ok value
  | d => d.unexpected "a boolean"

def asList (d : Datum) : Except DataFault (List Datum) :=
  match d with
  | list items => .ok items
  | d => d.unexpected "a sequence"

/-- A whole number not below zero; `kind` is what such a number is called. -/
def asNatural (kind : String) (d : Datum) : Except DataFault Nat :=
  match d with
  | integer (.ofNat n) => .ok n
  | integer value => .error (.invalidValue (integer value).found kind)
  | d => d.unexpected kind

end Datum

end Readiness
