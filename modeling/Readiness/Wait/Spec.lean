import Readiness.Data.Datum
import Readiness.Wait.WaitFor

/-!
# What to wait for, as data

A `WaitFor` is written as a table whose field `type` names its kind. `ofDatum` reads one and `toDatum`
writes it. The fields may come in any order, `type` anywhere; a field that the kind does not have is
passed over; an optional field may be missing or null. Instead of a table there may be a list that
holds the kind and then the fields by place.

Of several faults the kind comes first, then the fields in the order of the document, then what is
missing.
-/

namespace Readiness.WaitFor

inductive Kind
  | logMessage
  | logMessageSequence
  | fullLogMessage
  | httpPing
  deriving DecidableEq, Repr

namespace Kind

def all : List Kind := [logMessage, logMessageSequence, fullLogMessage, httpPing]

/-- The name of a kind in data. -/
def tag : Kind → String
  | logMessage => "log_message"
  | logMessageSequence => "log_message_sequence"
  | fullLogMessage => "full_log_message"
  | httpPing => "http_ping"

/-- The name of a kind in failures. -/
def title : Kind → String
  | logMessage => "WaitFor::LogMessage"
  | logMessageSequence => "WaitFor::LogMessageSequence"
  | fullLogMessage => "WaitFor::FullLogMessage"
  | httpPing => "WaitFor::HttpPing"

/-- The fields of a kind in the order in which a list holds them. -/
def fieldNames : Kind → List String
  | logMessage | fullLogMessage => ["message"]
  | logMessageSequence => ["messages"]
  | httpPing => ["url", "method", "status"]

def ofDatum (d : Datum) : Except DataFault Kind :=
  match d with
  | .string name =>
    match all.find? (·.tag == name) with
    | some k => .ok k
    | none => .error (.unknownVariant name (all.map tag))
  | d => d.unexpected "variant identifier"

end Kind

/-- The field that names the kind. -/
def typeField : String := "type"

def asTexts (d : Datum) : Except DataFault (List String) := do
  (← d.asList).mapM Datum.asString

/-- An optional text; null counts as unset. -/
def asOptionalText (d : Datum) : Except DataFault (Option String) :=
  match d with
  | .null => .ok none
  | d => d.asString.map some

/-- Whether a field holds what its kind has there. -/
def checkField (k : Kind) (field : String × Datum) : Except DataFault Unit :=
  match k, field.1 with
  | .logMessage, "message" | .fullLogMessage, "message" => discard field.2.asString
  | .logMessageSequence, "messages" => discard (asTexts field.2)
  | .httpPing, "url" => discard field.2.asString
  | .httpPing, "method" | .httpPing, "status" => discard (asOptionalText field.2)
  | _, _ => .ok ()

/-- A field that must be there. -/
def required (fields : List (String × Datum)) (name : String) : Except DataFault Datum :=
  match fields.lookup name with
  | some d => .ok d
  | none => .error (.missingField name)

/-- An optional text among fields. -/
def optionalText (fields : List (String × Datum)) (name : String) :
    Except DataFault (Option String) :=
  match fields.lookup name with
  | some d => asOptionalText d
  | none => .ok none

/-- A spec of a kind from its fields. -/
def ofFields (k : Kind) (fields : List (String × Datum)) : Except DataFault WaitFor := do
  fields.forM (checkField k)
  match k with
  | .logMessage => return .logMessage (← (← required fields "message").asString)
  | .fullLogMessage => return .fullLogMessage (← (← required fields "message").asString)
  | .logMessageSequence => return .logMessageSequence (← asTexts (← required fields "messages"))
  | .httpPing =>
    return .httpPing (← (← required fields "url").asString) (← optionalText fields "method")
      (← optionalText fields "status")

/-- How many items a list has, in words. -/
def counted (n : Nat) : String :=
  if n = 1 then "1 element" else toString n ++ " elements"

/-- A spec of a kind from the items behind it. -/
def ofItems (k : Kind) (items : List Datum) : Except DataFault WaitFor := do
  let fields := k.fieldNames.zip items
  fields.forM (checkField k)
  if items.isEmpty then
    .error (.invalidLength 0 ("struct variant " ++ k.title ++ " with " ++ counted k.fieldNames.length))
  else if k.fieldNames.length < items.length then
    .error (.invalidLength items.length (counted k.fieldNames.length ++ " in sequence"))
  else ofFields k fields

/-- What is called for where there is neither a table nor a list. -/
def expected : String := "internally tagged enum WaitFor"

/-- The fields of a table. A date or time has none that matter. -/
def fieldsOf? : Datum → Option (List (String × Datum))
  | .table fields => some fields
  | .moment => some []
  | _ => none

/-- Reads a spec. -/
def ofDatum (d : Datum) : Except DataFault WaitFor :=
  match d with
  | .list [] => .error (.missingField typeField)
  | .list (tag :: items) => do ofItems (← Kind.ofDatum tag) items
  | d =>
    match fieldsOf? d with
    | none => d.unexpected expected
    | some fields => do
      let k ← Kind.ofDatum (← required fields typeField)
      ofFields k (fields.filter (·.1 != typeField))

/-- A field that is written if it is set. -/
def optionalField (name : String) (value : Option String) : List (String × Datum) :=
  value.toList.map fun v => (name, .string v)

/-- Writes a spec. -/
def toDatum : WaitFor → Datum
  | logMessage message => .table [(typeField, .string "log_message"), ("message", .string message)]
  | logMessageSequence messages =>
    .table [(typeField, .string "log_message_sequence"), ("messages", .list (messages.map .string))]
  | fullLogMessage message =>
    .table [(typeField, .string "full_log_message"), ("message", .string message)]
  | httpPing url method status =>
    .table ([(typeField, .string "http_ping"), ("url", .string url)] ++
      optionalField "method" method ++ optionalField "status" status)

end Readiness.WaitFor
