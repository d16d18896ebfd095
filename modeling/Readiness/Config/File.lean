import Readiness.Config.Settings
import Readiness.Text.Utf8
import Readiness.Toml.Document

/-!
# Configuration from a document

A document of settings has six keys, none of which must be there, and no other. Its fields are
looked at in the order of the document, and the first that is wrong is the failure.
-/

namespace Readiness

namespace Settings

/-- The keys of a document. -/
def keys : List String :=
  ["wait_secs", "poll_interval_ms", "log_buffer", "shutdown_grace_ms", "print_logs", "wait_for"]

/-- Whole numbers of 64 bits, and sizes. -/
def number : String := "u64"

def size : String := "usize"

def asSpecs (d : Datum) : Except DataFault (List WaitFor) := do
  (← d.asList).mapM WaitFor.ofDatum

/-- Settings with the one that a field sets. -/
def withField (s : Settings) (field : String × Datum) : Except DataFault Settings :=
  match field.1 with
  | "wait_secs" => do return { s with waitSecs := some (← field.2.asNatural number) }
  | "poll_interval_ms" => do return { s with pollIntervalMs := some (← field.2.asNatural number) }
  | "log_buffer" => do return { s with logBuffer := some (← field.2.asNatural size) }
  | "shutdown_grace_ms" => do return { s with shutdownGraceMs := some (← field.2.asNatural number) }
  | "print_logs" => do return { s with printLogs := some (← field.2.asBoolean) }
  | "wait_for" => do return { s with waitFor := (← asSpecs field.2) }
  | name => .error (.unknownField name keys)

/-- The settings that fields make. -/
def ofFields (fields : List (String × Datum)) : Except DataFault Settings :=
  fields.foldlM withField {}

end Settings

namespace Config

/-- The configuration in a document. -/
def ofDocument (content : String) : Except ConfigError Config :=
  match Toml.parse content with
  | none => .error (.parse .malformed)
  | some fields =>
    match Settings.ofFields fields with
    | .ok settings => settings.config
    | .error fault => .error (.parse (.data fault))

/-- The text in a file, which must be UTF-8 throughout. -/
def textOf? (content : Bytes) : Option String :=
  let text := Utf8.decode content
  if Utf8.encode text = content then some text else none

/-- The configuration in a file, if there is one. -/
def ofFile (content : Option Bytes) : Except ConfigError Config :=
  match content with
  | none => .error (.io .notFound)
  | some bytes =>
    match textOf? bytes with
    | some text => ofDocument text
    | none => .error (.io .notText)

end Config

end Readiness
