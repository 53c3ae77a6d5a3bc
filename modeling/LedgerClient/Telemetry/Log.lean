import LedgerClient.Telemetry.Config
import LedgerClient.Telemetry.Filter

/-!
# The log

A process installs its log once. Events carry a level, a target, a message and
named values; those about a node or about a transaction name it under a fixed name.
What passes the filter is kept in order, to be written as coloured lines of text or
as records.
-/

namespace LedgerClient.Telemetry

/-- A value of an event. -/
inductive Value where
  | text (value : String)
  | number (value : Int)
  | flag (value : Bool)

/-- The value in words. -/
def Value.shown : Value → String
  | .text value => value
  | .number value => toString value
  | .flag value => toString value

/-- Something that happened. -/
structure Event where
  level : Level
  target : String
  message : String
  values : List (String × Value) := []

namespace Event

/-- An event about a node. -/
def ofNode (level : Level) (target message node : String) (more : List (String × Value)) : Event :=
  { level, target, message, values := ("node", .text node) :: more }

/-- An event about a transaction. -/
def ofTransaction (level : Level) (target message transaction : String)
    (more : List (String × Value)) : Event :=
  { level, target, message, values := ("tx_id", .text transaction) :: more }

/-- The event as the fields of a record. -/
def fields (event : Event) : List (String × Value) :=
  ("message", .text event.message) :: event.values

/-- Text between two control sequences of a terminal. -/
def styled (code : Nat) (text : String) : String :=
  "\x1b[" ++ toString code ++ "m" ++ text ++ "\x1b[0m"

/-- The colour of a level. -/
def colour : Level → Nat
  | .error => 31
  | .warn => 33
  | .info => 32
  | .debug => 34
  | .trace => 35

/-- Dimmed text. -/
def dim : Nat := 2

/-- Slanted text. -/
def italic : Nat := 3

/-- A name and its value. -/
def shownValue : String × Value → String
  | (name, value) => styled italic name ++ styled dim "=" ++ value.shown

/-- The event as a coloured line, without its time. -/
def line (event : Event) : String :=
  let name := event.level.name
  let level := String.ofList (List.replicate (5 - name.length) ' ') ++ name
  " ".intercalate (styled (colour event.level) level ::
    (styled dim event.target ++ styled dim ":") :: event.message :: event.values.map shownValue)

end Event

/-- The log of a process. -/
structure Log where
  /-- The settings and the filter of the installed log. -/
  installed : Option (TelemetryConfig × Filter) := none
  /-- What has passed the filter, in order. -/
  events : List Event := []

namespace Log

/-- Logs an event if a log is installed and its filter lets it through. -/
def record (log : Log) (event : Event) : Log :=
  match log.installed with
  | none => log
  | some (_, filter) =>
      if filter.passes event.target (event.fields.map (·.1)) event.level then
        { log with events := log.events ++ [event] }
      else log

/-- The event that says that a log is installed. -/
def started (config : TelemetryConfig) : Event :=
  { level := .info, target := "ledger_telemetry::tracing_setup", message := "Tracing initialized"
    values := [("service", .text config.serviceName), ("json", .flag config.jsonLogs)] }

/-- The event that says that telemetry ends. -/
def ended : Event :=
  { level := .info, target := "ledger_telemetry", message := "Shutting down telemetry" }

/-- Installs the log, the first time it is asked for with usable settings. -/
def install (log : Log) (config : TelemetryConfig) : Except TelemetryError Log := do
  config.validate
  match Filter.ofText? config.logLevel, log.installed with
  | none, _ => throw .badFilter
  | some _, some _ => throw .alreadyInstalled
  | some filter, none =>
      return { log with installed := some (config, filter) }.record (started config)

/-- Ends telemetry. -/
def finish (log : Log) : Log := log.record ended

end Log

end LedgerClient.Telemetry
