import LedgerClient.Document
import LedgerClient.Telemetry.Log

/-!
# Telemetry as documents

Settings of the log, and what a log holds: records where the settings ask for them,
and coloured lines otherwise. A record has a line's level, target and fields.
-/

namespace LedgerClient

open Document

instance : OfDocument TelemetryConfig := ⟨fun d => do
  return ⟨← d.take "service_name", ← d.take "log_level", ← d.take "json_logs",
    ← d.take "with_source_location"⟩⟩

/-- The settings, with what they are worth. -/
def TelemetryConfig.entries (c : TelemetryConfig) : List (String × Document) :=
  [entry "service_name" c.serviceName, entry "log_level" c.logLevel, entry "json_logs" c.jsonLogs,
    entry "with_source_location" c.withSourceLocation, entry "valid" c.validate.isOk]

namespace Telemetry

instance : ToDocument Value := ⟨fun
  | .text value => .text value
  | .number value => .number value
  | .flag value => .flag value⟩

/-- An event as a record. `isLocated` says whether it tells where in the program it comes from. -/
def Event.record (event : Event) (isLocated : Bool) : Document :=
  .fields [("fields", .fields (event.fields.map fun (name, value) => entry name value)),
    entry "level" event.level.name, entry "located" isLocated, entry "target" event.target,
    entry "threadId" "ThreadId(1)"]

/-- What a log with these settings writes. -/
def Log.written (log : Log) (config : TelemetryConfig) : List Document :=
  log.events.map fun event =>
    if config.jsonLogs then event.record config.withSourceLocation else .text event.line

end Telemetry

end LedgerClient
