import LedgerClient.Text.Blank

/-!
# Telemetry settings

What the log is called, what it lets through and how it is written. Settings come
from named variables; one that is not set has a default.
-/

namespace LedgerClient

/-- Why telemetry cannot be set up. -/
inductive TelemetryError where
  | emptyServiceName
  | emptyLogLevel
  /-- The filter of the log cannot be read. -/
  | badFilter
  /-- A log is installed already. -/
  | alreadyInstalled
  deriving DecidableEq

namespace TelemetryError

/-- The setting at fault in words, for errors of settings. -/
def fault? : TelemetryError → Option String
  | .emptyServiceName => some "service name must not be empty"
  | .emptyLogLevel => some "log level must not be empty"
  | .badFilter | .alreadyInstalled => none

/-- The error of a setting in words. -/
def configText (fault : String) : String := "Invalid configuration: " ++ fault

end TelemetryError

/-- Settings of the log. -/
structure TelemetryConfig where
  serviceName : String := "ledger-sdk"
  logLevel : String := "info"
  jsonLogs : Bool := false
  /-- Lines say where in the program they come from. -/
  withSourceLocation : Bool := false

namespace TelemetryConfig

/-- The variables that hold the settings. -/
def variableNames : List String :=
  ["LEDGER_SERVICE_NAME", "LEDGER_LOG_LEVEL", "RUST_LOG", "LEDGER_JSON_LOGS", "LEDGER_LOG_SOURCE"]

/-- Whether a variable switches something on. -/
def flag (value : String) : Bool := value.toLower == "true" || value == "1"

/-- Settings from variables. -/
def ofVariables (lookup : String → Option String) : TelemetryConfig :=
  let standard : TelemetryConfig := {}
  { serviceName := (lookup "LEDGER_SERVICE_NAME").getD standard.serviceName
    logLevel := ((lookup "LEDGER_LOG_LEVEL").or (lookup "RUST_LOG")).getD standard.logLevel
    jsonLogs := ((lookup "LEDGER_JSON_LOGS").map flag).getD false
    withSourceLocation := ((lookup "LEDGER_LOG_SOURCE").map flag).getD false }

/-- Refuses settings that nothing can be done with. -/
def validate (config : TelemetryConfig) : Except TelemetryError Unit :=
  if Text.trim config.serviceName.toList = [] then .error .emptyServiceName
  else if Text.trim config.logLevel.toList = [] then .error .emptyLogLevel
  else .ok ()

end TelemetryConfig

end LedgerClient
