import LedgerClient.Decimal.Shortest
import LedgerClient.Telemetry.Meters

/-!
# Exposition of the meters

Meters are shown to a scraper as lines of text: families in the order of their
names, the series of a family in the order of their labels. A family without a
series is left out. Durations are shown as counts below fixed bounds, a sum and a
count.
-/

namespace LedgerClient.Telemetry

/-- What a family of series is called and what it holds. -/
structure Family where
  name : String
  help : String

/-- The family a counter belongs to. -/
def family : Counter → Family
  | .exhausted _ => ⟨"ledger_sdk_attempts_exhausted_total", "Calls that ran out of attempts"⟩
  | .attempts _ => ⟨"ledger_sdk_attempts_total", "Attempts sent to consensus nodes"⟩
  | .nodeFailures _ =>
      ⟨"ledger_sdk_node_failures_total", "Failures recorded against a node"⟩
  | .rejections _ =>
      ⟨"ledger_sdk_rejections_total", "Deterministic rejections surfaced to callers"⟩
  | .retries _ _ => ⟨"ledger_sdk_retries_total", "Attempts that ended in a retry"⟩

/-- The family of durations. -/
def durationFamily : Family :=
  ⟨"ledger_sdk_request_duration_seconds", "Time from send to response for a single attempt"⟩

/-- All families. -/
def families : List Family :=
  [family (.attempts ""), family (.retries "" ""), family (.nodeFailures ""),
   family (.rejections ""), family (.exhausted ""), durationFamily]

/-- Names and values of the labels of a counter. -/
def labels : Counter → List (String × String)
  | .attempts operation | .exhausted operation => [("operation", operation)]
  | .retries operation reason => [("operation", operation), ("reason", reason)]
  | .nodeFailures node => [("node", node)]
  | .rejections status => [("status", status)]

/-- The value of a label, with the characters escaped that would end it. -/
def escaped (value : String) : String :=
  String.ofList (value.toList.flatMap fun c =>
    if c = '\\' then ['\\', '\\']
    else if c = '\n' then ['\\', 'n']
    else if c = '\x22' then ['\\', '\x22']
    else [c])

/-- The name of a series with its labels. -/
def seriesName (name : String) (labels : List (String × String)) : String :=
  name ++ "\x7b" ++
    ",".intercalate (labels.map fun (key, value) => key ++ "=\x22" ++ escaped value ++ "\x22") ++
    "\x7d"

/-- Bounds of the buckets of durations, in seconds: from a millisecond on, each twice the last. -/
def bucketBounds : List Float := (List.range 15).map fun n => 0.001 * Float.ofNat (Nat.pow 2 n)

/-- The lines of the durations of one operation. -/
def durationLines (operation : String) (seconds : List Float) : List String :=
  let name := durationFamily.name
  let label := ("operation", operation)
  let bucket (bound : String) (count : Nat) :=
    seriesName (name ++ "_bucket") [label, ("le", bound)] ++ " " ++ toString count
  bucketBounds.map (fun bound => bucket (Decimal.text bound) (seconds.countP (· ≤ bound))) ++
    [bucket "+Inf" seconds.length,
     seriesName (name ++ "_sum") [label] ++ " " ++ Decimal.text (seconds.foldl (· + ·) 0.0),
     seriesName (name ++ "_count") [label] ++ " " ++ toString seconds.length]

/-- The heading of a family. -/
def heading (family : Family) (kind : String) : List String :=
  ["# HELP " ++ family.name ++ " " ++ family.help, "# TYPE " ++ family.name ++ " " ++ kind]

/-- Values of labels in the order in which series are listed. -/
def labelsBefore (a b : List (String × String)) : Bool :=
  (List.compareLex compare (a.map (·.2)) (b.map (·.2))).isLE

/-- The lines of one family of counters. -/
def counterLines (meters : Meters) (which : Family) : List String :=
  let series := meters.counts.filter fun (counter, _) => (family counter).name == which.name
  let sorted := series.mergeSort fun a b => labelsBefore (labels a.1) (labels b.1)
  sorted.map fun (counter, count) =>
    seriesName which.name (labels counter) ++ " " ++ Decimal.text (Float.ofNat count)

/-- The lines of one family, with its heading if there are any. -/
def familyLines (meters : Meters) (which : Family) : List String :=
  let (kind, lines) :=
    if which.name = durationFamily.name then
      let sorted := meters.durations.mergeSort fun a b => (compare a.1 b.1).isLE
      ("histogram", sorted.flatMap fun (operation, seconds) => durationLines operation seconds)
    else ("counter", counterLines meters which)
  if lines = [] then [] else heading which kind ++ lines

/-- All lines. -/
def exposition (meters : Meters) : List String :=
  (families.mergeSort fun a b => (compare a.name b.name).isLE).flatMap (familyLines meters)

/-- The names of the families an application has registered for scraping. -/
structure Registry where
  names : List String := []

/-- Registers the families of this library. A family whose name is there already is left alone, so
doing it again changes nothing. -/
def Registry.registerAll (registry : Registry) : Registry :=
  ⟨families.foldl (fun names family =>
    if names.contains family.name then names else names ++ [family.name]) registry.names⟩

end LedgerClient.Telemetry
