import BenchLog.Json
import BenchLog.Settings

/-!
# Settings as a record

The settings with the names and the nesting that a settings file gives them.
-/

namespace BenchLog.Settings

/-- The settings as a JSON value. -/
def toJson (settings : Settings) : Json :=
  .object
    [("logs", .array (settings.logs.map .text)),
      ("duration_sec", .ofFloat settings.duration),
      ("warmup_sec", .ofFloat settings.warmup),
      ("window", .bool settings.window),
      ("workers", .ofNat settings.workers),
      ("input_kind", .text settings.inputKind.name),
      ("tracked_types", .object
        [("follow", .number (.integer settings.tracked.follow)),
          ("tweet", .number (.integer settings.tracked.tweet))]),
      ("output", .object
        [("format", .text settings.format.name),
          ("path", .ofText? settings.output)])]

end BenchLog.Settings
