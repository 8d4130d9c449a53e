import BenchLog.Decimal.Style
import BenchLog.Settings
import BenchLog.TransactionSummary

/-!
# Checking settings

Settings that cannot be analyzed are refused before any log is read. The rules are tried in a fixed
order, and the first one that is broken is reported.
-/

namespace BenchLog.Settings

/-- Why settings are refused. -/
inductive Fault where
  | noLogs
  | badDuration (seconds : Float)
  | badWarmup (seconds : Float)
  /-- Summaries of clients have no times that a window could select. -/
  | windowOfMicrobench
  | noWorkers
  /-- Both tracked kinds are the same. -/
  | sameKinds (kind : Int)
  deriving DecidableEq

/-- The fault as a message has it. -/
def Fault.message : Fault → String
  | .noLogs => "at least one log file is required"
  | .badDuration seconds =>
    "duration must be a positive number of seconds (pass --duration), got " ++
      Decimal.plain.write seconds
  | .badWarmup seconds => "warmup must be zero or more seconds, got " ++ Decimal.plain.write seconds
  | .windowOfMicrobench => "--window only applies to per-transaction logs"
  | .noWorkers => "workers must be at least 1, got 0"
  | .sameKinds kind =>
    "follow and tweet transaction types must differ, both are " ++ toString kind

/-- Check the settings. Only an analysis of transactions needs a duration. -/
def check (settings : Settings) : Except Fault Unit :=
  if settings.logs.isEmpty then
    .error .noLogs
  else if settings.inputKind = .transactions ∧ !isDuration settings.duration then
    .error (.badDuration settings.duration)
  else if !(settings.warmup.isFinite && 0 ≤ settings.warmup) then
    .error (.badWarmup settings.warmup)
  else if settings.window ∧ settings.inputKind = .microbench then
    .error .windowOfMicrobench
  else if settings.workers = 0 then
    .error .noWorkers
  else if settings.tracked.follow = settings.tracked.tweet then
    .error (.sameKinds settings.tracked.follow)
  else
    .ok ()

end BenchLog.Settings
