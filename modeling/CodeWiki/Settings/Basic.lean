import CodeWiki.Checkout.Eligible
import CodeWiki.Retention
import CodeWiki.Schedule.Basic

/-!
All settings together, what may be wrong with them, and which values cannot drive a run.
-/
namespace CodeWiki

structure Settings where
  checkout : CheckoutSettings := {}
  excerpt : ExcerptSettings := {}
  grouping : GroupingSettings := {}
  schedule : ScheduleSettings := {}
  retention : RetentionSettings := {}
deriving DecidableEq, Repr

inductive InvalidSetting where
  | backoff (value : Floating)
  | noAttempts
  | temperature (value : Floating)
deriving DecidableEq, Repr

/-- Why there are no settings or no credentials. -/
inductive SettingsError where
  | noCredentials
  | unreadable (path reason : Text)
  | malformed
  | invalid (problem : Text)
deriving DecidableEq, Repr

def InvalidSetting.message : InvalidSetting → Text
  | backoff value =>
    "orchestrate.rate_limit_backoff_secs must be between 0 and " ++
      Text.ofNat ScheduleSettings.maxBackoffSecs ++ ", got " ++
        NumberStyle.plain.write .double value
  | noAttempts => "orchestrate.max_attempts must be at least 1"
  | temperature value =>
    "orchestrate.temperature must be finite, got " ++ NumberStyle.plain.write .single value

namespace SettingsError

def message : SettingsError → Text
  | noCredentials => "No API keys found in environment; set GROQ_API_KEY(S) or GOOGLE_API_KEY"
  | unreadable path reason => "Failed to read config file " ++ path ++ ": " ++ reason
  | malformed => "Failed to parse config YAML"
  | invalid problem => "Invalid configuration: " ++ problem

def causes : SettingsError → List Text
  | unreadable _ reason => [reason]
  | _ => []

end SettingsError

namespace Settings

def problem? (settings : Settings) : Option InvalidSetting :=
  let schedule := settings.schedule
  if !schedule.backoffSecs.isWithin ScheduleSettings.maxBackoffSecs then
    some (.backoff schedule.backoffSecs)
  else if schedule.maxAttempts = 0 then some .noAttempts
  else if !schedule.temperature.isFinite then some (.temperature schedule.temperature)
  else none

/-- The settings, if all their values can drive a run. -/
def check (settings : Settings) : Except SettingsError Settings :=
  match settings.problem? with
  | some problem => .error (.invalid problem.message)
  | none => .ok settings

end Settings
end CodeWiki
