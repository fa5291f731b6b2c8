/-!
# Log events

The library reports what it skips or repairs as log events. Only an event's level and name are
observable; `LogEvent.text` writes them as `LEVEL Name`.
-/

namespace TraceAgent

/-- The level of a log event. -/
inductive LogLevel where
  | debug
  | info
  | warn
  | error
  deriving Repr, DecidableEq, Inhabited

/-- A log event: a level and a dotted name such as `Trace.Close.UnbalancedFrames`. -/
structure LogEvent where
  level : LogLevel
  name : String
  deriving Repr, DecidableEq, Inhabited

namespace LogEvent

/-- The text `LEVEL Name`. -/
def text (e : LogEvent) : String :=
  let level := match e.level with
    | .debug => "DEBUG"
    | .info => "INFO"
    | .warn => "WARN"
    | .error => "ERROR"
  level ++ " " ++ e.name

/-- A debug event. -/
def dbg (name : String) : LogEvent := ⟨.debug, name⟩

/-- A warning. -/
def warn (name : String) : LogEvent := ⟨.warn, name⟩

/-- An error event. -/
def err (name : String) : LogEvent := ⟨.error, name⟩

end LogEvent

end TraceAgent
