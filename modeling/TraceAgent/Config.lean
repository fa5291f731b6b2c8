import TraceAgent.Sampler
import TraceAgent.IdSource
import TraceAgent.Log
import TraceAgent.Decimal.Read
import TraceAgent.Text.Blank

/-!
# Configuration

The settings of a tracing context, and how the environment overrides their defaults:

| variable                           | setting                | rule                                       |
|------------------------------------|------------------------|--------------------------------------------|
| `CALLTRACE_AGENT_ID`               | agent id               | ignored when blank; refused (warning) with `^` |
| `CALLTRACE_APPLICATION_NAME`       | application name       | ignored when blank; default `unknown_service` |
| `CALLTRACE_CALL_STACK_MAX_DEPTH`   | call stack depth limit | unsigned 64-bit decimal, default 64        |
| `CALLTRACE_SPAN_EVENT_COUNT_LIMIT` | span event limit       | unsigned 64-bit decimal, default 5000      |
| `CALLTRACE_SAMPLER`                | sampler                | `always_on`, `always_off`, `counting`, `percent` |
| `CALLTRACE_SAMPLER_ARG`            | its argument           | rate or percentage                         |

A counting sampler with an unreadable rate falls back to rate 1, a percent sampler with an
unreadable percentage to 100, and an unknown sampler name to `alwaysOn`, each with a warning.
An agent id of `none` stands for the process-based default.
-/

namespace TraceAgent

/-- The settings of a tracing context. -/
structure Config where
  agentId : Option String
  applicationName : String
  sampler : Sampler
  spanIds : SpanIdKind
  maxCallStackDepth : Nat
  maxSpanEvents : Nat
  deriving Inhabited

namespace Config

/-- The defaults, before the environment is read. -/
def defaults : Config :=
  ⟨none, "unknown_service", .alwaysOn, .random, 64, 5000⟩

/-- A variable of the environment. -/
def lookup (env : List (String × String)) (name : String) : Option String :=
  (env.find? (fun p => p.1 == name)).map Prod.snd

/-- The sampler named by the environment, with the warnings its reading gave. -/
def samplerOf (name : String) (arg : Option String) : Sampler × List LogEvent :=
  match name with
  | "always_on" => (.alwaysOn, [])
  | "always_off" => (.alwaysOff, [])
  | "counting" =>
    match arg.bind Decimal.readU64 with
    | some r => (.counting r.toUInt64, [])
    | none => (.counting 1, [LogEvent.warn "Config.InvalidSamplerArgument"])
  | "percent" =>
    match arg.bind Decimal.readFloat with
    | some p => (.percent p, [])
    | none => (.percent 100.0, [LogEvent.warn "Config.InvalidSamplerArgument"])
  | _ => (.alwaysOn, [LogEvent.warn "Config.InvalidSamplerType"])

/-- The configuration read from the environment, with the warnings it gave. -/
def ofEnv (env : List (String × String)) : Config × List LogEvent :=
  let c := defaults
  let (c, logs) := match lookup env "CALLTRACE_AGENT_ID" with
    | some a =>
      if Text.isBlank a then (c, [])
      else if a.toList.contains '^' then (c, [LogEvent.warn "Config.InvalidAgentId"])
      else ({ c with agentId := some a }, [])
    | none => (c, [])
  let c := match lookup env "CALLTRACE_APPLICATION_NAME" with
    | some n => if Text.isBlank n then c else { c with applicationName := n }
    | none => c
  let c := match (lookup env "CALLTRACE_CALL_STACK_MAX_DEPTH").bind Decimal.readU64 with
    | some d => { c with maxCallStackDepth := d }
    | none => c
  let c := match (lookup env "CALLTRACE_SPAN_EVENT_COUNT_LIMIT").bind Decimal.readU64 with
    | some d => { c with maxSpanEvents := d }
    | none => c
  match lookup env "CALLTRACE_SAMPLER" with
  | some name =>
    let (s, more) := samplerOf name (lookup env "CALLTRACE_SAMPLER_ARG")
    ({ c with sampler := s }, logs ++ more)
  | none => (c, logs)

end Config

end TraceAgent
