import TraceAgent.Scenario.Ops
import TraceAgent.Scenario.Setup

/-!
# Running a script

A script is a configuration and a list of steps. Every step runs on a named call chain, by
default the one of the step around it (`"main"` at the top); nested steps are those of a
`call`'s body and of a `with_chain`. A nested step that names a chain still waiting on an
enclosing step, other than its own, is refused with `chainBusy`.

Each step answers with its operation, its result, its extra members and its deltas; a refused
step reports no deltas, so they go to the next step that reports. A panic ends the step with
the result `{"error": "Panic", "message": text}`.

After the last step the run is taken down: the named objects are dropped in name order, then the
stored chain states, then the chains stop in name order (their state is dropped where the chain
storage is already gone), and last the pipeline shuts down. The final deltas report all of it.

The nesting of steps bounds the recursion: `runStep` takes the depth of the script as fuel.
-/

namespace TraceAgent
namespace Scenario

open Protocol

/-- Where a step runs: its chain, the chains waiting on enclosing steps, and whether log events
are reported. -/
structure Place where
  chain : String
  waiting : List String
  logs : Bool

/-- How a step ended. -/
inductive StepEnd where
  | refused (r : Refusal)
  | panicked (text : String)
  | done (result : StepResult)

/-- The chain a step runs on: its `chain` field or the enclosing one. -/
def chainOf (p : Place) (step : Doc) : Read String :=
  match optField step "chain" with
  | some (.str c) => if c != p.chain && p.waiting.contains c then .error (.chainBusy c) else pure c
  | none => pure p.chain
  | some _ => refuse "chain"

/-- The answer of a step: a refusal alone, or the result with the step's deltas. -/
def stepAnswer (p : Place) (op : String) : StepEnd → Agent Doc
  | .refused r => pure (.obj [("op", .str op), ("result", errorDoc r.kind r.message)])
  | .panicked text => do
    let ds ← deltas (op == "force_flush" || op == "shutdown") p.logs
    pure (.obj ([("op", .str op), ("result", errorDoc "Panic" text)] ++ ds))
  | .done (result, extra) => do
    let ds ← deltas (op == "force_flush" || op == "shutdown") p.logs
    pure (.obj ([("op", .str op), ("result", result)] ++ extra ++ ds))

/-- Runs one step and answers it. -/
def runStep : Nat → Place → Doc → Agent Doc
  | 0, p, step => stepAnswer p (((step.field? "op").bind Doc.asString?).getD "") (.refused (.badInput "steps"))
  | fuel + 1, p, step => do
    let op := ((step.field? "op").bind Doc.asString?).getD ""
    match chainOf p step with
    | .error r => stepAnswer p op (.refused r)
    | .ok c =>
      let inner : Place := { p with chain := c, waiting := p.waiting ++ [c] }
      let nested (steps : List Doc) : Agent (List Doc) := steps.mapM (runStep fuel inner)
      let work : StepM StepResult := match op with
        | "call" => callStep nested step
        | "with_chain" => withChainStep nested step
        | _ => plainStep op step
      let ending ← Agent.onThread (.chain c)
        (tryCatch (do
            match ← work.run with
            | .ok r => pure (StepEnd.done r)
            | .error r => pure (StepEnd.refused r))
          (fun text => pure (StepEnd.panicked text)))
      stepAnswer p op ending

/-- Takes the run down and answers with the final deltas. -/
def finish (logs : Bool) : Agent Doc := do
  let w ← get
  let named := w.handles.mergeSort (fun a b => decide (a.1 ≤ b.1))
  let stored := w.detached.mergeSort (fun a b => decide (a.1 ≤ b.1))
  let chains := (w.locals.filterMap fun (p : Thread × ChainLocal) => match p.1 with
    | .chain name => some name
    | .host => none).mergeSort (fun a b => decide (a ≤ b))
  Agent.onThread .host do
    for (name, h) in named do
      modify fun w => { w with handles := w.handles.filter (fun (p : String × Handle) => p.1 != name) }
      Agent.dropHandleValue h
    for (name, c) in stored do
      modify fun w =>
        { w with detached := w.detached.filter (fun (p : String × Option ChainLocal) => p.1 != name) }
      Agent.dropChainLocal Agent.dropFuel c
  for name in chains do Agent.stopThread (.chain name)
  let before ← deltas false logs
  match ← shutdownPipeline with
  | .ok () | .error .alreadyShutdown => pure ()
  | .error _ => Agent.log (.dbg "TraceContext.Drop.ShutdownError")
  let after ← deltas true logs
  let merged := ["exported", "journal", "logs"].filterMap fun key =>
    let items := ((before.lookup key).bind Doc.asList?).getD [] ++ ((after.lookup key).bind Doc.asList?).getD []
    if items.isEmpty then none else some (key, Doc.arr items)
  pure (.obj merged)

/-- Runs a script: the answers of its steps and the final deltas. -/
def runScript (c : RunConfig) (steps : List Doc) : Doc :=
  let fuel := (Doc.arr steps).depth + 1
  let place : Place := { chain := "main", waiting := [], logs := c.logs }
  let run : Agent Doc := do
    let answers ← steps.mapM (runStep fuel place)
    let final ← tryCatch (finish c.logs) (fun text => pure (.obj [("panic", .str text)]))
    pure (.obj [("context", .obj [("agent_id", .str c.settings.agentId),
        ("application_name", .str c.settings.applicationName)]),
      ("final", final), ("steps", .arr answers)])
  match run.run (startWorld c) with
  | .ok d _ => d
  | .error text _ => .obj [("panic", .str text)]

/-- `scenario`: a scripted run of the tracer. -/
def scenarioProbe (req : Doc) : Protocol.Outcome :=
  withRead (do
      let c ← readRunConfig ((optField req "config").getD (.obj []))
      let steps ← reqList req "steps"
      pure (c, steps)) fun (c, steps) =>
    Outcome.ok (runScript c steps)

end Scenario
end TraceAgent
