import TraceAgent.Intercept.Run
import TraceAgent.Scenario.Render

/-!
# Steps of a scripted run: handles, results and deltas

A step of a run reads its fields, looks up the named objects it works on, runs, and answers
with its result and what changed meanwhile.

* `StepM` is the work of a step: it may be *refused* (`Refusal`) before anything ran, or panic
  (an error of `Agent`), keeping the state reached.
* Named objects live in the handle table; a missing name refuses with `unknownHandle`, an object
  of the wrong kind with `wrongHandle`.
* The *deltas* of a step are the spans its simple exporters received since the last report
  (batch exporters are read only after a flush, a shutdown and at the end), the new journal lines
  and, when asked for, the new log events. Each is reported once.
-/

namespace TraceAgent
namespace Scenario

open Protocol

/-- The work of a step: refused before it runs, or run in the agent. -/
abbrev StepM := ExceptT Refusal Agent

/-- A reading inside a step. -/
def lift {α : Type} (r : Read α) : StepM α :=
  match r with
  | .ok a => pure a
  | .error e => throw e

/-- Agent work inside a step. -/
def act {α : Type} (k : Agent α) : StepM α := ExceptT.lift k

/-- The object stored under a name. -/
def handle (name : String) : StepM Handle := do
  match (← act get).handles.lookup name with
  | some h => pure h
  | none => throw (.unknownHandle name)

/-- The name a field holds. -/
def nameAt (d : Doc) (key : String) : StepM String := lift (reqString d key)

/-- The trace named by a field. -/
def traceAt (d : Doc) (key : String) : StepM TraceRef := do
  let name ← nameAt d key
  match ← handle name with
  | .trace t => pure t
  | _ => throw (.wrongHandle name)

/-- The async context named by a field. -/
def asyncAt (d : Doc) (key : String) : StepM AsyncRef := do
  let name ← nameAt d key
  match ← handle name with
  | .async a => pure a
  | _ => throw (.wrongHandle name)

/-- The carrier stored under a name, or an empty one when the name is free. -/
def headersOrEmpty (name : String) : StepM HeaderMap := do
  match (← act get).handles.lookup name with
  | some (.headers h) => pure h
  | some _ => throw (.wrongHandle name)
  | none => pure {}

/-- The carrier stored under a name. -/
def headersNamed (name : String) : StepM HeaderMap := do
  match ← handle name with
  | .headers h => pure h
  | _ => throw (.wrongHandle name)

/-- A carrier given by name or as a header list. -/
def headersAt (d : Doc) (key : String) : StepM HeaderMap := do
  match optField d key with
  | some (.str name) => headersNamed name
  | some (.arr items) => lift (applyHeaderList {} key items)
  | _ => throw (.badInput key)

/-- The trace id given by a field: a stored one (`{"handle": name}`) or one written out; a
transaction id that does not read gives its error. -/
def traceIdAt (d : Doc) : StepM (Except TraceError TraceId) := do
  match d.field? "handle" with
  | some (.str name) =>
    match ← handle name with
    | .traceId t => pure (.ok t)
    | _ => throw (.wrongHandle name)
  | _ =>
    match readTraceId (← act masks) d with
    | .ok t => pure (.ok t)
    | .error (.inl r) => throw r
    | .error (.inr e) => pure (.error e)

/-- Stores an object under the name an optional field gives. -/
def storeAs (name : Option String) (h : Handle) : Agent Unit :=
  match name with
  | some n => Agent.storeHandle n h
  | none => pure ()

/-- An error as a result: its kind and text. -/
def errorDoc (kind message : String) : Doc := .obj [("error", .str kind), ("message", .str message)]

/-- A trace error as a result. -/
def traceErrorDoc (e : TraceError) : Doc := errorDoc e.kind e.message

/-- A hook's result: `"ok"` or its error. -/
def hookResultDoc : Except HookError Unit → Doc
  | .ok () => .str "ok"
  | .error e => errorDoc e.kind e.message

/-- Flushes the export pipeline. -/
def flushPipeline : Agent (Except ExportError Unit) := do
  let w ← get
  let (logs, r, pl) := w.pipeline.forceFlush
  set { w with pipeline := pl }
  Agent.emit logs
  pure r

/-- Shuts the export pipeline down. -/
def shutdownPipeline : Agent (Except ExportError Unit) := do
  let w ← get
  let (logs, r, pl) := w.pipeline.shutdown
  set { w with pipeline := pl }
  Agent.emit logs
  pure r

/-- The spans exporters received since the last report, in processor order; batch exporters are
read only when `withBatch`. -/
def newExports (withBatch : Bool) : Agent (List Doc) := do
  let w ← get
  let cursors := w.reported.exported
  let mut out : List Doc := []
  let mut after : List Nat := []
  for (p, i) in w.pipeline.processors.zipIdx do
    let seen := cursors.getD i 0
    if p.isBatch && !withBatch then
      after := after ++ [seen]
    else
      let stored := p.exporter.stored
      for s in stored.drop seen do
        out := out ++ [← spanDoc i s]
      after := after ++ [stored.length]
  modify fun w => { w with reported := { w.reported with exported := after } }
  pure out

/-- The journal lines since the last report. -/
def newJournal : Agent (List String) := do
  let w ← get
  set { w with reported := { w.reported with journal := w.journal.size } }
  pure (w.journal.toList.drop w.reported.journal)

/-- The log events since the last report. -/
def newLogs : Agent (List String) := do
  let w ← get
  set { w with reported := { w.reported with logs := w.logs.size } }
  pure ((w.logs.toList.drop w.reported.logs).map LogEvent.text)

/-- The deltas to report: the members `exported`, `journal` and `logs` that are not empty. -/
def deltas (withBatch withLogs : Bool) : Agent (List (String × Doc)) := do
  let exported ← newExports withBatch
  let journal ← newJournal
  let logs ← newLogs
  let member (key : String) (xs : List Doc) : List (String × Doc) :=
    if xs.isEmpty then [] else [(key, .arr xs)]
  pure (member "exported" exported ++ member "journal" (journal.map .str) ++
    member "logs" (if withLogs then logs.map .str else []))

end Scenario
end TraceAgent
