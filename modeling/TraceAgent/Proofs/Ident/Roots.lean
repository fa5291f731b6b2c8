import Mathlib
import TraceAgent.Proofs.Chains.Starts
import TraceAgent.Proofs.Traces.Closing
import TraceAgent.Scenario.Render

/-!
# Roots and callee ids

Whether a trace started its transaction is not recorded: a trace reports itself a root when it
records, is no branch of an async context, and the trace id of its span has no parent
(`World.isRootTrace`). So root-ness follows the trace id a trace is started with:

* a new trace records exactly when the sampler takes it, and then it is a root; a continued trace
  is a root exactly when the caller's trace id has no parent; a disabled trace and a branch never
  are (`StartCall.run_isRootTrace`, `World.isRootTrace_of_isAsync`).

A caller hands its callee the trace id `TraceId.child`: the same transaction and flags, the
caller's span as parent, and a span id drawn from the generator. A draw takes the first value from
the generator's position on that is neither the id of no span nor the caller's span or parent
(`RandomSpans.draw_spec`); a generator that comes round to every value again always has one. The
callee's id is a root exactly when the caller's span is the id of no span.

Headers may name a continued trace with no parent, or with the span id of no span, and extraction
reads both as they stand (`continued_trace_without_parent_is_root`).

Main statement: `roots_follow_trace_ids`.
-/

namespace TraceAgent

namespace World

/-- Whether trace `t` reports that it started its transaction: it records, it is no branch, and
the trace id of its span is a root. -/
def isRootTrace (w : World) (t : TraceRef) : Bool :=
  Scenario.startedTransaction (w.traces[t]?.getD default) (w.idOf t)

variable {v w x : World} {t : TraceRef}

/-- A branch of an async context, recording or disabled, never reports a root. -/
theorem isRootTrace_of_isAsync (h : (w.traces[t]?.getD default).isAsync = true) :
    w.isRootTrace t = false := by
  unfold isRootTrace
  rcases hk : (w.traces[t]?.getD default).kind with ⟨sp, _ | b, st⟩ | a
  · simp [TraceObj.isAsync, hk] at h
  all_goals simp [Scenario.startedTransaction, hk]

/-- Root-ness is read off the trace table and the spans' trace ids alone. -/
theorem isRootTrace_withLocal (w : World) (th : Thread) (c : Option ChainLocal) (t : TraceRef) :
    (w.withLocal th c).isRootTrace t = w.isRootTrace t := by
  rw [withLocal_eq]
  rfl

/-- A span keeps its trace id while only root records and frames are written. -/
theorem traceId_getD_of_shapes {sp : SpanRef}
    (h : (x.spans[sp]?).map SpanState.shape = (v.spans[sp]?).map SpanState.shape) :
    (x.spans[sp]?.getD default).traceId = (v.spans[sp]?.getD default).traceId := by
  rcases hx : x.spans[sp]? with _ | a <;> rcases hv : v.spans[sp]? with _ | b <;>
    simp_all [SpanState.shape]

theorem RootsWritten.isRootTrace_eq (h : RootsWritten v x) (t : TraceRef) :
    x.isRootTrace t = v.isRootTrace t := by
  simp only [isRootTrace, idOf, h.traces]
  congr 2
  funext sp
  exact traceId_getD_of_shapes (h.shapes sp)

/-- A recording trace pushed with a new span reports a root exactly when its trace id is one. -/
theorem isRootTrace_push_recording (tid : TraceId) (m : Nat) (st : CallStack) :
    ({ w with
        spans := w.spans.push { traceId := tid, maxEvents := m }
        traces := w.traces.push { kind := .recording w.spans.size none st } }).isRootTrace
      w.traces.size = tid.isRoot := by
  simp [isRootTrace, idOf, Scenario.startedTransaction, TraceObj.span?]

/-- A disabled trace pushed reports no root. -/
theorem isRootTrace_push_disabled (a : Bool) :
    ({ w with traces := w.traces.push { kind := .disabled a } }).isRootTrace w.traces.size = false := by
  simp [isRootTrace, idOf, Scenario.startedTransaction, TraceObj.span?]

end World

namespace Agent

variable {w u : World}

/-- Binding keeps what every trace reports. -/
theorem bindNew_run_isRootTrace (hup : u.chainUp = true) (hb : u.chain.trace = none) (t : TraceRef) :
    ∃ v, (bindNew t).run u = .ok (.ok t) v ∧ ∀ j, v.isRootTrace j = u.isRootTrace j :=
  ⟨_, bindNew_run_unbound hup hb t, World.isRootTrace_withLocal u _ _⟩

/-- A new trace on an unbound chain: a root exactly when the sampler takes it. -/
theorem newTraceObject_run_isRootTrace (hb : w.boundTrace = none) :
    ∃ u, newTraceObject.run w = (bindNew w.traces.size).run u ∧
      u.isRootTrace w.traces.size = (w.settings.sampler.decide w.sampling).1 ∧
      u.locals = w.locals ∧ u.here = w.here ∧ u.gone = w.gone := by
  unfold newTraceObject
  rw [run_bind_ok (ensureUnbound_run_none hb)]
  dsimp only
  rw [run_bind_ok (isSampled_run w)]
  cases hd : (w.settings.sampler.decide w.sampling).1
  · -- declined: a disabled trace
    simp only [Bool.false_eq_true, ↓reduceIte]
    rw [run_bind_ok (newTrace_run _ _)]
    exact ⟨_, rfl, World.isRootTrace_push_disabled false, rfl, rfl, rfl⟩
  · -- sampled: a recording trace under a root trace id, whichever way its span id is made
    simp only [↓reduceIte]
    rw [run_bind_ok (settings_run _), run_bind_ok (nextSequence_run _)]
    cases hk : w.ids.kind
    · rw [run_bind_ok (newSpanId_run_increment ?_), run_bind_ok (recordingTrace_run _ _)]
      · exact ⟨_, rfl, World.isRootTrace_push_recording _ _ _, rfl, rfl, rfl⟩
      · exact hk
    · obtain ⟨d, hdraw⟩ : ∃ d, w.rand.random = d := ⟨_, rfl⟩
      rw [run_bind_ok (newSpanId_run_random d ?_ ?_), run_bind_ok (recordingTrace_run _ _)]
      · exact ⟨_, rfl, World.isRootTrace_push_recording _ _ _, rfl, rfl, rfl⟩
      · exact hk
      · exact hdraw

namespace StartCall

/-- Whether the trace a start call binds reports a root: a new trace when the sampler takes it, a
continued trace when the caller's trace id has no parent, a disabled trace never. -/
def startsRootTrace (w : World) : StartCall → Bool
  | newTrace => (w.settings.sampler.decide w.sampling).1
  | continueTrace tid => tid.isRoot
  | disableSampling => false
  | traceFor .absent => (w.settings.sampler.decide w.sampling).1
  | traceFor .notSampled => false
  | traceFor (.resume tid _ _) => tid.isRoot

/-- A continued trace, once bound in `v`, writes the caller's application and the host into its
root record, which leaves every trace's root-ness alone. -/
theorem traceFor_resume_runs_written {tid : TraceId} (app host : Option String) {v : World}
    (hv : (continueTraceObject tid).run w = .ok (.ok w.traces.size) v) :
    Runs (fun x => x = w) (Agent.traceFor (.resume tid app host))
      (fun r x => r = .ok w.traces.size ∧ World.RootsWritten v x) (fun _ => False) := by
  unfold Agent.traceFor
  refine Runs.bind (R := fun r x => r = .ok w.traces.size ∧ x = v) ?_ fun r => ?_
  · intro x hx
    subst hx
    rw [hv]
    exact ⟨rfl, rfl⟩
  refine Runs.of_pre (fun x hx => hx.1) fun hr => ?_
  subst hr
  dsimp only
  refine Runs.mono (P := World.RootsWritten v) ?_ (fun x hx => hx.2 ▸ World.RootsWritten.refl v)
    (fun _ _ h => h) (fun _ h => h)
  split
  all_goals
    try refine Runs.bind (recordRoot_runs_written _ _) fun _ => ?_
    split
    all_goals
      try refine Runs.bind (recordRoot_runs_written _ _) fun _ => ?_
      exact Runs.pure _ fun _ hx => ⟨rfl, hx⟩

/-- On a live, unbound chain every start call binds the next trace, and that trace reports a root
exactly as `startsRootTrace` says. -/
theorem run_isRootTrace (c : StartCall) (hup : w.chainUp = true) (hb : w.chain.trace = none) :
    ∃ v, c.run.run w = .ok (.ok w.traces.size) v ∧ v.isRootTrace w.traces.size = c.startsRootTrace w := by
  have hb' : w.boundTrace = none := by rw [World.boundTrace_of_up hup, hb]
  -- the three ways a trace object is built, each bound as it stands
  have hnew : ∃ v, newTraceObject.run w = .ok (.ok w.traces.size) v ∧
      v.isRootTrace w.traces.size = (w.settings.sampler.decide w.sampling).1 := by
    obtain ⟨u, hrun, hroot, hl, hh, hg⟩ := newTraceObject_run_isRootTrace hb'
    obtain ⟨v, hv, hkeep⟩ := bindNew_run_isRootTrace (u := u)
      (by rw [World.chainUp_eq_of hh hg, hup]) (by rw [World.chain_eq_of_locals hl hh, hb]) w.traces.size
    exact ⟨v, hrun.trans hv, (hkeep _).trans hroot⟩
  have hcontinue (tid : TraceId) : ∃ v, (continueTraceObject tid).run w = .ok (.ok w.traces.size) v ∧
      v.isRootTrace w.traces.size = tid.isRoot := by
    obtain ⟨v, hv, hkeep⟩ := bindNew_run_isRootTrace (u := { w with
        spans := w.spans.push { traceId := tid, maxEvents := w.settings.maxSpanEvents }
        traces := w.traces.push
          { kind := .recording w.spans.size none { maxDepth := w.settings.maxCallStackDepth } } })
      hup hb w.traces.size
    exact ⟨v, (continueTraceObject_run_unbound hb' tid).trans hv,
      (hkeep _).trans (World.isRootTrace_push_recording _ _ _)⟩
  have hdisable : ∃ v, disableSampling.run w = .ok (.ok w.traces.size) v ∧
      v.isRootTrace w.traces.size = false := by
    obtain ⟨v, hv, hkeep⟩ := bindNew_run_isRootTrace
      (u := { w with traces := w.traces.push { kind := .disabled false } }) hup hb w.traces.size
    exact ⟨v, (disableSampling_run_unbound hb').trans hv, (hkeep _).trans (World.isRootTrace_push_disabled false)⟩
  cases c with
  | newTrace => exact hnew
  | continueTrace tid => exact hcontinue tid
  | disableSampling => exact hdisable
  | traceFor r =>
    cases r with
    | absent => exact hnew
    | notSampled => exact hdisable
    | resume tid app host =>
      obtain ⟨v, hv, hroot⟩ := hcontinue tid
      obtain ⟨r, x, hrun, hr, hx⟩ := Runs.exists_ok (traceFor_resume_runs_written app host hv)
      subst hr
      exact ⟨x, hrun, (hx.isRootTrace_eq _).trans hroot⟩

end StartCall

/-- The callee's trace id: the caller's transaction and flags, the caller's span as its parent,
and a drawn span id that is neither the id of no span nor the caller's span or parent. It is a
root exactly when the caller's span is the id of no span. -/
theorem nextTraceId_run_fresh (tid : TraceId) (w : World) :
    ∃ s, (nextTraceId tid).run w = .ok (tid.child s) { w with rand := (w.rand.nextSpanId tid.span tid.parent).2 } ∧
      s ≠ SpanId.none ∧ s ≠ tid.span ∧ s ≠ tid.parent ∧
      ((tid.child s).isRoot = true ↔ tid.span = SpanId.none) := by
  obtain ⟨hnone, hspan, hparent⟩ := w.rand.nextSpanId_fresh tid.span tid.parent
  refine ⟨_, nextTraceId_run w tid, hnone, hspan, hparent, ?_⟩
  simp [TraceId.isRoot, SpanId.isNone]

end Agent

/-- Root-ness follows the trace ids traces start with. On a live chain with no bound trace, every
start call binds the next trace, which reports a root exactly when it is a new trace the sampler
takes, or a continued trace (directly or for a caller's headers) whose caller's trace id has no
parent; a disabled trace never does, and neither does any branch of an async context. The callee
id of any trace id keeps its transaction and flags, takes its span as parent, gets a span id that
is none of the id of no span, its span and its parent, and is a root exactly when its span is the
id of no span. -/
theorem roots_follow_trace_ids (c : Agent.StartCall) (w : World) (t : TraceRef) (tid : TraceId) :
    (w.chainUp = true → w.chain.trace = none →
      ∃ v, c.run.run w = .ok (.ok w.traces.size) v ∧ v.isRootTrace w.traces.size = c.startsRootTrace w) ∧
    ((w.traces[t]?.getD default).isAsync = true → w.isRootTrace t = false) ∧
    ∃ s, (Agent.nextTraceId tid).run w = .ok (tid.child s) { w with rand := (w.rand.nextSpanId tid.span tid.parent).2 } ∧
      (tid.child s).transaction = tid.transaction ∧ (tid.child s).flags = tid.flags ∧
      (tid.child s).parent = tid.span ∧ s ≠ SpanId.none ∧ s ≠ tid.span ∧ s ≠ tid.parent ∧
      ((tid.child s).isRoot = true ↔ tid.span = SpanId.none) := by
  refine ⟨fun hup hb => c.run_isRootTrace hup hb, World.isRootTrace_of_isAsync, ?_⟩
  obtain ⟨s, hrun, hfresh⟩ := Agent.nextTraceId_run_fresh tid w
  exact ⟨s, hrun, rfl, rfl, rfl, hfresh⟩

/-- A new trace on a fresh world, whose chain is live and unbound. -/
theorem roots_follow_trace_ids_fresh :
    (default : World).chainUp = true ∧ (default : World).chain.trace = none ∧
      ∃ v, Agent.StartCall.newTrace.run.run default = .ok (.ok (default : World).traces.size) v ∧
        v.isRootTrace (default : World).traces.size = Agent.StartCall.newTrace.startsRootTrace default := by
  have hup : (default : World).chainUp = true := rfl
  have hb : (default : World).chain.trace = none := rfl
  exact ⟨hup, hb, (roots_follow_trace_ids .newTrace default 0 default).1 hup hb⟩

/-- Headers that name a span but no parent: the transaction id `a^1^2` and the span id of no span. -/
def headersWithoutParent : HeaderMap := ⟨[("x-calltrace-span-id", "-1"), ("x-calltrace-txid", "a^1^2")]⟩

/-- The trace id those headers name. -/
def parentlessTraceId : TraceId := ⟨⟨"a", 1, 2⟩, SpanId.none, SpanId.none, 0⟩

/-- A continued trace can report a root, and so can its callee. Headers with no parent span id, and
with the span id of no span, are read as a trace id with no parent and no span; the trace started
for them on a fresh chain reports a root, and so does the callee id it hands on. -/
theorem continued_trace_without_parent_is_root :
    (RemoteTrace.extract headersWithoutParent).1 = .resume parentlessTraceId none none ∧
      (∃ v, (Agent.traceFor (.resume parentlessTraceId none none)).run default = .ok (.ok 0) v ∧
        v.isRootTrace 0 = true) ∧
      ∃ n v, (Agent.nextTraceId parentlessTraceId).run default = .ok n v ∧ n.isRoot = true := by
  refine ⟨rfl, ?_, ?_⟩
  · obtain ⟨v, hrun, hroot⟩ := (Agent.StartCall.traceFor (.resume parentlessTraceId none none)).run_isRootTrace
      (w := default) rfl rfl
    exact ⟨v, hrun, hroot.trans rfl⟩
  · obtain ⟨s, hrun, -, -, -, hroot⟩ := Agent.nextTraceId_run_fresh parentlessTraceId default
    exact ⟨_, _, hrun, hroot.2 rfl⟩

end TraceAgent
