import Mathlib
import TraceAgent.Proofs.Chains.Starts
import TraceAgent.Proofs.Stack.Metadata

/-!
# Work on a trace that is not sampled

A trace starts without recording when the sampler declines a new transaction, when sampling is
disabled, or when the caller asked not to be sampled (`StartCall.StartsUnsampled`). What is then
done with it, with its recorders and its span recorder, with the async contexts handed out from
it and with the branches those resume, and what the hooks of span events and async end points
do on them (`UnsampledCall`), is silent:

* no call panics, and every call answers as a trace that records nothing does: recorders that
  may not write, a block end that succeeds with no frame open, contexts that resume unsampled
  branches only, no trace id for a callee, and a finish that reports no branch
  (`UnsampledCall.Answers`);
* no id is drawn, no span changes and none is handed to the pipeline, and what did not record
  still does not (`World.Silent`);
* a branch is bound only to a chain that has no trace (`World.BindsOnlyFree`).

A hook finds nothing to record: a span event's finds no recording trace on its chain
(`spanEvent_hooks_run_unsampled`), and an async end point's resumes an unsampled branch or none,
whose recorder may not write, so that its frame, its handler's writes and the close of the branch
land nowhere (`endPointBefore_runs_unsampled`, `endPointAfter_runs_unsampled`). Each step of a hook
keeps the stretch from the hook's start silent and binding only free chains (`World.Hushed`).

Main statements: `UnsampledCall.onThread_run` for one call on any thread, and
`unsampled_work_stays_silent`, which adds the three ways in and any run of calls.
-/

namespace TraceAgent

namespace World

/-- Trace `t` is in the table and records nothing. -/
def Unsampled (w : World) (t : TraceRef) : Prop :=
  ∃ o, w.traces[t]? = some o ∧ o.canSample = false

/-- Trace `t` is an unsampled branch: in the table, recording nothing, resumed from an async
context. -/
def UnsampledBranch (w : World) (t : TraceRef) : Prop :=
  ∃ o, w.traces[t]? = some o ∧ o.canSample = false ∧ o.isAsync = true

/-- Async context `a` is in the table and resumes unsampled branches only. -/
def UnsampledAsync (w : World) (a : AsyncRef) : Prop :=
  ∃ o, w.asyncs[a]? = some o ∧ o.kind = .disabled

/-- From `w` to `w'` no id was drawn, no span was touched and none was handed over, and every
trace and async context that recorded nothing still records nothing. -/
structure Silent (w w' : World) : Prop where
  ids : w'.ids = w.ids
  rand : w'.rand = w.rand
  spans : w'.spans = w.spans
  pipeline : w'.pipeline = w.pipeline
  traces : ∀ t, w.Unsampled t → w'.Unsampled t
  asyncs : ∀ a, w.UnsampledAsync a → w'.UnsampledAsync a

/-- From `w` to `w'` no chain was bound over another trace: a chain bound in `w'` is bound as in
`w`, or had no trace there. -/
def BindsOnlyFree (w w' : World) : Prop :=
  ∀ th t, (w'.chainAt th).trace = some t → (w.chainAt th).trace = some t ∨ (w.chainAt th).trace = none

/-- The branch a resume answers: none, or an unsampled branch bound to chain `th`. -/
def HoldsBranch (w : World) (th : Thread) : Option TraceRef → Prop
  | none => True
  | some t => w.UnsampledBranch t ∧ (w.chainAt th).trace = some t

variable {w w' w'' : World} {t : TraceRef} {a : AsyncRef}

theorem canSample_eq_false_iff {o : TraceObj} : o.canSample = false ↔ ∃ q, o.kind = .disabled q := by
  unfold TraceObj.canSample TraceObj.span?
  cases o.kind <;> simp

/-- A trace read from the table that records nothing is in the table: a missing entry reads as
a recording trace. -/
theorem getElem?_of_getD_unsampled (h : (w.traces[t]?.getD default).canSample = false) :
    w.traces[t]? = some (w.traces[t]?.getD default) := by
  cases ho : w.traces[t]? with
  | none => rw [ho] at h; cases h
  | some o => rfl

/-- The trace a chain is bound to, read as an unsampled branch. -/
theorem unsampledBranch_of_getD (hq : (w.traces[t]?.getD default).canSample = false)
    (ha : (w.traces[t]?.getD default).isAsync = true) : w.UnsampledBranch t :=
  ⟨_, getElem?_of_getD_unsampled hq, hq, ha⟩

theorem Unsampled.push (h : w.Unsampled t) (o : TraceObj) :
    ({ w with traces := w.traces.push o } : World).Unsampled t := by
  obtain ⟨o', ho', hq⟩ := h
  have hlt : t < w.traces.size := (Array.getElem?_eq_some_iff.1 ho').1
  refine ⟨o', ?_, hq⟩
  rw [Array.getElem?_push, if_neg (Nat.ne_of_lt hlt)]
  exact ho'

theorem Unsampled.set (h : w.Unsampled t) {o : TraceObj} (hq : o.canSample = false) (t' : TraceRef) :
    ({ w with traces := w.traces.set! t' o } : World).Unsampled t := by
  obtain ⟨o', ho', hq'⟩ := h
  have hlt : t < w.traces.size := (Array.getElem?_eq_some_iff.1 ho').1
  by_cases ht : t' = t
  · subst ht
    exact ⟨o, by rw [Array.set!_eq_setIfInBounds, Array.getElem?_setIfInBounds_self_of_lt hlt], hq⟩
  · exact ⟨o', by rw [Array.set!_eq_setIfInBounds, Array.getElem?_setIfInBounds_ne ht]; exact ho', hq'⟩

theorem UnsampledAsync.push (h : w.UnsampledAsync a) (v : AsyncObj) :
    ({ w with asyncs := w.asyncs.push v } : World).UnsampledAsync a := by
  obtain ⟨o, ho, hk⟩ := h
  have hlt : a < w.asyncs.size := (Array.getElem?_eq_some_iff.1 ho).1
  refine ⟨o, ?_, hk⟩
  rw [Array.getElem?_push, if_neg (Nat.ne_of_lt hlt)]
  exact ho

theorem UnsampledAsync.set (h : w.UnsampledAsync a) {v : AsyncObj} (hk : v.kind = .disabled) (a' : AsyncRef) :
    ({ w with asyncs := w.asyncs.set! a' v } : World).UnsampledAsync a := by
  obtain ⟨o, ho, hk'⟩ := h
  have hlt : a < w.asyncs.size := (Array.getElem?_eq_some_iff.1 ho).1
  by_cases ha : a' = a
  · subst ha
    exact ⟨v, by rw [Array.set!_eq_setIfInBounds, Array.getElem?_setIfInBounds_self_of_lt hlt], hk⟩
  · exact ⟨o, by rw [Array.set!_eq_setIfInBounds, Array.getElem?_setIfInBounds_ne ha]; exact ho, hk'⟩

/-! ### Silent steps -/

@[refl] theorem Silent.refl (w : World) : w.Silent w :=
  ⟨rfl, rfl, rfl, rfl, fun _ h => h, fun _ h => h⟩

theorem Silent.trans (h : w.Silent w') (h' : w'.Silent w'') : w.Silent w'' :=
  ⟨h'.ids.trans h.ids, h'.rand.trans h.rand, h'.spans.trans h.spans, h'.pipeline.trans h.pipeline,
    fun t ht => h'.traces t (h.traces t ht), fun a ha => h'.asyncs a (h.asyncs a ha)⟩

/-- A step that leaves both tables, the ids, the spans and the pipeline alone is silent. -/
theorem silent_of_tables (hi : w'.ids = w.ids) (hr : w'.rand = w.rand) (hs : w'.spans = w.spans)
    (hp : w'.pipeline = w.pipeline) (ht : w'.traces = w.traces) (ha : w'.asyncs = w.asyncs) :
    w.Silent w' := by
  refine ⟨hi, hr, hs, hp, fun t h => ?_, fun a h => ?_⟩
  · obtain ⟨o, ho, hq⟩ := h
    exact ⟨o, by rw [ht]; exact ho, hq⟩
  · obtain ⟨o, ho, hk⟩ := h
    exact ⟨o, by rw [ha]; exact ho, hk⟩

theorem silent_logs (w : World) (ls : Array LogEvent) : w.Silent { w with logs := ls } :=
  silent_of_tables rfl rfl rfl rfl rfl rfl

theorem silent_sampling (w : World) (st : Sampler.State) : w.Silent { w with sampling := st } :=
  silent_of_tables rfl rfl rfl rfl rfl rfl

theorem silent_withLocal (w : World) (th : Thread) (c : Option ChainLocal) : w.Silent (w.withLocal th c) := by
  rw [withLocal_eq]
  exact silent_of_tables rfl rfl rfl rfl rfl rfl

theorem silent_pushTrace (w : World) (o : TraceObj) : w.Silent { w with traces := w.traces.push o } :=
  ⟨rfl, rfl, rfl, rfl, fun _ h => h.push o, fun _ h => h⟩

theorem silent_setTrace (w : World) (t : TraceRef) (o : TraceObj) (hq : o.canSample = false) :
    w.Silent { w with traces := w.traces.set! t o } :=
  ⟨rfl, rfl, rfl, rfl, fun _ h => h.set hq t, fun _ h => h⟩

theorem silent_pushAsync (w : World) (v : AsyncObj) : w.Silent { w with asyncs := w.asyncs.push v } :=
  ⟨rfl, rfl, rfl, rfl, fun _ h => h, fun _ h => h.push v⟩

theorem silent_setAsync (w : World) (a : AsyncRef) (v : AsyncObj) (hk : v.kind = .disabled) :
    w.Silent { w with asyncs := w.asyncs.set! a v } :=
  ⟨rfl, rfl, rfl, rfl, fun _ h => h, fun _ h => h.set hk a⟩

/-! ### Bindings -/

theorem BindsOnlyFree.of_locals (h : w'.locals = w.locals) : w.BindsOnlyFree w' := by
  intro th t ht
  left
  rwa [chainAt, Agent.localOf, h] at ht

theorem chainAt_here_of_bound (hb : w.boundTrace = some t) : (w.chainAt w.here).trace = some t := by
  unfold boundTrace at hb
  split at hb
  · exact hb
  · cases hb

/-- Storing a chain state whose trace, if any, is the one already bound or binds a free chain. -/
theorem bindsOnlyFree_withLocal (th : Thread) {c : ChainLocal}
    (hc : ∀ t, c.trace = some t → (w.chainAt th).trace = some t ∨ (w.chainAt th).trace = none) :
    w.BindsOnlyFree (w.withLocal th (some c)) := by
  intro th' t ht
  by_cases hth : th' = th
  · subst hth
    rw [chainAt_withLocal_self] at ht
    exact hc t ht
  · left
    rwa [chainAt, localOf_withLocal_ne w _ hth] at ht

/-! ### Quiet stretches -/

/-- From `w` to `w'` the work was silent and bound only free chains. -/
structure Hushed (w w' : World) : Prop where
  silent : w.Silent w'
  binds : w.BindsOnlyFree w'

theorem Hushed.refl (w : World) : w.Hushed w := ⟨.refl w, .of_locals rfl⟩

/-- A silent step that leaves the chain states alone keeps a stretch quiet. -/
theorem Hushed.step (h : w.Hushed w') (hs : w'.Silent w'') (hl : w''.locals = w'.locals) :
    w.Hushed w'' :=
  ⟨h.silent.trans hs, fun th t ht => h.binds th t (by rwa [chainAt_eq_of_locals hl] at ht)⟩

/-- So does a step that unbinds a chain. -/
theorem Hushed.unbind (h : w.Hushed w') (th : Thread) {c : ChainLocal} (hc : c.trace = none) :
    w.Hushed (w'.withLocal th (some c)) := by
  refine ⟨h.silent.trans (silent_withLocal _ _ _), fun th' t ht => ?_⟩
  by_cases hth : th' = th
  · subst hth
    rw [chainAt_withLocal_self, Option.getD_some, hc] at ht
    cases ht
  · exact h.binds th' t (by rwa [chainAt_withLocal_ne _ _ hth] at ht)

theorem Hushed.journal (h : w.Hushed w') (line : String) :
    w.Hushed { w' with journal := w'.journal.push line } :=
  h.step (silent_of_tables rfl rfl rfl rfl rfl rfl) rfl

theorem Hushed.logs (h : w.Hushed w') (ls : Array LogEvent) : w.Hushed { w' with logs := ls } :=
  h.step (silent_logs _ _) rfl

/-- An unsampled trace is a disabled one. -/
theorem Unsampled.disabled (h : w.Unsampled t) : ∃ o q, w.traces[t]? = some o ∧ o.kind = .disabled q := by
  obtain ⟨o, ho, hq⟩ := h
  obtain ⟨q, hk⟩ := canSample_eq_false_iff.1 hq
  exact ⟨o, q, ho, hk⟩

end World

namespace Agent

open World

variable {w : World} {t : TraceRef} {o : TraceObj} {q : Bool} {a : AsyncRef} {obj : AsyncObj}

/-! ## Runs on a disabled trace -/

section Disabled

variable (ho : w.traces[t]? = some o) (hk : o.kind = .disabled q)
include ho hk

theorem blockBegin_run_disabled : (blockBegin t).run w = .ok ⟨t, false⟩ w := by
  simp [blockBegin, trace, ho, hk]

theorem blockEnd_run_disabled : (blockEnd t).run w = .ok (.ok ()) w := by
  simp [blockEnd, trace, ho, hk]

theorem currentRecorder_run_disabled : (currentRecorder t).run w = .ok ⟨t, false⟩ w := by
  simp [currentRecorder, trace, ho, hk, TraceObj.canSample, TraceObj.span?]

theorem withTop_run_disabled (active : Bool) (f : SpanEvent → SpanEvent) :
    (EventRecorder.withTop ⟨t, active⟩ f).run w = .ok false w := by
  cases active
  · simp [EventRecorder.withTop]
  · cases hc : o.closed <;> simp [EventRecorder.withTop, trace, ho, hk, hc]

/-- A recorder of a disabled trace hands out a new disabled context, and draws no async id. -/
theorem nextAsync_run_disabled (active : Bool) :
    ∃ ls, (EventRecorder.nextAsync ⟨t, active⟩).run w =
      .ok w.asyncs.size { w with logs := ls, asyncs := w.asyncs.push ⟨.disabled, 1⟩ } := by
  cases active
  · exact ⟨w.logs, by simp [EventRecorder.nextAsync, newAsync]⟩
  · -- an active recorder finds no frame to take a hold for, with a debug event
    refine ⟨w.logs.push (.dbg "SpanEventRecorder.NextAsyncContext.NoFrame"), ?_⟩
    cases hc : o.closed
    · simp [EventRecorder.nextAsync, trace, ho, hk, hc, log, emit, newAsync]
    · simp [EventRecorder.nextAsync, trace, ho, hc, log, emit, newAsync]

theorem recordRoot_run_disabled (f : RootRecord → RootRecord) : (recordRoot t f).run w = .ok () w := by
  simp [recordRoot, rootSpan?, trace, ho, hk]

theorem closeTrace_run_disabled :
    (closeTrace t).run w = .ok () (if o.closed then w else { w with traces := w.traces.set! t { o with closed := true } }) := by
  cases hc : o.closed <;> simp [closeTrace, trace, setTrace, ho, hk, hc]

theorem discardTraceObj_run_disabled :
    (discardTraceObj t).run w = .ok () { w with traces := w.traces.set! t { o with closed := true } } := by
  simp [discardTraceObj, trace, setTrace, ho, hk]

theorem injectWithHost_run_disabled (host : Option String) (h : HeaderMap) :
    (injectWithHost t host h).run w = .ok (none, injectNotSampled h) w :=
  injectWithHost_disabled (traceId?_disabled (by simp [ho, hk, TraceObj.span?])) host h

end Disabled

/-- Entering a trace scope changes the trace's scopes alone. -/
theorem traceScopeEnter_run (ho : w.traces[t]? = some o) (name : String) :
    ∃ b ss, (traceScopeEnter t name).run w = .ok b { w with traces := w.traces.set! t { o with scopes := ss } } := by
  cases hs : o.scope? name with
  | none =>
    exact ⟨true, o.scopes ++ [{ name, depth := 1 }], by simp [traceScopeEnter, trace, setTrace, ho, hs]⟩
  | some s =>
    exact ⟨s.depth == 0, o.scopes.map fun x => if x.name == name then { x with depth := x.depth + 1 } else x,
      by simp [traceScopeEnter, trace, setTrace, ho, hs]⟩

/-- Leaving a trace scope changes the trace's scopes, or warns of a leave without entry, or
does nothing. -/
theorem traceScopeLeave_run (ho : w.traces[t]? = some o) (name : String) :
    ∃ r, (traceScopeLeave t name).run w = .ok r w ∨
      (traceScopeLeave t name).run w = .ok r { w with logs := w.logs.push (.warn "TraceScope.Leave.Underflow") } ∨
      ∃ ss, (traceScopeLeave t name).run w = .ok r { w with traces := w.traces.set! t { o with scopes := ss } } := by
  cases hs : o.scope? name with
  | none => exact ⟨none, .inl (by simp [traceScopeLeave, trace, ho, hs])⟩
  | some s =>
    by_cases hd : s.depth = 0
    · exact ⟨some false, .inr (.inl (by simp [traceScopeLeave, trace, ho, hs, hd, log, emit]))⟩
    · exact ⟨some (s.depth == 1), .inr (.inr ⟨o.scopes.map fun x =>
        if x.name == name then { x with depth := x.depth - 1 } else x,
        by simp [traceScopeLeave, trace, setTrace, ho, hs, hd]⟩)⟩

/-! ## Runs on a disabled async context -/

section DisabledAsync

variable (ha : w.asyncs[a]? = some obj) (hk : obj.kind = .disabled)
include ha hk

theorem finishAsync_run_disabled : (finishAsync a).run w = .ok false w := by
  simp [finishAsync, asyncObj, ha, hk]

omit hk in
theorem cloneAsync_run_disabled :
    (cloneAsync a).run w = .ok () { w with asyncs := w.asyncs.set! a { obj with refs := obj.refs + 1 } } := by
  simp [cloneAsync, asyncObj, setAsync, ha]

theorem dropAsyncRef_run_disabled :
    (dropAsyncRef a).run w = .ok () { w with asyncs := w.asyncs.set! a { obj with refs := obj.refs - 1 } } := by
  by_cases h : obj.refs - 1 = 0 <;> simp [dropAsyncRef, asyncObj, setAsync, ha, hk, h]

/-- The branch bound to the calling chain, when it is an unsampled one. -/
theorem currentAsync_run_disabled :
    (currentAsync a).run w = .ok
      (w.boundTrace.filter fun t => (w.traces[t]?.getD default).isAsync && !(w.traces[t]?.getD default).canSample) w := by
  have hobj : (asyncObj a).run w = .ok obj w := by simp [asyncObj, ha]
  unfold currentAsync
  rw [run_bind_ok hobj, run_bind_ok (currentRaw_run_bound w)]
  cases w.boundTrace with
  | none => rfl
  | some t =>
    simp [trace, hk, Option.filter]
    split <;> rfl

end DisabledAsync

theorem run_map_ok {α β : Type} (f : α → β) {k : Agent α} {w' : World} {x : α} (h : k.run w = .ok x w') :
    (f <$> k).run w = .ok (f x) w' := by
  rw [EStateM.run_map, h]
  rfl

theorem finalWorld_of_run_ok {α : Type} {k : Agent α} {w' : World} {x : α} (h : k.run w = .ok x w') :
    finalWorld k w = w' := by
  unfold finalWorld
  rw [h]

/-- The branch a disabled context answers from a chain already bound: the bound trace when it is
an unsampled branch. -/
theorem holdsBranch_bound (hb : w.boundTrace = some t) (hq : (w.traces[t]?.getD default).canSample = false)
    (ha : (w.traces[t]?.getD default).isAsync = true) : w.HoldsBranch w.here (some t) :=
  ⟨unsampledBranch_of_getD hq ha, chainAt_here_of_bound hb⟩

/-- Throwing a disabled trace away closes it, and unbinds it from the calling chain if bound
there. -/
theorem discardTrace_run_disabled (ho : w.traces[t]? = some o) (hk : o.kind = .disabled q)
    (hq : o.canSample = false) :
    ∃ w', (discardTrace t).run w = .ok () w' ∧ w.Silent w' ∧ w.BindsOnlyFree w' := by
  unfold discardTrace
  rw [run_bind_ok (discardTraceObj_run_disabled ho hk)]
  have hs : w.Silent { w with traces := w.traces.set! t { o with closed := true } } :=
    silent_setTrace w t { o with closed := true } hq
  cases hup : w.chainUp
  · rw [run_bind_ok (withChain_run_down (w := { w with traces := w.traces.set! t { o with closed := true } }) _ hup)]
    exact ⟨_, rfl, hs, .of_locals rfl⟩
  · rw [run_bind_ok (withChain_run _ { w with traces := w.traces.set! t { o with closed := true } } hup)]
    refine ⟨_, rfl, hs.trans (silent_withLocal _ _ _), bindsOnlyFree_withLocal _ fun t' ht' => ?_⟩
    -- the chain loses the discarded trace, or keeps the one it has
    split at ht'
    · cases ht'
    · exact .inl ht'

/-- The branch a disabled context reports: the chain's bound trace, when it is an unsampled
branch. -/
theorem holdsBranch_filter (w : World) :
    w.HoldsBranch w.here (w.boundTrace.filter fun t =>
      (w.traces[t]?.getD default).isAsync && !(w.traces[t]?.getD default).canSample) := by
  cases hb : w.boundTrace with
  | none => trivial
  | some t =>
    by_cases hc : ((w.traces[t]?.getD default).isAsync && !(w.traces[t]?.getD default).canSample) = true
    · rw [Option.filter_some, if_pos hc]
      simp only [Bool.and_eq_true, Bool.not_eq_true'] at hc
      exact holdsBranch_bound hb hc.2 hc.1
    · rw [Option.filter_some, if_neg hc]
      trivial

/-- A disabled context resumes a new unsampled branch on a free live chain, returns the chain's
own unsampled branch, or resumes nothing; it binds only a free chain. -/
theorem continueAsync_run_unsampled (ha : w.UnsampledAsync a) :
    ∃ b w', (continueAsync a).run w = .ok b w' ∧ w'.HoldsBranch w.here b ∧ w.Silent w' ∧ w.BindsOnlyFree w' := by
  obtain ⟨obj, hobj, hk⟩ := ha
  have hread : (asyncObj a).run w = .ok obj w := by simp [asyncObj, hobj]
  unfold continueAsync
  rw [run_bind_ok hread]
  simp only [hk]
  rw [run_bind_ok (currentRaw_run_bound w)]
  cases hb : w.boundTrace with
  | some t =>
    -- the chain works on a trace already: it is kept when it is an unsampled branch
    have htr : (trace t).run w = .ok (w.traces[t]?.getD default) w := rfl
    dsimp only
    rw [run_bind_ok htr]
    by_cases hc : (!(w.traces[t]?.getD default).canSample && (w.traces[t]?.getD default).isAsync) = true
    · rw [if_pos hc]
      simp only [Bool.and_eq_true, Bool.not_eq_true'] at hc
      exact ⟨some t, w, rfl, holdsBranch_bound hb hc.1 hc.2, .refl w, .of_locals rfl⟩
    · rw [if_neg hc]
      exact ⟨none, _, rfl, trivial, silent_logs _ _, .of_locals rfl⟩
  | none =>
    dsimp only
    rw [run_bind_ok (newTrace_run _ w)]
    cases hup : w.chainUp
    · -- no chain storage to bind in
      rw [run_bind_ok (bindTrace_run_down (w := { w with traces := w.traces.push { kind := .disabled true } }) hup _)]
      exact ⟨none, _, rfl, trivial, silent_pushTrace w _, .of_locals rfl⟩
    · have hfree : w.chain.trace = none := by rwa [boundTrace_of_up hup] at hb
      rw [run_bind_ok (bindTrace_run_unbound (w := { w with traces := w.traces.push { kind := .disabled true } })
        hup hfree _)]
      refine ⟨some w.traces.size, _, rfl, ⟨⟨{ kind := .disabled true }, ?_, rfl, rfl⟩, ?_⟩,
        (silent_pushTrace w _).trans (silent_withLocal _ _ _), bindsOnlyFree_withLocal _ fun _ _ => .inr hfree⟩
      · rw [withLocal_eq]
        simp
      · simp

/-! ## Hooks on unsampled work -/

section Hooks

variable {w₀ : World} {E : World → Prop}

/-- The stretch from `w₀` is quiet, and trace `t` still records nothing. -/
def Along (w₀ : World) (t : TraceRef) (v : World) : Prop := w₀.Hushed v ∧ v.Unsampled t

theorem Along.step {v v' : World} (h : Along w₀ t v) (hs : v.Silent v') (hl : v'.locals = v.locals) :
    Along w₀ t v' :=
  ⟨h.1.step hs hl, hs.traces t h.2⟩

theorem currentRecorder_along :
    Runs (Along w₀ t) (currentRecorder t) (fun r v => r = ⟨t, false⟩ ∧ Along w₀ t v) E :=
  Runs.of_ok fun v hv => by
    obtain ⟨o, q, ho, hk⟩ := hv.2.disabled
    exact ⟨_, v, currentRecorder_run_disabled ho hk, rfl, hv⟩

theorem blockBegin_along : Runs (Along w₀ t) (blockBegin t) (fun r v => r = ⟨t, false⟩ ∧ Along w₀ t v) E :=
  Runs.of_ok fun v hv => by
    obtain ⟨o, q, ho, hk⟩ := hv.2.disabled
    exact ⟨_, v, blockBegin_run_disabled ho hk, rfl, hv⟩

theorem blockEnd_along : Runs (Along w₀ t) (blockEnd t) (fun r v => r = .ok () ∧ Along w₀ t v) E :=
  Runs.of_ok fun v hv => by
    obtain ⟨o, q, ho, hk⟩ := hv.2.disabled
    exact ⟨_, v, blockEnd_run_disabled ho hk, rfl, hv⟩

/-- A write through the recorder of a trace that records nothing lands nowhere. -/
theorem perform_along (fw : FrameWrite) : Runs (Along w₀ t) (fw.perform ⟨t, false⟩) (fun _ => Along w₀ t) E :=
  Runs.of_ok fun v hv => ⟨(), v, FrameWrite.perform_inactive t fw v, hv⟩

theorem traceScopeEnter_along (name : String) :
    Runs (Along w₀ t) (traceScopeEnter t name) (fun _ => Along w₀ t) E :=
  Runs.of_ok fun v hv => by
    obtain ⟨o, ho, hq⟩ := hv.2
    obtain ⟨b, ss, hrun⟩ := traceScopeEnter_run ho name
    exact ⟨b, _, hrun, hv.step (silent_setTrace v t { o with scopes := ss } hq) rfl⟩

theorem traceScopeLeave_along (name : String) :
    Runs (Along w₀ t) (traceScopeLeave t name) (fun _ => Along w₀ t) E :=
  Runs.of_ok fun v hv => by
    obtain ⟨o, ho, hq⟩ := hv.2
    obtain ⟨r, hrun | hrun | ⟨ss, hrun⟩⟩ := traceScopeLeave_run ho name
    · exact ⟨r, v, hrun, hv⟩
    · exact ⟨r, _, hrun, hv.step (silent_logs v _) rfl⟩
    · exact ⟨r, _, hrun, hv.step (silent_setTrace v t { o with scopes := ss } hq) rfl⟩

theorem closeTrace_along : Runs (Along w₀ t) (closeTrace t) (fun _ => Along w₀ t) E :=
  Runs.of_ok fun v hv => by
    obtain ⟨o, ho, hq⟩ := hv.2
    obtain ⟨q, hk⟩ := canSample_eq_false_iff.1 hq
    refine ⟨(), _, closeTrace_run_disabled ho hk, ?_⟩
    split
    · exact hv
    · exact hv.step (silent_setTrace v t { o with closed := true } hq) rfl

/-- Unbinding the trace from the calling chain frees the chain, if the trace was bound there. -/
theorem unbindIfBound_along : Runs (Along w₀ t) (unbindIfBound t) (fun _ => Along w₀ t) E :=
  Runs.of_ok fun v hv => by
    unfold unbindIfBound
    rw [run_bind_ok (currentRaw_run_bound v)]
    by_cases hb : v.boundTrace = some t
    · have hup : v.chainUp = true := by
        unfold boundTrace at hb
        split at hb
        · assumption
        · cases hb
      have hrm : removeTraceObject.run v =
          .ok v.chain.trace (v.withLocal v.here (some { v.chain with trace := none })) := by
        unfold removeTraceObject
        rw [run_bind_ok (withChain_run _ v hup)]
        rfl
      simp only [hb, beq_self_eq_true, ↓reduceIte]
      rw [run_bind_ok hrm]
      exact ⟨true, _, rfl, hv.1.unbind v.here rfl, (silent_withLocal v _ _).traces t hv.2⟩
    · rw [if_neg (by simpa using hb)]
      exact ⟨false, v, rfl, hv⟩

theorem finishAsync_along (ha : w₀.UnsampledAsync a) :
    Runs (Along w₀ t) (finishAsync a) (fun r v => r = false ∧ Along w₀ t v) E :=
  Runs.of_ok fun v hv => by
    obtain ⟨obj, hobj, hk⟩ := hv.1.silent.asyncs a ha
    exact ⟨false, v, finishAsync_run_disabled hobj hk, rfl, hv⟩

theorem log_along (e : LogEvent) : Runs (Along w₀ t) (log e) (fun _ => Along w₀ t) E :=
  Runs.mono (log_runs e) (fun v hv => hv.step (silent_logs v (v.logs ++ [e].toArray)) rfl) (fun _ _ h => h)
    (fun _ h => h)

/-- A handler that starts no hand-off, run on the recorder of a trace that records nothing, only
notes lines, fails or panics. -/
theorem handlerActions_along {h : Handler} (inv : Invocation) (outcome : Option Outcome) {as : List Action}
    (has : h.plain = false → ∀ a ∈ as, a.handsOff = false) :
    Runs (Along w₀ t) (handlerActions h (.event ⟨t, false⟩) inv outcome as) (fun _ => Along w₀ t) (Along w₀ t) :=
  handlerActions_event (fun _ _ hv => hv.step (silent_of_tables rfl rfl rfl rfl rfl rfl) rfl)
    (fun fw => perform_along fw) inv outcome has

/-- The recording trace of the calling chain: none while the chain holds no trace that records. -/
theorem currentSampled_run_none (hb : ∀ t, w.boundTrace = some t → w.Unsampled t) :
    currentSampled.run w = .ok none w := by
  unfold currentSampled
  rw [run_bind_ok (currentRaw_run_bound w)]
  cases hbt : w.boundTrace with
  | none => rfl
  | some t =>
    obtain ⟨o, ho, hq⟩ := hb t hbt
    have htr : (trace t).run w = .ok o w := by simp [trace, ho]
    dsimp only
    rw [run_bind_ok htr, hq]
    rfl

/-- A span event's hooks on a chain that holds no trace that records do nothing. -/
theorem spanEvent_hooks_run_unsampled (hb : ∀ t, w.boundTrace = some t → w.Unsampled t)
    (api : MethodDescriptor) (st : ServiceType) (h : Handler) (inv : Invocation) (o : Outcome) :
    (hookBefore (.spanEvent api st h) inv).run w = .ok (.ok ()) w ∧
      (hookAfter (.spanEvent api st h) inv o).run w = .ok (.ok ()) w := by
  constructor
  · simp only [hookBefore]
    rw [run_bind_ok (currentSampled_run_none hb)]
    rfl
  · simp only [hookAfter]
    rw [run_bind_ok (currentSampled_run_none hb)]
    rfl

/-- An async end point's `before` with a context that resumes unsampled branches only: it resumes
such a branch or none, and what it then does on the branch lands nowhere. -/
theorem endPointBefore_runs_unsampled (api : MethodDescriptor) {h : Handler} {inv : Invocation}
    (hh : h.handsOff = false) (ha : ∀ a, endPointContext h inv = some a → w.UnsampledAsync a) :
    Runs (· = w) (hookBefore (.asyncEndPoint api h) inv) (fun _ => w.Hushed) w.Hushed := by
  simp only [hookBefore]
  cases hctx : endPointContext h inv with
  | none => exact Runs.pure _ fun v hv => hv ▸ .refl w
  | some a =>
    obtain ⟨b, w₁, hrun, hbranch, hs, hbinds⟩ := continueAsync_run_unsampled (ha a hctx)
    refine Runs.of_run_eq (run_bind_ok hrun) ?_
    cases b with
    | none => exact Runs.pure _ fun v hv => hv ▸ ⟨hs, hbinds⟩
    | some t =>
      -- the resumed branch records nothing: the scope, the frame and the writes change nothing
      obtain ⟨⟨o, ho, hq, -⟩, -⟩ := hbranch
      have hw₁ : Along w t w₁ := ⟨⟨hs, hbinds⟩, o, ho, hq⟩
      refine Runs.mono (P := Along w t) (Q := fun _ => Along w t) (E := Along w t) ?_ (fun v hv => hv ▸ hw₁)
        (fun _ _ h => h.1) (fun _ h => h.1)
      -- the recorder of the frame opened may not write
      have hact : Runs (Along w t) (handlerActions h (.event ⟨t, false⟩) inv none h.before) (fun _ => Along w t)
          (Along w t) :=
        handlerActions_along inv none (Handler.before_handsOff hh)
      refine Runs.bind (traceScopeEnter_along _) fun outermost => Runs.bind_eq blockBegin_along ?_
      cases outermost with
      | false =>
        rw [if_neg Bool.false_ne_true]
        exact hact
      | true =>
        rw [if_pos rfl]
        exact Runs.bind (perform_along (.serviceType .async)) fun _ => hact

/-- An async end point's `after` with a context that resumes unsampled branches only: on the
chain's unsampled branch it ends the frame and leaves the scope, and the outermost one unbinds the
branch, closes it and finds nothing to finish; all of it lands nowhere. -/
theorem endPointAfter_runs_unsampled (api : MethodDescriptor) {h : Handler} {inv : Invocation}
    (o : Outcome) (hh : h.handsOff = false) (ha : ∀ a, endPointContext h inv = some a → w.UnsampledAsync a) :
    Runs (· = w) (hookAfter (.asyncEndPoint api h) inv o) (fun _ => w.Hushed) w.Hushed := by
  simp only [hookAfter]
  cases hctx : endPointContext h inv with
  | none => exact Runs.pure _ fun v hv => hv ▸ .refl w
  | some a =>
    have hua := ha a hctx
    obtain ⟨obj, hobj, hk⟩ := hua
    refine Runs.of_run_eq (run_bind_ok (currentAsync_run_disabled hobj hk)) ?_
    cases hbt : w.boundTrace.filter fun t => (w.traces[t]?.getD default).isAsync &&
        !(w.traces[t]?.getD default).canSample with
    | none => exact Runs.pure _ fun v hv => hv ▸ .refl w
    | some t =>
      -- the chain's branch records nothing
      have hq : (w.traces[t]?.getD default).canSample = false := by
        obtain ⟨-, hp⟩ := Option.filter_eq_some_iff.1 hbt
        simp only [Bool.and_eq_true, Bool.not_eq_true'] at hp
        exact hp.2
      have hw : Along w t w := ⟨.refl w, _, getElem?_of_getD_unsampled hq, hq⟩
      refine Runs.mono (P := Along w t) (Q := fun _ => Along w t) (E := Along w t) ?_ (fun v hv => hv ▸ hw)
        (fun _ _ h => h.1) (fun _ h => h.1)
      refine Runs.bind_eq currentRecorder_along (Runs.bind (perform_along (.api api)) fun _ => ?_)
      -- the handler's failure or panic goes no further than a warning
      refine Runs.bind (contain_runs (handlerActions_along inv (some o) (Handler.after_handsOff hh))
        fun _ _ hw => hw) fun r => Runs.bind (Runs.mono (report_runs r (Q := fun _ => Along w t))
          (fun v hv => ⟨hv, hv.step (silent_logs v (v.logs ++ [LogEvent.warn "Interceptor.Hook.Failed"].toArray)) rfl⟩)
          (fun _ _ h => h) (fun _ h => h)) fun _ => ?_
      refine Runs.bind (perform_along (.exception o.error?)) fun _ =>
        Runs.bind_eq blockEnd_along (Runs.bind (traceScopeLeave_along _) fun r => ?_)
      -- a leave that finds no scope counts as the outermost one
      rcases r with _ | _ | _ <;> refine Runs.bind_eq (Runs.pure _ fun _ h => ⟨rfl, h⟩) ?_
      -- below the outermost leave the frame has ended and nothing more happens; the outermost one
      -- unbinds the branch, closes it and finds nothing to finish
      all_goals first
        | rw [if_neg Bool.false_ne_true]
          exact Runs.pure _ fun _ h => h
        | rw [if_pos rfl]
          refine Runs.bind unbindIfBound_along fun _ => Runs.bind closeTrace_along fun _ =>
            Runs.bind_eq (finishAsync_along (show w.UnsampledAsync a from ⟨obj, hobj, hk⟩)) ?_
          rw [Bool.not_false, if_pos rfl]
          exact Runs.bind (log_along _) fun _ => Runs.pure _ fun _ h => h

/-- A span event's hooks, on a chain that holds no trace that records, keep a stretch quiet. -/
theorem spanEvent_hooks_runs (hc : ∀ t, (w.chainAt w.here).trace = some t → w.Unsampled t)
    (api : MethodDescriptor) (st : ServiceType) (h : Handler) (inv : Invocation) (o : Outcome) :
    Runs (· = w) (hookBefore (.spanEvent api st h) inv) (fun _ => w.Hushed) w.Hushed ∧
      Runs (· = w) (hookAfter (.spanEvent api st h) inv o) (fun _ => w.Hushed) w.Hushed := by
  have hruns := spanEvent_hooks_run_unsampled (fun t ht => hc t (chainAt_here_of_bound ht)) api st h inv o
  exact ⟨Runs.of_ok fun v hv => ⟨_, v, hv ▸ hruns.1, hv ▸ .refl w⟩,
    Runs.of_ok fun v hv => ⟨_, v, hv ▸ hruns.2, hv ▸ .refl w⟩⟩

/-- A hook the registry runs from `w` returns, its failure or panic a warning at most, and what it
does is silent and binds only free chains. -/
theorem dispatched_hushed {k : Agent (Except HookError Unit)}
    (hk : Runs (· = w) k (fun _ => w.Hushed) w.Hushed) :
    ∃ w', (do report (← contain k)).run w = .ok () w' ∧ w.Hushed w' := by
  obtain ⟨⟨⟩, w', hrun, hw'⟩ := Runs.exists_ok (Runs.dispatched hk fun v hv => hv.logs _)
  exact ⟨w', hrun, hw'⟩

end Hooks

/-! ## Calls on unsampled work -/

/-- What a call on unsampled work answers. -/
inductive Reply where
  | done
  | flag (b : Bool)
  | recorder (r : EventRecorder)
  | ended (r : Except TraceError Unit)
  | async (a : AsyncRef)
  | branch (t : Option TraceRef)
  | scope (r : Option Bool)
  | carrier (r : Option TraceId × HeaderMap)

/-- The calls that can be made on a trace, on its event and span recorders, on an async context,
and on a resumed branch. -/
inductive UnsampledCall where
  | blockBegin (t : TraceRef)
  | blockEnd (t : TraceRef)
  | currentRecorder (t : TraceRef)
  | write (r : EventRecorder) (f : SpanEvent → SpanEvent)
  | nextAsync (r : EventRecorder)
  | recordRoot (t : TraceRef) (f : RootRecord → RootRecord)
  | scopeEnter (t : TraceRef) (name : String)
  | scopeLeave (t : TraceRef) (name : String)
  | close (t : TraceRef)
  | discard (t : TraceRef)
  | inject (t : TraceRef) (host : Option String) (h : HeaderMap)
  | continueAsync (a : AsyncRef)
  | currentAsync (a : AsyncRef)
  | finishAsync (a : AsyncRef)
  | cloneAsync (a : AsyncRef)
  | dropAsync (a : AsyncRef)
  | eventBefore (api : MethodDescriptor) (st : ServiceType) (h : Handler) (inv : Invocation)
  | eventAfter (api : MethodDescriptor) (st : ServiceType) (h : Handler) (inv : Invocation) (o : Outcome)
  | endPointBefore (api : MethodDescriptor) (h : Handler) (inv : Invocation)
  | endPointAfter (api : MethodDescriptor) (h : Handler) (inv : Invocation) (o : Outcome)

namespace UnsampledCall

/-- The call, as the agent runs it. -/
def run : UnsampledCall → Agent Reply
  | blockBegin t => Reply.recorder <$> Agent.blockBegin t
  | blockEnd t => Reply.ended <$> Agent.blockEnd t
  | currentRecorder t => Reply.recorder <$> Agent.currentRecorder t
  | write r f => Reply.flag <$> r.withTop f
  | nextAsync r => Reply.async <$> r.nextAsync
  | recordRoot t f => (fun _ => Reply.done) <$> Agent.recordRoot t f
  | scopeEnter t name => Reply.flag <$> traceScopeEnter t name
  | scopeLeave t name => Reply.scope <$> traceScopeLeave t name
  | close t => (fun _ => Reply.done) <$> closeTrace t
  | discard t => (fun _ => Reply.done) <$> discardTrace t
  | inject t host h => Reply.carrier <$> injectWithHost t host h
  | continueAsync a => Reply.branch <$> Agent.continueAsync a
  | currentAsync a => Reply.branch <$> Agent.currentAsync a
  | finishAsync a => Reply.flag <$> Agent.finishAsync a
  | cloneAsync a => (fun _ => Reply.done) <$> Agent.cloneAsync a
  | dropAsync a => (fun _ => Reply.done) <$> dropAsyncRef a
  | eventBefore api st h inv =>
    (fun _ => Reply.done) <$> (do report (← contain (hookBefore (.spanEvent api st h) inv)))
  | eventAfter api st h inv o =>
    (fun _ => Reply.done) <$> (do report (← contain (hookAfter (.spanEvent api st h) inv o)))
  | endPointBefore api h inv =>
    (fun _ => Reply.done) <$> (do report (← contain (hookBefore (.asyncEndPoint api h) inv)))
  | endPointAfter api h inv o =>
    (fun _ => Reply.done) <$> (do report (← contain (hookAfter (.asyncEndPoint api h) inv o)))

/-- The call, made on chain `th`, works on unsampled things: its trace, its recorder's trace or its
async context records nothing. A span event's hook runs on a chain that holds no trace that
records; an async end point's hook has a handler that starts no hand-off and a context that
resumes unsampled branches only. -/
def Targets (th : Thread) (w : World) : UnsampledCall → Prop
  | blockBegin t | blockEnd t | currentRecorder t | recordRoot t _ | scopeEnter t _ | scopeLeave t _
  | close t | discard t | inject t _ _ => w.Unsampled t
  | write r _ | nextAsync r => w.Unsampled r.owner
  | continueAsync a | currentAsync a | finishAsync a | cloneAsync a | dropAsync a => w.UnsampledAsync a
  | eventBefore _ _ _ _ | eventAfter _ _ _ _ _ => ∀ t, (w.chainAt th).trace = some t → w.Unsampled t
  | endPointBefore _ h inv | endPointAfter _ h inv _ =>
    h.handsOff = false ∧ ∀ a, endPointContext h inv = some a → w.UnsampledAsync a

/-- What the call answers on unsampled targets, in the world `w` it leaves, called on chain
`th`: recorders that may not write, a block end that succeeds, no write, a new context that
resumes unsampled branches only, no trace id for a callee but the not-sampled marker, a resume
that gives none or an unsampled branch bound to the chain, and a finish that reports no branch. -/
def Answers (th : Thread) (w : World) : UnsampledCall → Reply → Prop
  | blockBegin t, r => r = .recorder ⟨t, false⟩
  | blockEnd _, r => r = .ended (.ok ())
  | currentRecorder t, r => r = .recorder ⟨t, false⟩
  | write _ _, r => r = .flag false
  | nextAsync _, r => ∃ a, r = .async a ∧ w.UnsampledAsync a
  | inject _ _ h, r => r = .carrier (none, injectNotSampled h)
  | continueAsync _, r => ∃ b, r = .branch b ∧ w.HoldsBranch th b
  | currentAsync _, r => ∃ b, r = .branch b ∧ w.HoldsBranch th b
  | finishAsync _, r => r = .flag false
  | _, _ => True

theorem targets_here {c : UnsampledCall} {th : Thread} (h : c.Targets th w) : c.Targets th { w with here := th } := by
  cases c <;> exact h

theorem answers_here {c : UnsampledCall} {th : Thread} {w' : World} {r : Reply} (h : c.Answers th w' r)
    (th' : Thread) : c.Answers th { w' with here := th' } r := by
  cases c <;> exact h

/-- One call on unsampled targets, from the calling chain: it returns, answers as a trace that
records nothing does, is silent, and binds only a free chain. -/
theorem run_unsampled (c : UnsampledCall) (hc : c.Targets w.here w) :
    ∃ r w', c.run.run w = .ok r w' ∧ c.Answers w.here w' r ∧ w.Silent w' ∧ w.BindsOnlyFree w' := by
  cases c with
  | blockBegin t =>
    obtain ⟨o, ho, hq⟩ := hc
    obtain ⟨q, hk⟩ := canSample_eq_false_iff.1 hq
    exact ⟨_, w, run_map_ok _ (blockBegin_run_disabled ho hk), rfl, .refl w, .of_locals rfl⟩
  | blockEnd t =>
    obtain ⟨o, ho, hq⟩ := hc
    obtain ⟨q, hk⟩ := canSample_eq_false_iff.1 hq
    exact ⟨_, w, run_map_ok _ (blockEnd_run_disabled ho hk), rfl, .refl w, .of_locals rfl⟩
  | currentRecorder t =>
    obtain ⟨o, ho, hq⟩ := hc
    obtain ⟨q, hk⟩ := canSample_eq_false_iff.1 hq
    exact ⟨_, w, run_map_ok _ (currentRecorder_run_disabled ho hk), rfl, .refl w, .of_locals rfl⟩
  | write r f =>
    obtain ⟨owner, active⟩ := r
    obtain ⟨o, ho, hq⟩ := hc
    obtain ⟨q, hk⟩ := canSample_eq_false_iff.1 hq
    exact ⟨_, w, run_map_ok _ (withTop_run_disabled ho hk active f), rfl, .refl w, .of_locals rfl⟩
  | nextAsync r =>
    obtain ⟨owner, active⟩ := r
    obtain ⟨o, ho, hq⟩ := hc
    obtain ⟨q, hk⟩ := canSample_eq_false_iff.1 hq
    obtain ⟨ls, hrun⟩ := nextAsync_run_disabled ho hk active
    exact ⟨_, _, run_map_ok _ hrun, ⟨w.asyncs.size, rfl, ⟨⟨.disabled, 1⟩, by simp, rfl⟩⟩,
      (silent_logs w ls).trans (silent_pushAsync _ _), .of_locals rfl⟩
  | recordRoot t f =>
    obtain ⟨o, ho, hq⟩ := hc
    obtain ⟨q, hk⟩ := canSample_eq_false_iff.1 hq
    exact ⟨_, w, run_map_ok _ (recordRoot_run_disabled ho hk f), trivial, .refl w, .of_locals rfl⟩
  | scopeEnter t name =>
    obtain ⟨o, ho, hq⟩ := hc
    obtain ⟨b, ss, hrun⟩ := traceScopeEnter_run ho name
    exact ⟨_, _, run_map_ok _ hrun, trivial, silent_setTrace w t { o with scopes := ss } hq, .of_locals rfl⟩
  | scopeLeave t name =>
    obtain ⟨o, ho, hq⟩ := hc
    obtain ⟨r, hrun | hrun | ⟨ss, hrun⟩⟩ := traceScopeLeave_run ho name
    · exact ⟨_, _, run_map_ok _ hrun, trivial, .refl w, .of_locals rfl⟩
    · exact ⟨_, _, run_map_ok _ hrun, trivial, silent_logs w _, .of_locals rfl⟩
    · exact ⟨_, _, run_map_ok _ hrun, trivial, silent_setTrace w t { o with scopes := ss } hq, .of_locals rfl⟩
  | close t =>
    obtain ⟨o, ho, hq⟩ := hc
    obtain ⟨q, hk⟩ := canSample_eq_false_iff.1 hq
    refine ⟨_, _, run_map_ok _ (closeTrace_run_disabled ho hk), trivial, ?_, .of_locals ?_⟩
    · split
      · exact .refl w
      · exact silent_setTrace w t { o with closed := true } hq
    · split <;> rfl
  | discard t =>
    obtain ⟨o, ho, hq⟩ := hc
    obtain ⟨q, hk⟩ := canSample_eq_false_iff.1 hq
    obtain ⟨w', hrun, hs, hb⟩ := discardTrace_run_disabled ho hk hq
    exact ⟨_, w', run_map_ok _ hrun, trivial, hs, hb⟩
  | inject t host h =>
    obtain ⟨o, ho, hq⟩ := hc
    obtain ⟨q, hk⟩ := canSample_eq_false_iff.1 hq
    exact ⟨_, w, run_map_ok _ (injectWithHost_run_disabled ho hk host h), rfl, .refl w, .of_locals rfl⟩
  | continueAsync a =>
    obtain ⟨b, w', hrun, hans, hs, hb⟩ := continueAsync_run_unsampled hc
    exact ⟨_, w', run_map_ok _ hrun, ⟨b, rfl, hans⟩, hs, hb⟩
  | currentAsync a =>
    obtain ⟨obj, hobj, hk⟩ := hc
    exact ⟨_, w, run_map_ok _ (currentAsync_run_disabled hobj hk), ⟨_, rfl, holdsBranch_filter w⟩,
      .refl w, .of_locals rfl⟩
  | finishAsync a =>
    obtain ⟨obj, hobj, hk⟩ := hc
    exact ⟨_, w, run_map_ok _ (finishAsync_run_disabled hobj hk), rfl, .refl w, .of_locals rfl⟩
  | cloneAsync a =>
    obtain ⟨obj, hobj, hk⟩ := hc
    exact ⟨_, _, run_map_ok _ (cloneAsync_run_disabled hobj),
      trivial, silent_setAsync w a { obj with refs := obj.refs + 1 } hk, .of_locals rfl⟩
  | dropAsync a =>
    obtain ⟨obj, hobj, hk⟩ := hc
    exact ⟨_, _, run_map_ok _ (dropAsyncRef_run_disabled hobj hk),
      trivial, silent_setAsync w a { obj with refs := obj.refs - 1 } hk,
      .of_locals rfl⟩
  | eventBefore api st h inv =>
    obtain ⟨w', hrun, hw'⟩ := dispatched_hushed (spanEvent_hooks_runs hc api st h inv default).1
    exact ⟨_, w', run_map_ok _ hrun, trivial, hw'.silent, hw'.binds⟩
  | eventAfter api st h inv o =>
    obtain ⟨w', hrun, hw'⟩ := dispatched_hushed (spanEvent_hooks_runs hc api st h inv o).2
    exact ⟨_, w', run_map_ok _ hrun, trivial, hw'.silent, hw'.binds⟩
  | endPointBefore api h inv =>
    obtain ⟨w', hrun, hw'⟩ := dispatched_hushed (endPointBefore_runs_unsampled api hc.1 hc.2)
    exact ⟨_, w', run_map_ok _ hrun, trivial, hw'.silent, hw'.binds⟩
  | endPointAfter api h inv o =>
    obtain ⟨w', hrun, hw'⟩ := dispatched_hushed (endPointAfter_runs_unsampled api o hc.1 hc.2)
    exact ⟨_, w', run_map_ok _ hrun, trivial, hw'.silent, hw'.binds⟩

/-- One call on unsampled targets, made on any chain `th`: it returns to the calling thread,
answers as a trace that records nothing does, is silent, and binds only a free chain. -/
theorem onThread_run (c : UnsampledCall) (th : Thread) (hc : c.Targets th w) :
    ∃ r w', (onThread th c.run).run w = .ok r w' ∧ c.Answers th w' r ∧ w.Silent w' ∧ w.BindsOnlyFree w' := by
  obtain ⟨r, u, hu, hans, hs, hb⟩ := c.run_unsampled (targets_here hc)
  exact ⟨r, { u with here := w.here }, onThread_run_ok th hu, answers_here hans w.here,
    ⟨hs.ids, hs.rand, hs.spans, hs.pipeline, hs.traces, hs.asyncs⟩, hb⟩

end UnsampledCall

/-- The worlds a run of calls on unsampled targets reaches from `w₀`, each call on any chain. -/
inductive UnsampledRun (w₀ : World) : World → Prop
  | start : UnsampledRun w₀ w₀
  | step {w : World} (th : Thread) (c : UnsampledCall) :
      UnsampledRun w₀ w → c.Targets th w → UnsampledRun w₀ (finalWorld (onThread th c.run) w)

/-- A whole run of calls on unsampled targets is silent: no id drawn, no span touched or handed
over, nothing that recorded nothing starts to record. -/
theorem UnsampledRun.silent {w₀ : World} (h : UnsampledRun w₀ w) : w₀.Silent w := by
  induction h with
  | start => exact .refl w₀
  | step th c _ hc ih =>
    obtain ⟨r, w', hrun, -, hs, -⟩ := c.onThread_run th hc
    rw [finalWorld_of_run_ok hrun]
    exact ih.trans hs

/-! ## Starting unsampled -/

namespace StartCall

/-- The start calls that bind a trace recording nothing: disabling sampling, the trace for a
caller that asked not to be sampled, and a root start the sampler declines. -/
def StartsUnsampled (c : StartCall) (w : World) : Prop :=
  c = .disableSampling ∨ c = .traceFor .notSampled ∨
    (c.startsRoot = true ∧ (w.settings.sampler.decide w.sampling).1 = false)

end StartCall

/-- A root start the sampler declines takes its decision and binds a disabled trace. -/
theorem newTraceObject_run_declined (hb : w.boundTrace = none)
    (hd : (w.settings.sampler.decide w.sampling).1 = false) :
    newTraceObject.run w = (bindNew w.traces.size).run
      { w with sampling := (w.settings.sampler.decide w.sampling).2,
               traces := w.traces.push { kind := .disabled false } } := by
  unfold newTraceObject
  rw [run_bind_ok (ensureUnbound_run_none hb)]
  dsimp only
  rw [run_bind_ok (isSampled_run w)]
  simp only [hd, Bool.false_eq_true, ↓reduceIte]
  rw [run_bind_ok (newTrace_run _ _)]

/-- Binding a new disabled trace on a live free chain: the trace is unsampled, and only the trace
table and the chain change. -/
theorem bindNew_disabled (hup : w.chainUp = true) (hb : w.chain.trace = none) (q : Bool) :
    ∃ u, (bindNew w.traces.size).run { w with traces := w.traces.push { kind := .disabled q } } =
      .ok (.ok w.traces.size) u ∧ u.Unsampled w.traces.size ∧ w.Silent u := by
  refine ⟨_, bindNew_run_unbound (w := { w with traces := w.traces.push { kind := .disabled q } }) hup hb _, ?_,
    (silent_pushTrace w _).trans (silent_withLocal _ _ _)⟩
  rw [withLocal_eq]
  exact ⟨{ kind := .disabled q }, by simp, rfl⟩

/-- On a live free chain, each way of starting unsampled binds a new unsampled trace, draws no
id and touches no span. -/
theorem StartCall.run_unsampled (c : StartCall) (hc : c.StartsUnsampled w) (hup : w.chainUp = true)
    (hb : w.chain.trace = none) :
    ∃ u, c.run.run w = .ok (.ok w.traces.size) u ∧ u.Unsampled w.traces.size ∧ w.Silent u := by
  have hb' : w.boundTrace = none := by rw [boundTrace_of_up hup, hb]
  have hdisable : ∃ u, Agent.disableSampling.run w = .ok (.ok w.traces.size) u ∧ u.Unsampled w.traces.size ∧
      w.Silent u := by
    rw [disableSampling_run_unbound hb']
    exact bindNew_disabled hup hb false
  -- a declined root start has only moved the sampler on when it binds
  have hdeclined (hd : (w.settings.sampler.decide w.sampling).1 = false) :
      ∃ u, newTraceObject.run w = .ok (.ok w.traces.size) u ∧ u.Unsampled w.traces.size ∧ w.Silent u := by
    rw [newTraceObject_run_declined hb' hd]
    obtain ⟨u, hu, hun, hs⟩ := bindNew_disabled
      (w := { w with sampling := (w.settings.sampler.decide w.sampling).2 }) hup hb false
    exact ⟨u, hu, hun, (silent_sampling w _).trans hs⟩
  rcases hc with rfl | rfl | ⟨hroot, hd⟩
  · exact hdisable
  · exact hdisable
  · cases c with
    | newTrace => exact hdeclined hd
    | traceFor r =>
      cases r with
      | absent => exact hdeclined hd
      | notSampled => cases hroot
      | resume _ _ _ => cases hroot
    | continueTrace _ => cases hroot
    | disableSampling => cases hroot

/-! ## Silence -/

/-- Work on a trace that is not sampled is silent. A trace starts unsampled when sampling is
disabled, when the caller asked not to be sampled, or when the sampler declines a root start; on a
live free chain each binds a new unsampled trace, drawing no id and touching no span. Every call
on an unsampled trace, its recorders, its span recorder, the async contexts handed out from it and
the unsampled branches they resume, and every hook the registry runs on them (a span event's on a
chain that holds no recording trace, an async end point's with such a context), made on any chain,
returns without a panic and answers as a trace that records nothing does: a block end succeeds with no frame open, a finish reports no
branch, a resume gives an unsampled branch bound to the chain, or nothing. It draws no id,
touches no span, hands none to the pipeline, and binds a branch only to a chain with no trace; a
whole run of such calls is silent as well. -/
theorem unsampled_work_stays_silent :
    (∀ (w : World) (c : StartCall), c.StartsUnsampled w → w.chainUp = true → w.chain.trace = none →
      ∃ u, c.run.run w = .ok (.ok w.traces.size) u ∧ u.Unsampled w.traces.size ∧ w.Silent u) ∧
    (∀ (w : World) (th : Thread) (c : UnsampledCall), c.Targets th w →
      ∃ r w', (onThread th c.run).run w = .ok r w' ∧ c.Answers th w' r ∧ w.Silent w' ∧ w.BindsOnlyFree w') ∧
    (∀ w₀ w : World, UnsampledRun w₀ w → w₀.Silent w) :=
  ⟨fun _ c hc hup hb => c.run_unsampled hc hup hb, fun _ th c hc => c.onThread_run th hc,
    fun _ _ h => h.silent⟩

/-- Sampling disabled on a fresh world, and a disabled context resumed on a worker chain of a world
that holds one, once and as a run; and an async end point on that chain, whose call carries the
context and whose handler journals a line, resuming it. -/
theorem unsampled_work_on_sample_worlds :
    let w : World := { (default : World) with asyncs := #[⟨.disabled, 1⟩] }
    (∃ u, StartCall.disableSampling.run.run default = .ok (.ok 0) u ∧ u.Unsampled 0 ∧ (default : World).Silent u) ∧
    (∃ r w', (onThread (.chain "worker") (UnsampledCall.continueAsync 0).run).run w = .ok r w' ∧
      (UnsampledCall.continueAsync 0).Answers (.chain "worker") w' r ∧ w.Silent w' ∧ w.BindsOnlyFree w') ∧
    w.Silent (finalWorld (onThread (.chain "worker") (UnsampledCall.continueAsync 0).run) w) ∧
    (∃ r w', (onThread (.chain "worker")
        (UnsampledCall.endPointBefore default { tag := "j", before := [.journal "in"] } { target := .async 0 }).run).run w =
        .ok r w' ∧ w.Silent w' ∧ w.BindsOnlyFree w') := by
  intro w
  have hctx : ∀ a, endPointContext { tag := "j", before := [.journal "in"] } { target := .async 0 } = some a →
      w.UnsampledAsync a := fun a ha => by
    obtain rfl : 0 = a := Option.some.inj ha
    exact ⟨_, rfl, rfl⟩
  obtain ⟨r, w', hrun, -, hs, hb⟩ := unsampled_work_stays_silent.2.1 w (.chain "worker")
    (.endPointBefore default { tag := "j", before := [.journal "in"] } { target := .async 0 }) ⟨rfl, hctx⟩
  exact ⟨unsampled_work_stays_silent.1 default .disableSampling (.inl rfl) rfl rfl,
    unsampled_work_stays_silent.2.1 _ _ _ ⟨_, rfl, rfl⟩,
    unsampled_work_stays_silent.2.2 _ _ (.step _ _ .start ⟨_, rfl, rfl⟩), r, w', hrun, hs, hb⟩

end Agent

end TraceAgent
