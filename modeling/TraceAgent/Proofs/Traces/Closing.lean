import Mathlib
import TraceAgent.Proofs.Traces.Unsampled
import TraceAgent.Proofs.Holds.Ledger

/-!
# Closing a trace

A trace is closed once. The first close seals it and drains its open frames into its span, and a
trace on no branch gives back its hold on the span (`releaseSpan`). The last hold of an open span
finishes it, and a span is handed to the pipeline only as it finishes, so once.

Between the hooks of an entry point, a handler's actions write only into the root record of the
span, the journal and the log (`World.RootsWritten`): nothing a later close reads.

* `World.HandedOver pl sp s x`: span `sp`, which was `s` while the pipeline was `pl`, has given
  back a hold in `x`: finished and handed over once if that was the last hold of the open span, and
  otherwise as it was, with nothing handed over.
* `World.Closed w t o x`: trace `t`, held as `o` in `w`, is closed in `x`, its span given back its
  hold; `World.ClosedFrom` adds that the close changed no chain.

Main statements:

* `handlerActions_root` — a handler's actions on a root record keep whatever notes and root
  writes keep;
* `releaseSpan_runs` — giving back a hold hands the span over exactly when it was the last hold of
  an open span;
* `closeTrace_runs_open` — closing an open trace on no branch seals it on its span and branch,
  changes no chain, and hands its span over once exactly when that was the last hold, also when an
  exporter panics.
-/

namespace TraceAgent

/-- Writing a table entry as a function of what it held: the entry is changed if it exists, and
every other entry is as it was. -/
theorem Array.getElem?_set!_getD {α : Type} (xs : Array α) (i j : Nat) (d : α) (f : α → α) :
    (xs.set! i (f (xs[i]?.getD d)))[j]? = if i = j then xs[i]?.map f else xs[j]? := by
  rw [Array.set!_eq_setIfInBounds, Array.getElem?_setIfInBounds]
  by_cases hij : i = j
  · subst hij
    by_cases hi : i < xs.size
    · simp [hi]
    · simp [hi]
  · simp [hij]

/-- Where a trace stands, as a close reads it: whether it is closed, the span it writes into and
its branch. -/
def TraceObj.place (o : TraceObj) : Bool × Option SpanRef × Option LocalAsyncId :=
  (o.closed, o.span?, o.branch?)

namespace SpanState

/-- What the holders of a span see of it: its trace id, the holds still out and its status. Root
records and frames written while it is open leave it. -/
def shape (s : SpanState) : TraceId × Nat × SpanStatus := (s.traceId, s.pending, s.status)

@[simp] theorem shape_updateRoot (s : SpanState) (f : RootRecord → RootRecord) :
    (s.updateRoot f).shape = s.shape := by
  unfold updateRoot
  split <;> rfl

@[simp] theorem shape_pushEvent (s : SpanState) (e : SpanEvent) : (s.pushEvent e).1.shape = s.shape := by
  unfold pushEvent
  split
  · rfl
  · split <;> rfl

theorem isOpen_of_shape {s s' : SpanState} (h : s'.shape = s.shape) : s'.isOpen = s.isOpen := by
  simp only [shape, Prod.mk.injEq] at h
  simp only [isOpen, h.2.2]

end SpanState

namespace World

/-- Where trace `t` stands, if the table holds it. -/
def placeOf (w : World) (t : TraceRef) : Option (Bool × Option SpanRef × Option LocalAsyncId) :=
  w.traces[t]?.map TraceObj.place

/-- `x` has the chains, the trace table and the scope names of `v`. -/
structure ChainsKept (v x : World) : Prop where
  locals : x.locals = v.locals
  traces : x.traces = v.traces
  here : x.here = v.here
  gone : x.gone = v.gone
  scopeNames : x.scopeNames = v.scopeNames

/-- From `v` to `x` only root records, frames in spans, the journal and the log changed: the chains,
the trace table, the scope names and the pipeline are as they were, and every span has its shape. -/
structure RootsWritten (v x : World) : Prop extends ChainsKept v x where
  pipeline : x.pipeline = v.pipeline
  shapes : ∀ sp : SpanRef, (x.spans[sp]?).map SpanState.shape = (v.spans[sp]?).map SpanState.shape

/-- How span `sp`, which was `s` while the pipeline was `pl`, stands in `x` once its trace has given
back its hold: the last hold of an open span finished it and handed it to the pipeline once; any
other release left its status and handed nothing over. -/
def HandedOver (pl : Pipeline FinishedSpan) (sp : SpanRef) (s : SpanState) (x : World) : Prop :=
  if s.isOpen = true ∧ s.pending = 1 then
    (x.spans[sp]?).map SpanState.status = some .finished ∧
      ∃ fs : FinishedSpan, fs.traceId = s.traceId ∧ x.pipeline = (pl.onEnd fs).2.2
  else (x.spans[sp]?).map SpanState.status = some s.status ∧ x.pipeline = pl

/-- Trace `t`, held as `o` in `w`, is closed in `x`: the calling and torn-down threads and the scope
names are as in `w`, `t` is closed on its span and branch, its span has been given back the hold
of `t`, and a trace that does not record has handed nothing over. -/
structure Closed (w : World) (t : TraceRef) (o : TraceObj) (x : World) : Prop where
  here : x.here = w.here
  gone : x.gone = w.gone
  scopeNames : x.scopeNames = w.scopeNames
  place : x.placeOf t = some (true, o.span?, o.branch?)
  span : ∀ sp s, o.span? = some sp → w.spans[sp]? = some s → HandedOver w.pipeline sp s x
  silent : o.span? = none → x.pipeline = w.pipeline

/-- What the close of trace `t`, held as `o` in `v`, leaves in `x`: `t` closed, and the chains as
they were. -/
structure ClosedFrom (v : World) (t : TraceRef) (o : TraceObj) (x : World) : Prop
    extends Closed v t o x where
  locals : x.locals = v.locals

variable {v x y : World}

namespace ChainsKept

@[refl] theorem refl (v : World) : ChainsKept v v := ⟨rfl, rfl, rfl, rfl, rfl⟩

theorem trans (h : ChainsKept v x) (h' : ChainsKept x y) : ChainsKept v y :=
  ⟨h'.locals.trans h.locals, h'.traces.trans h.traces, h'.here.trans h.here, h'.gone.trans h.gone,
    h'.scopeNames.trans h.scopeNames⟩

theorem chainUp (h : ChainsKept v x) : x.chainUp = v.chainUp := chainUp_eq_of h.here h.gone

theorem chain (h : ChainsKept v x) : x.chain = v.chain := chain_eq_of_locals h.locals h.here

theorem boundTrace (h : ChainsKept v x) : x.boundTrace = v.boundTrace := by
  simp only [World.boundTrace, h.chainUp, h.chain]

end ChainsKept

namespace RootsWritten

@[refl] theorem refl (v : World) : RootsWritten v v := ⟨ChainsKept.refl v, rfl, fun _ => rfl⟩

theorem trans (h : RootsWritten v x) (h' : RootsWritten x y) : RootsWritten v y :=
  ⟨h.toChainsKept.trans h'.toChainsKept, h'.pipeline.trans h.pipeline,
    fun sp => (h'.shapes sp).trans (h.shapes sp)⟩

theorem note (h : RootsWritten v x) (line : String) :
    RootsWritten v { x with journal := x.journal.push line } :=
  ⟨⟨h.locals, h.traces, h.here, h.gone, h.scopeNames⟩, h.pipeline, h.shapes⟩

theorem log (h : RootsWritten v x) (es : Array LogEvent) :
    RootsWritten v { x with logs := x.logs ++ es } :=
  ⟨⟨h.locals, h.traces, h.here, h.gone, h.scopeNames⟩, h.pipeline, h.shapes⟩

end RootsWritten

section HandedOver

variable {pl : Pipeline FinishedSpan} {sp : SpanRef} {s : SpanState}

/-- Only the shape of the span given back matters. -/
theorem HandedOver.of_shape {s' : SpanState} (h : s'.shape = s.shape) (hx : HandedOver pl sp s' x) :
    HandedOver pl sp s x := by
  have hopen := SpanState.isOpen_of_shape h
  simp only [SpanState.shape, Prod.mk.injEq] at h
  unfold HandedOver at hx ⊢
  simp only [hopen, h.1, h.2.1, h.2.2] at hx
  exact hx

/-- It stays so in a world with the same spans and pipeline. -/
theorem HandedOver.of_tables (hs : y.spans = x.spans) (hp : y.pipeline = x.pipeline)
    (hx : HandedOver pl sp s x) : HandedOver pl sp s y := by
  unfold HandedOver at hx ⊢
  rw [hs, hp]
  exact hx

end HandedOver

section Closed

variable {w : World} {t : TraceRef} {o : TraceObj}

/-- A closed trace stays closed in a world with the same threads, scope names, traces, spans and
pipeline. -/
theorem Closed.of_tables (h : Closed w t o x) (hh : y.here = x.here) (hg : y.gone = x.gone)
    (hn : y.scopeNames = x.scopeNames) (ht : y.traces = x.traces) (hs : y.spans = x.spans)
    (hp : y.pipeline = x.pipeline) : Closed w t o y :=
  ⟨hh.trans h.here, hg.trans h.gone, hn.trans h.scopeNames, by rw [placeOf, ht]; exact h.place,
    fun sp s hsp hsw => (h.span sp s hsp hsw).of_tables hs hp, fun hsp => hp.trans (h.silent hsp)⟩

/-- What a close leaves, read from an earlier world that the close's own differs from only in the
chains, the traces, root records and frames. -/
theorem Closed.of_earlier (h : Closed v t o x) (hh : v.here = w.here) (hg : v.gone = w.gone)
    (hn : v.scopeNames = w.scopeNames) (hp : v.pipeline = w.pipeline)
    (hs : ∀ sp : SpanRef, (v.spans[sp]?).map SpanState.shape = (w.spans[sp]?).map SpanState.shape) :
    Closed w t o x := by
  refine ⟨h.here.trans hh, h.gone.trans hg, h.scopeNames.trans hn, h.place, fun sp s hsp hsw => ?_,
    fun hsp => (h.silent hsp).trans hp⟩
  obtain ⟨s', hs', hsh⟩ : ∃ s', v.spans[sp]? = some s' ∧ s'.shape = s.shape := by
    simpa [hsw] using hs sp
  rw [← hp]
  exact (h.span sp s' hsp hs').of_shape hsh

end Closed

end World

namespace Agent
open World

variable {v x : World} {t : TraceRef} {o : TraceObj}

/-- A root record write changes the root record of the span alone. -/
theorem recordRoot_runs_written (t : TraceRef) (f : RootRecord → RootRecord) {E : World → Prop} :
    Runs (RootsWritten v) (recordRoot t f) (fun _ => RootsWritten v) E := by
  intro x hx
  rcases hk : (x.traces[t]?.getD default).kind with ⟨sp, _ | br, st⟩ | a
  · -- a synchronous recording trace writes the root record of its span
    have hrun : (recordRoot t f).run x =
        .ok () { x with spans := x.spans.set! sp (SpanState.updateRoot (x.spans[sp]?.getD default) f) } := by
      simp [recordRoot, rootSpan?, trace, span, setSpan, hk]
    rw [hrun]
    refine ⟨⟨hx.locals, hx.traces, hx.here, hx.gone, hx.scopeNames⟩, hx.pipeline, fun j => ?_⟩
    rw [← hx.shapes j, Array.getElem?_set!_getD x.spans sp j default (SpanState.updateRoot · f)]
    split
    · subst_vars
      simp [Option.map_map, Function.comp_def]
    · rfl
  -- a branch or a disabled trace has no root record to write
  all_goals
    have hrun : (recordRoot t f).run x = .ok () x := by simp [recordRoot, rootSpan?, trace, hk]
    rw [hrun]
    exact hx

/-! ## A handler writing a root record -/

section Roots

variable {P : World → Prop} (hnote : ∀ w line, P w → P { w with journal := w.journal.push line })
  (hroot : ∀ t f, Runs P (recordRoot t f) (fun _ => P) P)
include hnote hroot

theorem runAction_root (tag : String) (t : TraceRef) (inv : Invocation) (outcome : Option Outcome)
    (a : Action) : Runs P (runAction tag (.root t) inv outcome a) (fun _ => P) P := by
  -- on a root an action notes a line, writes the root record, returns or panics
  have hwritten : ∀ f (r : Except HookError Unit), Runs P (do recordRoot t f; pure r) (fun _ => P) P :=
    fun f _ => Runs.bind (hroot t f) fun _ => Runs.pure _ fun _ h => h
  cases a <;> simp only [runAction, Target.recordAttr]
  case journal | debug => exact note_pure_runs hnote _ _
  case attrArg i =>
    split
    · exact hwritten _ _
    · exact Runs.pure _ fun _ h => h
  case attr | rpc | remoteAddress | endPoint => exact hwritten _ _
  case outcome =>
    split
    · exact note_pure_runs hnote _ _
    · exact Runs.pure _ fun _ h => h
  case panic | panicStatic | panicAny => exact Runs.throw _ fun _ h => h
  all_goals exact Runs.pure _ fun _ h => h

theorem runActions_root (tag : String) (t : TraceRef) (inv : Invocation) (outcome : Option Outcome)
    (as : List Action) : Runs P (runActions tag (.root t) inv outcome as) (fun _ => P) P :=
  runActions_runs tag (.root t) inv outcome fun a _ => runAction_root hnote hroot tag t inv outcome a

/-- The actions of an entry point's handler note lines and write the root record of its trace, and
may fail or panic: whatever notes and root writes keep, they keep. -/
theorem handlerActions_root (h : Handler) (t : TraceRef) (inv : Invocation) (outcome : Option Outcome)
    (as : List Action) : Runs P (handlerActions h (.root t) inv outcome as) (fun _ => P) P := by
  unfold handlerActions
  split
  · exact Runs.pure _ fun _ h => h
  · exact runActions_root hnote hroot _ t inv outcome as

end Roots

/-! ## Giving back a hold, and the close -/

/-- A hand-over changes the pipeline and the log, whether or not an exporter panics. -/
theorem handOver_runs_either (fs : FinishedSpan) {R : World → Prop} :
    Runs (fun x => R { x with pipeline := (x.pipeline.onEnd fs).2.2, logs := x.logs ++ (x.pipeline.onEnd fs).1.toArray })
      (handOver fs) (fun _ => R) R := by
  refine Runs.mono (handOver_runs fs) (fun x hx => ?_) (fun _ _ h => h) (fun _ h => h)
  rcases hp : x.pipeline.onEnd fs with ⟨logs, panicked, pl⟩
  rw [hp] at hx
  cases panicked <;> exact hx

/-- A frame drained into a span keeps its shape. -/
theorem pushEvent_runs_written (sp : SpanRef) (e : SpanEvent) {E : World → Prop} :
    Runs (RootsWritten v) (pushEvent sp e) (fun _ => RootsWritten v) E := by
  intro x hx
  have hrun : (pushEvent sp e).run x = .ok ()
      { x with spans := x.spans.set! sp ((x.spans[sp]?.getD default).pushEvent e).1,
               logs := x.logs ++ ((x.spans[sp]?.getD default).pushEvent e).2.toArray } := rfl
  rw [hrun]
  refine ⟨⟨hx.locals, hx.traces, hx.here, hx.gone, hx.scopeNames⟩, hx.pipeline, fun j => ?_⟩
  rw [← hx.shapes j, Array.getElem?_set!_getD x.spans sp j default (fun s => (s.pushEvent e).1)]
  split
  · subst_vars
    simp [Option.map_map, Function.comp_def]
  · rfl

/-- Giving back a hold on a span keeps the chains; the last hold of an open span finishes it and
hands it over once, and any other release hands nothing over. -/
theorem releaseSpan_runs (sp : SpanRef) :
    Runs (RootsWritten v) (releaseSpan sp)
      (fun _ x => ChainsKept v x ∧ ∀ s, v.spans[sp]? = some s → HandedOver v.pipeline sp s x)
      (fun x => ChainsKept v x ∧ ∀ s, v.spans[sp]? = some s → HandedOver v.pipeline sp s x) := by
  intro x hx
  -- the span as the release finds it: the one of `v`, its root record and frames apart
  have hfound : ∀ s, v.spans[sp]? = some s → x.spans[sp]? = some (x.spans[sp]?.getD default) ∧
      (x.spans[sp]?.getD default).shape = s.shape := by
    intro s hs
    obtain ⟨s', hs', hsh⟩ : ∃ s', x.spans[sp]? = some s' ∧ s'.shape = s.shape := by
      simpa [hs] using hx.shapes sp
    rw [hs', Option.getD_some]
    exact ⟨rfl, hsh⟩
  have hspan : (span sp).run x = .ok (x.spans[sp]?.getD default) x := rfl
  unfold releaseSpan
  rw [run_bind_ok hspan]
  rcases hr : (x.spans[sp]?.getD default).release with ⟨s₁, done, logs⟩
  dsimp only
  -- the span is written back, then the release's events are logged
  let y : World := { x with spans := x.spans.set! sp s₁, logs := x.logs ++ logs.toArray }
  have hkept : ChainsKept v y := ⟨hx.locals, hx.traces, hx.here, hx.gone, hx.scopeNames⟩
  have hreleased : ∀ s, v.spans[sp]? = some s →
      (y.spans[sp]?).map SpanState.status =
        some (if s.isOpen = true ∧ s.pending = 1 then .finished else s.status) ∧
      done.map FinishedSpan.traceId = if s.isOpen = true ∧ s.pending = 1 then some s.traceId else none := by
    intro s hs
    obtain ⟨hs', hsh⟩ := hfound s hs
    have hlt : sp < x.spans.size := (Array.getElem?_eq_some_iff.1 hs').1
    have hopen := SpanState.isOpen_of_shape hsh
    have hstatus := SpanState.release_status (x.spans[sp]?.getD default)
    have hhanded := SpanState.release_handed (x.spans[sp]?.getD default)
    simp only [SpanState.shape, Prod.mk.injEq] at hsh
    rw [hr] at hstatus hhanded
    simp only [hopen, hsh.1, hsh.2.1, hsh.2.2] at hstatus hhanded
    refine ⟨?_, hhanded⟩
    simp [y, Array.set!_eq_setIfInBounds, Array.getElem?_setIfInBounds_self_of_lt hlt, ← hstatus]
  rw [run_bind_ok (rfl : (setSpan sp s₁).run x = .ok () { x with spans := x.spans.set! sp s₁ }),
    run_bind_ok (rfl : (emit logs).run { x with spans := x.spans.set! sp s₁ } = .ok () y)]
  cases done with
  | none =>
    -- no hand-over: the release was not the last of an open span
    refine ⟨hkept, fun s hs => ?_⟩
    obtain ⟨hstatus, hhanded⟩ := hreleased s hs
    unfold HandedOver
    split
    · next hlast => simp [hlast] at hhanded
    · next hlast => exact ⟨by rw [hstatus, if_neg hlast], hx.pipeline⟩
  | some fs =>
    -- the last hold of an open span: finished, and handed over once
    refine handOver_runs_either fs y ⟨⟨hx.locals, hx.traces, hx.here, hx.gone, hx.scopeNames⟩, fun s hs => ?_⟩
    obtain ⟨hstatus, hhanded⟩ := hreleased s hs
    unfold HandedOver
    split
    · next hlast =>
      rw [if_pos hlast, Option.map_some, Option.some.injEq] at hhanded
      exact ⟨by rw [hstatus, if_pos hlast], fs, hhanded, by simp only [y, hx.pipeline]⟩
    · next hlast => simp [hlast] at hhanded

theorem placeOf_set {w : World} (ho : w.traces[t]? = some o) (o' : TraceObj) :
    { w with traces := w.traces.set! t o' }.placeOf t = some o'.place := by
  have hlt : t < w.traces.size := (Array.getElem?_eq_some_iff.1 ho).1
  simp [placeOf, Array.set!_eq_setIfInBounds, Array.getElem?_setIfInBounds_self_of_lt hlt]

/-- The close of a recording trace, once it is sealed: its open frames go into its span, and a
trace on no branch gives back its hold. -/
theorem closeTrace_run_recording (ho : v.traces[t]? = some o) (hc : o.closed = false) {sp : SpanRef}
    {br : Option LocalAsyncId} {st : CallStack} (hk : o.kind = .recording sp br st) :
    (closeTrace t).run v = (do
      if !st.drain.1.isEmpty then
        log (.warn "Trace.Close.UnbalancedFrames")
        for e in st.drain.1 do pushEvent sp e
      if br.isNone then releaseSpan sp : Agent Unit).run
    { v with traces := v.traces.set! t { o with closed := true, kind := .recording sp br st.drain.2 } } := by
  unfold closeTrace
  rw [run_bind_ok (show (trace t).run v = .ok o v by simp [trace, ho])]
  simp only [hc, hk, Bool.false_eq_true, ↓reduceIte]
  rfl

/-- Closing an open trace on no branch seals it on its span and branch and changes no chain; its
span is handed over once exactly when that was the last hold of the open span, also when an
exporter panics, and a trace that does not record hands nothing over. -/
theorem closeTrace_runs_open (ho : v.traces[t]? = some o) (hc : o.closed = false)
    (hbr : o.branch? = none) :
    Runs (· = v) (closeTrace t) (fun _ => ClosedFrom v t o) (ClosedFrom v t o) := by
  rcases hk : o.kind with ⟨sp, br, st⟩ | q
  · obtain rfl : br = none := by simpa [TraceObj.branch?, hk] using hbr
    have hspan : o.span? = some sp := by simp [TraceObj.span?, hk]
    -- sealed first; the frames and the release change no chain and leave the seal
    let v₁ : World := { v with traces := v.traces.set! t { o with closed := true, kind := .recording sp none st.drain.2 } }
    have hsealed : v₁.placeOf t = some (true, o.span?, o.branch?) := by
      rw [placeOf_set ho, hspan, hbr]
      rfl
    have hrelease : Runs (RootsWritten v₁) (if (none : Option LocalAsyncId).isNone then releaseSpan sp else pure ())
        (fun _ => ClosedFrom v t o) (ClosedFrom v t o) := by
      simp only [Option.isNone_none, ↓reduceIte]
      refine Runs.mono (releaseSpan_runs sp) (fun x hx => hx) (fun _ x hx => ?_) (fun x hx => ?_)
      all_goals
        obtain ⟨hkept, hhanded⟩ := hx
        refine ⟨⟨hkept.here, hkept.gone, hkept.scopeNames, by rw [placeOf, hkept.traces]; exact hsealed,
          fun sp' s hsp hs => ?_, fun h => by rw [hspan] at h; cases h⟩, hkept.locals⟩
        rw [hspan, Option.some.injEq] at hsp
        subst hsp
        exact hhanded s hs
    refine Runs.of_run_eq (closeTrace_run_recording ho hc hk) ?_
    dsimp only
    split
    · -- the frames still open go into the span, each as one more frame
      refine Runs.bind (R := fun _ => RootsWritten v₁) (Runs.mono (log_runs _)
        (fun x hx => by subst hx; exact (RootsWritten.refl _).log _) (fun _ _ h => h) (fun _ h => h)) fun _ => ?_
      refine Runs.bind (Runs.forIn _ _ (fun _ => RootsWritten v₁) fun e _ => ?_) fun _ => hrelease
      exact Runs.bind (pushEvent_runs_written sp e) fun _ => Runs.pure _ fun _ h => h
    · exact Runs.mono hrelease (fun x hx => hx ▸ RootsWritten.refl v₁) (fun _ _ h => h) (fun _ h => h)
  · have hrun := closeTrace_run_disabled ho hk
    rw [hc, if_neg Bool.false_ne_true] at hrun
    intro x hx
    subst hx
    rw [hrun]
    refine ⟨⟨rfl, rfl, rfl, ?_, fun sp s hsp => by simp [TraceObj.span?, hk] at hsp, fun _ => rfl⟩, rfl⟩
    rw [placeOf_set ho]
    rfl

end Agent
end TraceAgent
