import Mathlib
import TraceAgent.Proofs.Traces.Closing

/-!
# The trace of an entry point

Entry points share one scope, `calltrace.entry-point`, entered on the way in with the boundary
policy. Only the outermost entry on a chain starts a trace, as its handler says, and keeps it in
the scope's attachment; the matching exit is the only one that finds the scope at depth one, and
it unbinds and closes that trace before the last leave removes the slot.

* `World.InPlace id w w'`: from `w` to `w'` the entry-point scope (its depth and attachment) and
  the trace bound to the calling chain (bound, open or closed, its span and branch) are in place.
  Hooks of other interceptors between those of an entry point are asked to keep it
  (`EntryRun.Keeps`).
* `World.Opened` and `World.Exited`: what the outermost entry leaves when its handler starts a
  trace, and what the matching exit leaves.
* `EntryRun`: runs of entry points on one chain as the registry dispatches them, nested and one
  after another, with other hooks in between.

Main statements:

* `entryBefore_run_nested` — an entry point met below another only counts its entry;
* `EntryRun.run_inPlace` — every run of nested entry points keeps the scope and the bound trace in
  place;
* `entry_point_lifecycle` — the outermost pair starts a trace exactly when the chain is free and
  its handler starts one; that trace stays bound and open through the nested run, and the exit
  unbinds and closes it and removes the slot, finishing its span when no async hold is left;
  otherwise the bound trace stays bound as it was.
-/

namespace TraceAgent

/-- Whether a create mode starts a trace: every mode but the failing ones. -/
def CreateMode.starts : CreateMode → Bool
  | .fail | .failStatic => false
  | _ => true

/-- Whether an entry point's handler starts a trace: a plain handler starts a fresh one. -/
def Handler.starts (h : Handler) : Bool := h.plain || h.create.starts

namespace World

/-- The calling chain's storage is up and the entry-point scope has the id `id`. -/
def EntryReady (id : Nat) (w : World) : Prop :=
  w.chainUp = true ∧ w.scopeNames.lookup Agent.entryScopeName = some id

/-- From `w` to `w'` the entry-point scope `id` and the bound trace are in place: the scope's depth
and attachment as entry points read them, the calling chain bound to the same trace, and that
trace in the table, open or closed as it was, writing into the same span on the same branch. -/
structure InPlace (id : Nat) (w w' : World) : Prop where
  scopes : Agent.ScopesKept (· = id) (· = id) w w'
  bound : w'.boundTrace = w.boundTrace
  place : ∀ t, w.boundTrace = some t → w'.placeOf t = w.placeOf t

/-- `u` is `w` with a new trace bound to the calling chain, the next one of the table, open and on
no branch; the chain's scopes, the calling and torn-down threads and the scope names are as they
were. -/
structure BindsFresh (w u : World) : Prop where
  chain : u.chain = { w.chain with trace := some w.traces.size }
  here : u.here = w.here
  gone : u.gone = w.gone
  scopeNames : u.scopeNames = w.scopeNames
  fresh : ∃ o, u.traces = w.traces.push o ∧ o.closed = false ∧ o.branch? = none

/-- The outermost entry of scope `id` from `w` has opened trace `w.traces.size` in `x`: the trace,
new, open and on no branch, is bound to the calling chain and held in the scope's attachment at depth
one; the calling and torn-down threads and the scope names are as in `w`. -/
structure Opened (id : Nat) (w x : World) : Prop where
  here : x.here = w.here
  gone : x.gone = w.gone
  scopeNames : x.scopeNames = w.scopeNames
  bound : x.boundTrace = some w.traces.size
  depth : x.depth id = 1
  attachment : x.attachment id = some (.trace w.traces.size)
  fresh : ∃ o, x.traces = w.traces.push o ∧ o.closed = false ∧ o.branch? = none

/-- What the outermost exit of scope `id` leaves from `w`, where the scope held trace `t`, bound to the
chain as `o`: `t` closed with its span given back its hold, the chain unbound and the scope's slot
gone. -/
structure Exited (id : Nat) (w : World) (t : TraceRef) (o : TraceObj) (x : World) : Prop where
  closed : Closed w t o x
  unbound : x.boundTrace = none
  slot : x.slot id = none

variable {id : Nat} {w w' w'' u : World}

theorem boundTrace_entered (id : Nat) : (w.entered id).boundTrace = w.boundTrace := by
  simp only [boundTrace, chainUp_entered, trace_chain_entered]

theorem boundTrace_left (id : Nat) : (w.left id).boundTrace = w.boundTrace := by
  simp only [boundTrace, chainUp_left, trace_chain_left]

theorem placeOf_entered (id : Nat) : (w.entered id).placeOf = w.placeOf := by
  rw [entered_eq]
  rfl

theorem placeOf_left (id : Nat) : (w.left id).placeOf = w.placeOf := by
  rw [left_eq]
  rfl

/-- An exit leaves its mark on the log too. -/
theorem Exited.log {t : TraceRef} {o : TraceObj} (h : Exited id w t o w') (es : Array LogEvent) :
    Exited id w t o { w' with logs := w'.logs ++ es } :=
  ⟨h.closed.of_tables rfl rfl rfl rfl rfl rfl, h.unbound, h.slot⟩

/-- Closing a trace from a world that only wrote roots and then changed a chain state is closing it
from the world before. -/
theorem Closed.of_written {t : TraceRef} {o : TraceObj} {x y : World} (hx : RootsWritten w x)
    (th : Thread) (c : Option ChainLocal) (h : Closed (x.withLocal th c) t o y) : Closed w t o y := by
  rw [withLocal_eq] at h
  exact h.of_earlier hx.here hx.gone hx.scopeNames hx.pipeline hx.shapes

/-- An entry of any scope keeps a world ready for the entry point. -/
theorem EntryReady.entered (hw : w.EntryReady id) (j : Nat) : (w.entered j).EntryReady id :=
  ⟨by rw [chainUp_entered]; exact hw.1, by rw [scopeNames_entered]; exact hw.2⟩

/-- The trace `t` as its place says it is. -/
theorem exists_of_placeOf {t : TraceRef} {c : Bool} {sp : Option SpanRef} {br : Option LocalAsyncId}
    (h : w.placeOf t = some (c, sp, br)) :
    ∃ o, w.traces[t]? = some o ∧ o.closed = c ∧ o.span? = sp ∧ o.branch? = br := by
  obtain ⟨o, ho, hp⟩ := Option.map_eq_some_iff.1 h
  simp only [TraceObj.place, Prod.mk.injEq] at hp
  exact ⟨o, ho, hp.1, hp.2.1, hp.2.2⟩

namespace InPlace

@[refl] theorem refl (w : World) : InPlace id w w :=
  ⟨Agent.ScopesKept.refl w, rfl, fun _ _ => rfl⟩

theorem trans (h : InPlace id w w') (h' : InPlace id w' w'') : InPlace id w w'' :=
  ⟨h.scopes.trans h'.scopes, h'.bound.trans h.bound,
    fun t ht => (h'.place t (h.bound.trans ht)).trans (h.place t ht)⟩

/-- A change that keeps the chains, the trace table and the scope names. -/
theorem of_chainsKept (h : ChainsKept w w') : InPlace id w w' :=
  ⟨Agent.ScopesKept.of_locals h.here h.gone h.scopeNames h.locals, h.boundTrace,
    fun _ _ => by simp only [placeOf, h.traces]⟩

theorem ready (h : InPlace id w w') (hw : w.EntryReady id) : w'.EntryReady id :=
  ⟨by rw [h.scopes.chainUp]; exact hw.1, h.scopes.lookup hw.2⟩

theorem log (h : InPlace id w w') (es : Array LogEvent) : InPlace id w { w' with logs := w'.logs ++ es } :=
  h.trans (of_chainsKept ⟨rfl, rfl, rfl, rfl, rfl⟩)

/-- A nested entry: the scope entered around anything in place is back where it was once it is
left. -/
theorem around (h : InPlace id (w.entered id) w') : InPlace id w (w'.left id) :=
  ⟨(Agent.ScopesKept.around (S := (· = id)) rfl h.scopes).1, by rw [boundTrace_left, h.bound, boundTrace_entered],
    fun t ht => by rw [placeOf_left, h.place t (by rw [boundTrace_entered]; exact ht), placeOf_entered]⟩

end InPlace

/-- A world that keeps the chains of `w` binds the same fresh trace. -/
theorem BindsFresh.of_chainsKept (h : ChainsKept w w') (hu : BindsFresh w' u) : BindsFresh w u := by
  obtain ⟨hchain, hh, hg, hn, hfresh⟩ := hu
  refine ⟨by rw [hchain, h.chain, h.traces], hh.trans h.here, hg.trans h.gone, hn.trans h.scopeNames, ?_⟩
  rw [h.traces] at hfresh
  exact hfresh

/-- Writing root records keeps what the entry opened. -/
theorem Opened.written (h : Opened id w w') (h' : RootsWritten w' w'') : Opened id w w'' := by
  have hslot : w''.slot id = w'.slot id := by simp only [World.slot, h'.chain]
  have hdepth : w''.depth id = w'.depth id := by simp only [World.depth, hslot]
  have hatt : w''.attachment id = w'.attachment id := by simp only [World.attachment, hslot]
  exact ⟨h'.here.trans h.here, h'.gone.trans h.gone, h'.scopeNames.trans h.scopeNames,
    h'.boundTrace.trans h.bound, hdepth.trans h.depth, hatt.trans h.attachment,
    by rw [h'.traces]; exact h.fresh⟩

theorem Opened.ready (h : Opened id w w') (hw : w.EntryReady id) : w'.EntryReady id :=
  ⟨by rw [chainUp_eq_of h.here h.gone, hw.1], by rw [h.scopeNames]; exact hw.2⟩

theorem BindsFresh.boundTrace (h : BindsFresh w u) (hup : w.chainUp = true) :
    u.boundTrace = some w.traces.size := by
  rw [boundTrace_of_up (by rw [chainUp_eq_of h.here h.gone, hup]), h.chain]

end World

namespace Agent

open World

variable {id : Nat} {w u : World}

/-! ## Starting the trace of an entry point -/

/-- On a live free chain every start call binds a fresh trace, the next one of the table. -/
theorem StartCall.run_bindsFresh (c : StartCall) (hup : w.chainUp = true) (hb : w.chain.trace = none) :
    ∃ u, c.run.run w = .ok (.ok w.traces.size) u ∧ w.BindsFresh u := by
  have hb' : w.boundTrace = none := by rw [boundTrace_of_up hup, hb]
  -- each call binds what its object stage built, in a world that differs from `w` past the chains
  have hbind : ∀ v : World, v.locals = w.locals → v.here = w.here → v.gone = w.gone →
      v.scopeNames = w.scopeNames → (∃ o, v.traces = w.traces.push o ∧ o.closed = false ∧ o.branch? = none) →
      ∃ u, (bindNew w.traces.size).run v = .ok (.ok w.traces.size) u ∧ w.BindsFresh u := by
    intro v hl hh hg hn hfresh
    have hchain : v.chain = w.chain := chain_eq_of_locals hl hh
    have hupv : v.chainUp = true := by rw [chainUp_eq_of hh hg, hup]
    refine ⟨_, bindNew_run_unbound hupv (by rw [hchain, hb]) _, ?_, by rw [here_withLocal, hh],
      by rw [gone_withLocal, hg], by rw [scopeNames_withLocal, hn], ?_⟩
    · rw [chain_eq_chainAt, here_withLocal, chainAt_withLocal_self, hchain]
      rfl
    · rw [withLocal_eq]
      exact hfresh
  have hnew : ∃ u, newTraceObject.run w = .ok (.ok w.traces.size) u ∧ w.BindsFresh u := by
    obtain ⟨v, hrun, hl, ho, -, hn, hfresh⟩ := newTraceObject_run_unbound hb'
    rw [hrun]
    exact hbind v hl (congrArg (·.1) ho) (gone_of_outside ho) hn hfresh
  have hcontinue (tid : TraceId) :
      ∃ u, (continueTraceObject tid).run w = .ok (.ok w.traces.size) u ∧ w.BindsFresh u := by
    rw [continueTraceObject_run_unbound hb']
    exact hbind _ rfl rfl rfl rfl ⟨_, rfl, rfl, rfl⟩
  have hdisable : ∃ u, Agent.disableSampling.run w = .ok (.ok w.traces.size) u ∧ w.BindsFresh u := by
    rw [disableSampling_run_unbound hb']
    exact hbind _ rfl rfl rfl rfl ⟨_, rfl, rfl, rfl⟩
  cases c with
  | newTrace => exact hnew
  | continueTrace tid => exact hcontinue tid
  | disableSampling => exact hdisable
  | traceFor r =>
    cases r with
    | absent => exact hnew
    | notSampled => exact hdisable
    | resume tid app host =>
      -- the caller's application and host go into the root record, which changes spans alone
      obtain ⟨v, hv, hf⟩ := hcontinue tid
      obtain ⟨r, x, hrun, rfl, sp, rfl⟩ := Runs.exists_ok (traceFor_resume_runs app host hv)
      exact ⟨_, hrun, hf.chain, hf.here, hf.gone, hf.scopeNames, hf.fresh⟩

/-- A handler that reads its caller's trace logs what the headers gave and notes the remote trace,
then starts the trace for it. -/
theorem createTrace_run_fromHeaders {h : Handler} (inv : Invocation) (hp : h.plain = false)
    (hc : h.create = .fromHeaders) :
    ∃ (r : RemoteTrace) (w' : World), RootsWritten w w' ∧
      (createTrace h inv).run w = (StartCall.traceFor r).run.run w' := by
  unfold createTrace
  simp only [hp, hc, Bool.false_eq_true, ↓reduceIte]
  cases inv.headersArg? 0 with
  | none =>
    let w' : World :=
      { w with
        logs := w.logs ++ ([] : List LogEvent).toArray
        journal := w.journal.push (h.tag ++ ":remote " ++ remoteText w.masks .absent) }
    exact ⟨.absent, w', ((RootsWritten.refl w).log _).note _, rfl⟩
  | some hm =>
    let w' : World :=
      { w with
        logs := w.logs ++ List.toArray (RemoteTrace.extract hm).2
        journal := w.journal.push (h.tag ++ ":remote " ++ remoteText w.masks (RemoteTrace.extract hm).1) }
    exact ⟨(RemoteTrace.extract hm).1, w', ((RootsWritten.refl w).log _).note _, rfl⟩

/-- The handler starts a trace on a live free chain exactly as it says: a fresh one bound to the
chain, the next of the table. -/
theorem createTrace_run_started {h : Handler} (inv : Invocation) (hup : w.chainUp = true)
    (hb : w.chain.trace = none) (hs : h.starts = true) :
    ∃ u, (createTrace h inv).run w = .ok (.ok w.traces.size) u ∧ w.BindsFresh u := by
  cases hp : h.plain
  · cases hc : h.create with
    | fresh =>
      have hrun : (createTrace h inv).run w = StartCall.newTrace.run.run w := by
        simp [createTrace, hp, hc, StartCall.run]
      rw [hrun]
      exact StartCall.newTrace.run_bindsFresh hup hb
    | fromHeaders =>
      obtain ⟨r, w', hw', hrun⟩ := createTrace_run_fromHeaders (w := w) inv hp hc
      obtain ⟨u, hu, hf⟩ := (StartCall.traceFor r).run_bindsFresh (by rw [hw'.chainUp, hup])
        (by rw [hw'.chain, hb])
      rw [hw'.traces] at hu
      exact ⟨u, hrun.trans hu, hf.of_chainsKept hw'.toChainsKept⟩
    | disabled =>
      have hrun : (createTrace h inv).run w = StartCall.disableSampling.run.run w := by
        simp [createTrace, hp, hc, StartCall.run]
      rw [hrun]
      exact StartCall.disableSampling.run_bindsFresh hup hb
    | fail | failStatic => simp [Handler.starts, CreateMode.starts, hp, hc] at hs
  · have hrun : (createTrace h inv).run w = StartCall.newTrace.run.run w := by
      simp [createTrace, hp, StartCall.run]
    rw [hrun]
    exact StartCall.newTrace.run_bindsFresh hup hb

/-- A handler that does not start a trace fails, and so does every start on a bound chain; either
way only the log and the journal change. -/
theorem createTrace_run_failed {h : Handler} (inv : Invocation)
    (hf : ¬ (w.boundTrace = none ∧ h.starts = true)) :
    ∃ e u, (createTrace h inv).run w = .ok (.error e) u ∧ RootsWritten w u := by
  -- on a bound chain every start call fails with an error event
  have hbound : ∀ (c : StartCall) (v : World), RootsWritten w v → w.boundTrace ≠ none →
      ∃ e u, c.run.run v = .ok (.error e) u ∧ RootsWritten w u := by
    intro c v hv hb
    obtain ⟨t, ht⟩ := Option.ne_none_iff_exists'.1 hb
    exact ⟨_, _, c.run_bound (by rw [hv.boundTrace, ht]), hv.log _⟩
  have hstarts : h.starts = true → w.boundTrace ≠ none := fun hs hb => hf ⟨hb, hs⟩
  cases hp : h.plain
  · cases hc : h.create with
    | fresh =>
      have hrun : (createTrace h inv).run w = StartCall.newTrace.run.run w := by
        simp [createTrace, hp, hc, StartCall.run]
      rw [hrun]
      exact hbound _ w (RootsWritten.refl w) (hstarts (by simp [Handler.starts, CreateMode.starts, hp, hc]))
    | fromHeaders =>
      obtain ⟨r, w', hw', hrun⟩ := createTrace_run_fromHeaders (w := w) inv hp hc
      rw [hrun]
      exact hbound _ w' hw' (hstarts (by simp [Handler.starts, CreateMode.starts, hp, hc]))
    | disabled =>
      have hrun : (createTrace h inv).run w = StartCall.disableSampling.run.run w := by
        simp [createTrace, hp, hc, StartCall.run]
      rw [hrun]
      exact hbound _ w (RootsWritten.refl w) (hstarts (by simp [Handler.starts, CreateMode.starts, hp, hc]))
    -- the handler fails without starting anything
    | fail => exact ⟨.other "create failed", w, by simp [createTrace, hp, hc], RootsWritten.refl w⟩
    | failStatic => exact ⟨.other "static create failure", w, by simp [createTrace, hp, hc], RootsWritten.refl w⟩
  · have hrun : (createTrace h inv).run w = StartCall.newTrace.run.run w := by
      simp [createTrace, hp, StartCall.run]
    rw [hrun]
    exact hbound _ w (RootsWritten.refl w) (hstarts (by simp [Handler.starts, hp]))

/-! ## The scope operations of an entry point -/

theorem attachment_eq_bind (w : World) (id : Nat) :
    ((localOf w w.here).bind (·.slot? id)).bind (·.attachment) = w.attachment id := by
  unfold World.attachment World.slot World.chain
  cases localOf w w.here with
  | none => rfl
  | some c => cases hs : c.slot? id <;> simp [hs]

theorem attachment_run (hup : w.chainUp = true) (id : Nat) :
    (attachment id).run w = .ok (w.attachment id) w := by
  have hread : (readChain fun c => (c.bind (·.slot? id)).bind (·.attachment)).run w =
      .ok (.ok (w.attachment id)) w :=
    Runs.run_eq (Runs.mono (readChain_runs _) (fun v hv => by
      subst hv
      exact ⟨hup, by rw [attachment_eq_bind], rfl⟩) (fun _ _ h => h) (fun _ h => h))
  unfold attachment
  rw [run_bind_ok hread]
  rfl

/-- A value stored in an entered slot replaces the slot's attachment. -/
theorem setAttachment_run (hup : w.chainUp = true) {s : ScopeSlot} (hs : w.slot id = some s)
    (a : Attachment) :
    (setAttachment id a).run w =
      .ok (s.attachment, none) (w.withLocal w.here (some (w.chain.setSlot id { s with attachment := some a }))) := by
  have hs' : w.chain.slot? id = some s := hs
  unfold setAttachment
  rw [run_bind_ok (withChain_run _ w hup)]
  simp only [hs']
  rfl

/-- A leave of an entered slot on a live chain: the last one hands back the attachment. -/
theorem scopeLeave_run (hup : w.chainUp = true) (hs : w.slot id ≠ none) :
    (scopeLeave id).run w = .ok (if w.depth id ≤ 1 then w.attachment id else none) (w.left id) :=
  Runs.run_eq (Runs.mono (scopeLeave_runs id) (fun _ hv => by subst hv; exact ⟨hup, hs, rfl, rfl⟩)
    (fun _ _ h => h) (fun _ h => h))

/-- Dropping a trace attachment does nothing. -/
theorem dropMaybe_trace_run (t : TraceRef) (w : World) :
    (dropMaybe (some (.trace t))).run w = .ok () w := by
  simp only [dropMaybe, dropFuel]
  rw [dropAttachment.eq_def]
  rfl

theorem removeTraceObject_run (hup : w.chainUp = true) :
    removeTraceObject.run w = .ok w.chain.trace (w.withLocal w.here (some { w.chain with trace := none })) := by
  unfold removeTraceObject
  rw [run_bind_ok (withChain_run _ w hup)]
  rfl

theorem chainUp_of_boundTrace {t : TraceRef} (hb : w.boundTrace = some t) : w.chainUp = true := by
  by_contra hup
  rw [boundTrace_of_down (by simpa using hup)] at hb
  cases hb

/-- An exit finding its trace bound unbinds it. -/
theorem unbindIfBound_run {t : TraceRef} (hb : w.boundTrace = some t) :
    (unbindIfBound t).run w = .ok true (w.withLocal w.here (some { w.chain with trace := none })) := by
  unfold unbindIfBound
  rw [run_bind_ok (currentRaw_run_bound w), hb]
  simp only [beq_self_eq_true, ↓reduceIte]
  rw [run_bind_ok (removeTraceObject_run (chainUp_of_boundTrace hb))]
  rfl

/-! ## The hooks of an entry point -/

/-- A hook that returns returns the same once contained. -/
theorem contain_run_ok {k : Agent (Except HookError Unit)} {r : Except HookError Unit} {w' : World}
    (hk : k.run w = .ok r w') : (contain k).run w = .ok r w' :=
  run_tryCatch_ok hk

section Hooks

variable (api : MethodDescriptor) (st : ServiceType) (h : Handler) (inv : Invocation)

/-- An entry point met below another only counts its entry, with a debug event: it starts no
trace. -/
theorem entryBefore_run_nested (hw : w.EntryReady id) (hd : 0 < w.depth id) :
    (hookBefore (.entryPoint api st h) inv).run w =
      .ok (.ok ()) { w.entered id with
        logs := (w.entered id).logs ++ [LogEvent.dbg "EntryPointInterceptor.Before.Nested"].toArray } := by
  have hnested : ExecutionPolicy.boundary.allowsEnter (w.depth id) = false := by
    simp only [ExecutionPolicy.allowsEnter, beq_eq_false_iff_ne]
    omega
  simp only [hookBefore]
  rw [run_bind_ok (scopeId_run hw.2), run_bind_ok (scopeEnter_run hw.1 .boundary), hnested]
  rfl

/-- The outermost entry point whose handler's start gives the next trace of the table: the scope is
entered, the trace kept in its attachment, and the hook goes on with the root record and the
handler's actions. -/
theorem entryBefore_run_attached {u : World} (hw : w.EntryReady id) (hfree : w.slot id = none)
    (hu : (createTrace h inv).run (w.entered id) = .ok (.ok w.traces.size) u)
    (hupu : u.chainUp = true) (hslot : u.slot id = some { depth := 1 }) :
    (hookBefore (.entryPoint api st h) inv).run w =
      (do
        recordRoot w.traces.size fun r => { r with api := some api }
        recordRoot w.traces.size fun r => { r with serviceType := st }
        handlerActions h (.root w.traces.size) inv none h.before).run
        (u.withLocal u.here
          (some (u.chain.setSlot id { depth := 1, attachment := some (.trace w.traces.size) }))) := by
  have hd0 : w.depth id = 0 := by simp [World.depth, hfree]
  simp only [hookBefore]
  rw [run_bind_ok (scopeId_run hw.2), run_bind_ok (scopeEnter_run hw.1 .boundary), hd0]
  simp only [ExecutionPolicy.allowsEnter, beq_self_eq_true, Bool.not_true, Bool.false_eq_true, ↓reduceIte]
  rw [run_bind_ok hu]
  dsimp only
  rw [run_bind_ok (setAttachment_run hupu hslot _)]
  rfl

/-- The outermost entry point on a free chain whose handler starts a trace: the trace is started,
bound to the chain and kept in the scope's attachment, and the handler writes its root record; a
failing or panicking handler leaves it so. -/
theorem entryBefore_runs_started (hw : w.EntryReady id) (hfree : w.slot id = none)
    (hb : w.boundTrace = none) (hs : h.starts = true) :
    Runs (· = w) (hookBefore (.entryPoint api st h) inv) (fun _ => Opened id w) (Opened id w) := by
  have hd0 : w.depth id = 0 := by simp [World.depth, hfree]
  have hup : (w.entered id).chainUp = true := by rw [chainUp_entered]; exact hw.1
  have hfree' : (w.entered id).chain.trace = none := by
    rw [trace_chain_entered, ← boundTrace_of_up hw.1, hb]
  have htraces : (w.entered id).traces = w.traces := by rw [entered_eq]
  obtain ⟨u, hu, hfresh⟩ := createTrace_run_started inv hup hfree' hs
  rw [htraces] at hu
  -- the slot the entry made holds nothing yet, and the trace goes into it
  have hslot : u.slot id = some { depth := 1 } := by
    have hkept : u.slot id = (w.entered id).slot id := by simp only [World.slot, hfresh.chain]; rfl
    rw [hkept, slot_entered, if_pos rfl, hfree, hd0]
    rfl
  have hupu : u.chainUp = true := by rw [chainUp_eq_of hfresh.here hfresh.gone, hup]
  let u₁ := u.withLocal u.here (some (u.chain.setSlot id { depth := 1, attachment := some (.trace w.traces.size) }))
  have hrun := entryBefore_run_attached api st h inv hw hfree hu hupu hslot
  have hopened : Opened id w u₁ := by
    have hslot₁ : u₁.slot id = some { depth := 1, attachment := some (.trace w.traces.size) } := by
      rw [slot_withLocal_here, Option.getD_some, ChainLocal.slot?_setSlot, if_pos rfl]
    obtain ⟨o, ho, hc, hbr⟩ := hfresh.fresh
    refine ⟨by rw [here_withLocal, hfresh.here, here_entered], by rw [gone_withLocal, hfresh.gone, gone_entered],
      by rw [scopeNames_withLocal, hfresh.scopeNames, scopeNames_entered], ?_,
      by rw [World.depth, hslot₁]; rfl, by rw [World.attachment, hslot₁]; rfl, ⟨o, ?_, hc, hbr⟩⟩
    · rw [boundTrace_of_up (by rw [chainUp_withLocal, hupu]), trace_chain_withLocal_here]
      show u.chain.trace = _
      rw [hfresh.chain, htraces]
    · show (u.withLocal _ _).traces = _
      rw [withLocal_eq]
      show u.traces = _
      rw [ho, htraces]
  refine Runs.of_run_eq hrun (Runs.mono (P := RootsWritten u₁) ?_ (fun x hx => hx ▸ RootsWritten.refl u₁)
    (fun _ x hx => hopened.written hx) (fun x hx => hopened.written hx))
  -- the root record, then the handler's actions, write nothing the entry opened
  refine Runs.bind (recordRoot_runs_written _ _) fun _ => Runs.bind (recordRoot_runs_written _ _) fun _ => ?_
  exact handlerActions_root (fun _ _ hx => hx.note _) (fun t f => recordRoot_runs_written t f) h _ inv none _

/-- The outermost entry point whose handler starts nothing, or that finds the chain bound: the scope
is entered with nothing attached, and only the log and the journal change. -/
theorem entryBefore_run_declined (hw : w.EntryReady id) (hfree : w.slot id = none)
    (hf : ¬ (w.boundTrace = none ∧ h.starts = true)) :
    ∃ e u, (hookBefore (.entryPoint api st h) inv).run w = .ok (.error (.trace e)) u ∧
      RootsWritten (w.entered id) u := by
  have hd0 : w.depth id = 0 := by simp [World.depth, hfree]
  have hf' : ¬ ((w.entered id).boundTrace = none ∧ h.starts = true) := by
    rw [boundTrace_entered]
    exact hf
  obtain ⟨e, u, hu, hwritten⟩ := createTrace_run_failed inv hf'
  refine ⟨e, u, ?_, hwritten⟩
  simp only [hookBefore]
  rw [run_bind_ok (scopeId_run hw.2), run_bind_ok (scopeEnter_run hw.1 .boundary), hd0]
  simp only [ExecutionPolicy.allowsEnter, beq_self_eq_true, Bool.not_true, Bool.false_eq_true, ↓reduceIte]
  rw [run_bind_ok hu]
  rfl

/-- The last leave of the scope hands back the trace it held, and dropping it does nothing. -/
theorem entryLeave_run_last {t : TraceRef} (hup : w.chainUp = true) (hd : w.depth id = 1)
    (ha : w.attachment id = some (.trace t)) :
    (do dropMaybe (← scopeLeave id) : Agent Unit).run w = .ok () (w.left id) := by
  have hs : w.slot id ≠ none := fun hn => by simp [World.depth, hn] at hd
  rw [run_bind_ok (scopeLeave_run hup hs), if_pos (le_of_eq hd), ha, dropMaybe_trace_run]

/-- The last leave of the scope once its trace is sealed: the scope's slot goes, and with the chain
already unbound nothing is left to drop. -/
theorem entryLeave_runs_sealed {t : TraceRef} {ot : TraceObj} {E : World → Prop}
    (hw : w.EntryReady id) (hd : w.depth id = 1) (ha : w.attachment id = some (.trace t)) :
    Runs (fun x => Closed w t ot x ∧ x.chain = { w.chain with trace := none })
      (do dropMaybe (← scopeLeave id) : Agent Unit) (fun _ => Exited id w t ot) E := by
  intro x ⟨hclosed, hchain⟩
  have hslot : x.slot id = w.slot id := by simp only [World.slot, hchain]; rfl
  have hup : x.chainUp = true := by rw [chainUp_eq_of hclosed.here hclosed.gone, hw.1]
  have hdx : x.depth id = 1 := by rw [World.depth, hslot]; exact hd
  have hax : x.attachment id = some (.trace t) := by rw [World.attachment, hslot]; exact ha
  rw [entryLeave_run_last hup hdx hax]
  refine ⟨?_, ?_, slot_left_last (le_of_eq hdx)⟩
  · rw [left_eq]
    exact hclosed.of_tables rfl rfl rfl rfl rfl rfl
  · rw [boundTrace_left, World.boundTrace, hchain, if_pos hup]

/-- The tail of the outermost exit: the trace the chain still holds is unbound and closed. -/
theorem unbindClose_runs {t : TraceRef} {ot : TraceObj} (hb : w.boundTrace = some t)
    (ho : w.traces[t]? = some ot) (hc : ot.closed = false) (hbr : ot.branch? = none) :
    Runs (RootsWritten w) (do
        if !(← unbindIfBound t) then log (.warn "EntryPointInterceptor.After.NotBound")
        closeTrace t
        pure (.ok ()) : Agent (Except HookError Unit))
      (fun _ x => Closed w t ot x ∧ x.chain = { w.chain with trace := none })
      (fun x => Closed w t ot x ∧ x.chain = { w.chain with trace := none }) := by
  intro x hx
  have hbx : x.boundTrace = some t := by rw [hx.boundTrace, hb]
  set x₁ := x.withLocal x.here (some { x.chain with trace := none }) with hx₁
  have ho₁ : x₁.traces[t]? = some ot := by
    rw [hx₁, withLocal_eq]
    exact hx.traces ▸ ho
  -- the chain of the closed world is the unbound chain of x, and x kept the chain of w
  have hsealed : ∀ y, ClosedFrom x₁ t ot y → Closed w t ot y ∧ y.chain = { w.chain with trace := none } := by
    intro y hy
    refine ⟨hy.toClosed.of_written hx _ _, ?_⟩
    calc y.chain = x₁.chain := chain_eq_of_locals hy.locals hy.here
      _ = { x.chain with trace := none } := by rw [chain_eq_chainAt, hx₁, here_withLocal, chainAt_withLocal_self]; rfl
      _ = { w.chain with trace := none } := by rw [hx.chain]
  rw [run_bind_ok (unbindIfBound_run hbx)]
  simp only [Bool.not_true, Bool.false_eq_true, ↓reduceIte]
  exact Runs.bind (Runs.mono (closeTrace_runs_open ho₁ hc hbr) (fun _ h => h) (fun _ y hy => hsealed y hy)
    hsealed) (fun _ => Runs.pure _ fun _ h => h) x₁ rfl

/-- An exit that is not the outermost, or whose entry attached nothing, only leaves the scope. -/
theorem entryAfter_run_plain (hw : w.EntryReady id)
    (hplain : 1 < w.depth id ∨ (w.depth id = 1 ∧ w.attachment id = none)) (o : Outcome) :
    (hookAfter (.entryPoint api st h) inv o).run w = .ok (.ok ()) (w.left id) := by
  have hs : w.slot id ≠ none := fun hn => by
    rcases hplain with hd | ⟨hd, -⟩ <;> simp [World.depth, hn] at hd
  have hleave : (do dropMaybe (← scopeLeave id) : Agent Unit).run w = .ok () (w.left id) := by
    rw [run_bind_ok (scopeLeave_run hw.1 hs)]
    rcases hplain with hd | ⟨hd, ha⟩
    · rw [if_neg (by omega)]
      rfl
    · rw [if_pos (le_of_eq hd), ha]
      rfl
  simp only [hookAfter]
  rw [run_bind_ok (scopeId_run hw.2)]
  unfold guarded
  refine run_tryCatch_ok ?_
  rw [bind_assoc, run_bind_ok (scopeCanLeave_run hw.1 _)]
  rcases hplain with hd | ⟨hd, ha⟩
  · have hno : ExecutionPolicy.boundary.allowsLeave (w.depth id) = false := by
      simp only [ExecutionPolicy.allowsLeave, beq_eq_false_iff_ne]
      omega
    rw [hno]
    simp only [Bool.not_false, ↓reduceIte, pure_bind]
    rw [run_bind_ok hleave]
    rfl
  · rw [hd]
    simp only [ExecutionPolicy.allowsLeave, beq_self_eq_true, Bool.not_true, Bool.false_eq_true,
      ↓reduceIte]
    rw [bind_assoc, run_bind_ok (attachment_run hw.1 id), ha]
    dsimp only
    rw [pure_bind]
    rw [run_bind_ok hleave]
    rfl

theorem entryAfter_runs_closing {t : TraceRef} {ot : TraceObj} (hw : w.EntryReady id)
    (hd : w.depth id = 1) (ha : w.attachment id = some (.trace t)) (hb : w.boundTrace = some t)
    (ho : w.traces[t]? = some ot) (hc : ot.closed = false) (hbr : ot.branch? = none) (o : Outcome) :
    Runs (· = w) (hookAfter (.entryPoint api st h) inv o) (fun _ => Exited id w t ot)
      (Exited id w t ot) := by
  simp only [hookAfter]
  refine Runs.of_run_eq (run_bind_ok (scopeId_run hw.2)) ?_
  refine Runs.guarded (R := fun _ x => Closed w t ot x ∧ x.chain = { w.chain with trace := none })
    (F := fun x => Closed w t ot x ∧ x.chain = { w.chain with trace := none }) ?_ ?_ ?_
  · refine Runs.of_run_eq (run_bind_ok (scopeCanLeave_run hw.1 _)) ?_
    rw [hd]
    simp only [ExecutionPolicy.allowsLeave, beq_self_eq_true, Bool.not_true, Bool.false_eq_true,
      ↓reduceIte]
    refine Runs.of_run_eq (run_bind_ok (attachment_run hw.1 id)) ?_
    rw [ha]
    dsimp only
    refine Runs.bind (R := fun _ => RootsWritten w) (contain_runs (F := RootsWritten w)
      (Runs.mono (handlerActions_root (fun _ _ hx => hx.note _) (fun t f => recordRoot_runs_written t f)
        h t inv (some o) h.after) (fun x hx => hx ▸ RootsWritten.refl x) (fun _ _ hx => hx) fun _ hx => hx)
      fun _ _ hx => hx) fun r => ?_
    refine Runs.bind (Runs.mono (report_runs r (Q := fun _ => RootsWritten w))
      (fun x hx => ⟨hx, hx.log _⟩) (fun _ _ hx => hx) fun _ hx => hx) fun _ => ?_
    split
    · exact Runs.bind (recordRoot_runs_written t _) fun _ => unbindClose_runs hb ho hc hbr
    · exact unbindClose_runs hb ho hc hbr
  · exact fun _ => entryLeave_runs_sealed hw hd ha
  · exact entryLeave_runs_sealed hw hd ha

end Hooks

/-! ## Runs of entry points -/

/-- A run on one chain of the entry points of one context, as the registry makes it: runs one after
another, pairs whose `before` and `after` enclose the run nested in them, and the hooks of other
interceptors. -/
inductive EntryRun where
  | skip
  | seq (first rest : EntryRun)
  | pair (api : MethodDescriptor) (st : ServiceType) (h : Handler) (inv : Invocation)
      (outcome : Outcome) (inner : EntryRun)
  | hook (k : Agent (Except HookError Unit))

namespace EntryRun

/-- Each hook contained and its failure reported, as the registry dispatches it. -/
def run : EntryRun → Agent Unit
  | skip => pure ()
  | seq a b => do a.run; b.run
  | pair api st h inv o inner => do
    report (← contain (hookBefore (.entryPoint api st h) inv))
    inner.run
    report (← contain (hookAfter (.entryPoint api st h) inv o))
  | hook k => do report (← contain k)

/-- The hooks of other interceptors leave the entry scope `id` and the bound trace in place, however
they end. -/
def Keeps (id : Nat) : EntryRun → Prop
  | skip => True
  | seq a b => a.Keeps id ∧ b.Keeps id
  | pair _ _ _ _ _ inner => inner.Keeps id
  | hook k => ∀ w₀, Runs (InPlace id w₀) k (fun _ => InPlace id w₀) (InPlace id w₀)

end EntryRun

section Pairs

variable (api : MethodDescriptor) (st : ServiceType) (h : Handler) (inv : Invocation) (o : Outcome)

/-- A nested pair only counts its scope around its inner run. -/
theorem nestedPair_run {inner : EntryRun} (hw : w.EntryReady id) (hd : 0 < w.depth id)
    (hinner : Runs (InPlace id (w.entered id)) inner.run (fun _ => InPlace id (w.entered id))
      (fun _ => False)) :
    ∃ w', (EntryRun.pair api st h inv o inner).run.run w = .ok () w' ∧ InPlace id w w' := by
  let w₁ : World := { w.entered id with
    logs := (w.entered id).logs ++ [LogEvent.dbg "EntryPointInterceptor.Before.Nested"].toArray }
  have hbefore : (contain (hookBefore (.entryPoint api st h) inv)).run w = .ok (.ok ()) w₁ :=
    contain_run_ok (entryBefore_run_nested api st h inv hw hd)
  obtain ⟨⟨⟩, w₂, hrun₂, hk₂⟩ := Runs.exists_ok (Runs.from_world hinner
    (InPlace.of_chainsKept ⟨rfl, rfl, rfl, rfl, rfl⟩ : InPlace id (w.entered id) w₁))
  -- the inner run kept the nested entry counted, so the exit is not the outermost
  have hd₂ : w₂.depth id = w.depth id + 1 := by
    rw [hk₂.scopes.depth id rfl, depth_entered, if_pos rfl]
  have hafter : (contain (hookAfter (.entryPoint api st h) inv o)).run w₂ = .ok (.ok ()) (w₂.left id) :=
    contain_run_ok (entryAfter_run_plain api st h inv (hk₂.ready (hw.entered id)) (Or.inl (by omega)) o)
  refine ⟨w₂.left id, ?_, InPlace.around hk₂⟩
  simp only [EntryRun.run]
  rw [run_bind_ok hbefore, run_bind_ok (rfl : (report (.ok ())).run w₁ = .ok () w₁), run_bind_ok hrun₂,
    run_bind_ok hafter]
  rfl

end Pairs

/-- Inside an entry of scope `id`, a whole run never panics and leaves the scope and the bound trace
in place: nested pairs start nothing. -/
theorem EntryRun.run_inPlace {r : EntryRun} (hr : r.Keeps id) {w₀ : World} (hw : w₀.EntryReady id)
    (hd : 0 < w₀.depth id) :
    Runs (InPlace id w₀) r.run (fun _ => InPlace id w₀) (fun _ => False) := by
  induction r generalizing w₀ with
  | skip => exact Runs.pure _ fun _ h => h
  | seq a b iha ihb => exact Runs.bind (iha hr.1 hw hd) fun _ => ihb hr.2 hw hd
  | pair api st h inv o inner ih =>
    -- a pair started anywhere along the way finds the scope entered
    intro v hv
    have hdv : 0 < v.depth id := by rw [hv.scopes.depth id rfl]; exact hd
    have hinner := ih hr ((hv.ready hw).entered id) (by rw [depth_entered, if_pos rfl]; omega)
    obtain ⟨v', hrun, hk⟩ := nestedPair_run api st h inv o (hv.ready hw) hdv hinner
    rw [hrun]
    exact hv.trans hk
  | hook k => exact Runs.dispatched (hr w₀) fun _ hx => hx.log _

section Outermost

variable (api : MethodDescriptor) (st : ServiceType) (h : Handler) (inv : Invocation) (o : Outcome)

/-- The outermost pair whose handler starts a trace on a free chain: the trace it opens, the next one
of the table, stays bound and open through the inner run, and the exit unbinds it, closes it and
leaves the scope. -/
theorem outerPair_started {inner : EntryRun} (hw : w.EntryReady id) (hfree : w.slot id = none)
    (hb : w.boundTrace = none) (hs : h.starts = true) (hinner : inner.Keeps id) :
    ∃ w₁ w₂ w₃,
      (do report (← contain (hookBefore (.entryPoint api st h) inv)) : Agent Unit).run w = .ok () w₁ ∧
      inner.run.run w₁ = .ok () w₂ ∧
      (do report (← contain (hookAfter (.entryPoint api st h) inv o)) : Agent Unit).run w₂ = .ok () w₃ ∧
      Opened id w w₁ ∧ InPlace id w₁ w₂ ∧
      ∃ ot, w₂.traces[w.traces.size]? = some ot ∧ ot.closed = false ∧
        Exited id w₂ w.traces.size ot w₃ := by
  obtain ⟨⟨⟩, w₁, hrun₁, hopen⟩ := Runs.exists_ok (Runs.dispatched
    (entryBefore_runs_started api st h inv hw hfree hb hs) fun _ hx => hx.written ((RootsWritten.refl _).log _))
  have hw₁ : w₁.EntryReady id := hopen.ready hw
  obtain ⟨⟨⟩, w₂, hrun₂, hk⟩ := Runs.exists_ok (Runs.from_world
    (EntryRun.run_inPlace hinner hw₁ (by rw [hopen.depth]; omega)) (InPlace.refl w₁))
  -- what the entry opened is still there for the exit
  have hd₂ : w₂.depth id = 1 := by rw [hk.scopes.depth id rfl, hopen.depth]
  have ha₂ : w₂.attachment id = some (.trace w.traces.size) := by
    rw [hk.scopes.attachment id rfl rfl (by rw [hopen.depth]; omega), hopen.attachment]
  have hb₂ : w₂.boundTrace = some w.traces.size := by rw [hk.bound, hopen.bound]
  obtain ⟨o₁, htraces, hc₁, hbr₁⟩ := hopen.fresh
  have hplace : w₂.placeOf w.traces.size = some (false, o₁.span?, none) := by
    rw [hk.place _ hopen.bound, placeOf, htraces, Array.getElem?_push_size]
    simp [TraceObj.place, hc₁, hbr₁]
  obtain ⟨ot, ho, hc, -, hbr⟩ := exists_of_placeOf hplace
  obtain ⟨⟨⟩, w₃, hrun₃, hexit⟩ := Runs.exists_ok (Runs.dispatched
    (entryAfter_runs_closing api st h inv (hk.ready hw₁) hd₂ ha₂ hb₂ ho hc hbr o) fun _ hx => hx.log _)
  exact ⟨w₁, w₂, w₃, hrun₁, hrun₂, hrun₃, hopen, hk, ot, ho, hc, hexit⟩

/-- The outermost pair whose handler starts nothing, or that finds the chain bound: as a whole it
leaves the scope and the bound trace in place. -/
theorem outerPair_declined {inner : EntryRun} (hw : w.EntryReady id) (hfree : w.slot id = none)
    (hf : ¬ (w.boundTrace = none ∧ h.starts = true)) (hinner : inner.Keeps id) :
    ∃ w₁ w₂,
      (do report (← contain (hookBefore (.entryPoint api st h) inv)) : Agent Unit).run w = .ok () w₁ ∧
      inner.run.run w₁ = .ok () w₂ ∧
      (do report (← contain (hookAfter (.entryPoint api st h) inv o)) : Agent Unit).run w₂ =
        .ok () (w₂.left id) ∧
      w₁.EntryReady id ∧ w₁.depth id = 1 ∧ InPlace id w (w₂.left id) := by
  obtain ⟨e, u, hu, hwritten⟩ := entryBefore_run_declined api st h inv hw hfree hf
  let w₁ : World := { u with logs := u.logs ++ [LogEvent.warn "Interceptor.Hook.Failed"].toArray }
  have hrun₁ : (do report (← contain (hookBefore (.entryPoint api st h) inv)) : Agent Unit).run w =
      .ok () w₁ := by
    rw [run_bind_ok (contain_run_ok hu)]
    rfl
  -- the entry counted the scope once and attached nothing
  have hk₁ : InPlace id (w.entered id) w₁ := InPlace.of_chainsKept (hwritten.log _).toChainsKept
  have hd₁ : w₁.depth id = 1 := by
    rw [hk₁.scopes.depth id rfl, depth_entered, if_pos rfl]
    simp [World.depth, hfree]
  obtain ⟨⟨⟩, w₂, hrun₂, hk₂⟩ := Runs.exists_ok (Runs.from_world
    (EntryRun.run_inPlace hinner (hk₁.ready (hw.entered id)) (by omega)) (InPlace.refl w₁))
  have hd₂ : w₂.depth id = 1 := by rw [hk₂.scopes.depth id rfl, hd₁]
  have ha₂ : w₂.attachment id = none := by
    rw [hk₂.scopes.attachment id rfl rfl (by omega), hk₁.scopes.attachment id rfl rfl
      (by rw [depth_entered, if_pos rfl]; omega), attachment_entered]
    simp [World.attachment, hfree]
  have hrun₃ : (do report (← contain (hookAfter (.entryPoint api st h) inv o)) : Agent Unit).run w₂ =
      .ok () (w₂.left id) := by
    rw [run_bind_ok (contain_run_ok (entryAfter_run_plain api st h inv
      ((hk₁.trans hk₂).ready (hw.entered id)) (Or.inr ⟨hd₂, ha₂⟩) o))]
    rfl
  exact ⟨w₁, w₂, hrun₁, hrun₂, hrun₃, hk₁.ready (hw.entered id), hd₁, InPlace.around (hk₁.trans hk₂)⟩

/-- While the outermost entry is counted, an entry point met anywhere the nested run keeps the scope
in place is nested: it only counts its entry, and starts no trace. -/
theorem entryBefore_run_within {w₁ v : World} (hw₁ : w₁.EntryReady id) (hd₁ : w₁.depth id = 1)
    (hv : InPlace id w₁ v) :
    (hookBefore (.entryPoint api st h) inv).run v =
      .ok (.ok ()) { v.entered id with
        logs := (v.entered id).logs ++ [LogEvent.dbg "EntryPointInterceptor.Before.Nested"].toArray } :=
  entryBefore_run_nested api st h inv (hv.ready hw₁) (by rw [hv.scopes.depth id rfl, hd₁]; exact Nat.one_pos)

/-- The lifecycle of an entry point. Take the outermost pair of entry points of one context on a
chain whose storage is up, around any run of nested pairs and of hooks that leave the scope and the
bound trace in place, with any handler and outcome. The pair never panics, and once it is done the
scope's slot is gone. Only the outermost `before` may start a trace: every entry point met while
the nested run keeps the scope in place only counts its entry. When the chain is free and the handler starts a trace, the trace `T` the
`before` binds, the next one of the table, stays bound and open through the inner run, and the
`after` unbinds it and closes it: `T`'s span gets back the trace's hold, and goes to the pipeline
if that was its last. Otherwise the trace bound before, if any, stays bound and is not closed. -/
theorem entry_point_lifecycle {inner : EntryRun} (hw : w.EntryReady id) (hfree : w.slot id = none)
    (hinner : inner.Keeps id) :
    ∃ w₁ w₂ w₃,
      (do report (← contain (hookBefore (.entryPoint api st h) inv)) : Agent Unit).run w = .ok () w₁ ∧
      inner.run.run w₁ = .ok () w₂ ∧
      (do report (← contain (hookAfter (.entryPoint api st h) inv o)) : Agent Unit).run w₂ = .ok () w₃ ∧
      w₃.slot id = none ∧
      (∀ v, InPlace id w₁ v → ∀ (api' : MethodDescriptor) (st' : ServiceType) (h' : Handler)
        (inv' : Invocation), (hookBefore (.entryPoint api' st' h') inv').run v =
          .ok (.ok ()) { v.entered id with
            logs := (v.entered id).logs ++ [LogEvent.dbg "EntryPointInterceptor.Before.Nested"].toArray }) ∧
      (w.boundTrace = none → h.starts = true →
        w₁.boundTrace = some w.traces.size ∧ w₂.boundTrace = some w.traces.size ∧
        w₃.boundTrace = none ∧
        ∃ ot, w₂.traces[w.traces.size]? = some ot ∧ ot.closed = false ∧
          Closed w₂ w.traces.size ot w₃) ∧
      (¬ (w.boundTrace = none ∧ h.starts = true) →
        w₃.boundTrace = w.boundTrace ∧ ∀ t, w.boundTrace = some t → w₃.placeOf t = w.placeOf t) := by
  by_cases hs : w.boundTrace = none ∧ h.starts = true
  · obtain ⟨w₁, w₂, w₃, hrun₁, hrun₂, hrun₃, hopen, hk, ot, ho, hc, hexit⟩ :=
      outerPair_started api st h inv o hw hfree hs.1 hs.2 hinner
    refine ⟨w₁, w₂, w₃, hrun₁, hrun₂, hrun₃, hexit.slot,
      fun v hv api' st' h' inv' => entryBefore_run_within api' st' h' inv' (hopen.ready hw) hopen.depth hv,
      fun _ _ => ?_, fun hf => absurd hs hf⟩
    exact ⟨hopen.bound, hk.bound.trans hopen.bound, hexit.unbound, ot, ho, hc, hexit.closed⟩
  · -- a declined pair is in place as a whole, and its scope had no slot before it
    obtain ⟨w₁, w₂, hrun₁, hrun₂, hrun₃, hw₁, hd₁, hk⟩ := outerPair_declined api st h inv o hw hfree hs hinner
    refine ⟨w₁, w₂, w₂.left id, hrun₁, hrun₂, hrun₃, hk.scopes.absent id rfl hfree,
      fun v hv api' st' h' inv' => entryBefore_run_within api' st' h' inv' hw₁ hd₁ hv,
      fun hb hst => absurd ⟨hb, hst⟩ hs, fun _ => ⟨hk.bound, hk.place⟩⟩

end Outermost

/-- On a fresh chain, the pair of a default handler around a nested pair of the same entry point
starts a trace and closes it. -/
theorem entry_point_lifecycle_nested :
    let w : World := { (default : World) with scopeNames := [(entryScopeName, 0)] }
    let inner : EntryRun := .pair default default default default default .skip
    w.EntryReady 0 ∧ w.slot 0 = none ∧ inner.Keeps 0 ∧
    ∃ w₁ w₂ w₃,
      (do report (← contain (hookBefore (.entryPoint default default default) default)) :
        Agent Unit).run w = .ok () w₁ ∧
      inner.run.run w₁ = .ok () w₂ ∧
      (do report (← contain (hookAfter (.entryPoint default default default) default default)) :
        Agent Unit).run w₂ = .ok () w₃ ∧
      w₃.slot 0 = none ∧
      (∀ v, InPlace 0 w₁ v → ∀ (api' : MethodDescriptor) (st' : ServiceType) (h' : Handler)
        (inv' : Invocation), (hookBefore (.entryPoint api' st' h') inv').run v =
          .ok (.ok ()) { v.entered 0 with
            logs := (v.entered 0).logs ++ [LogEvent.dbg "EntryPointInterceptor.Before.Nested"].toArray }) ∧
      (w.boundTrace = none → (default : Handler).starts = true →
        w₁.boundTrace = some w.traces.size ∧ w₂.boundTrace = some w.traces.size ∧
        w₃.boundTrace = none ∧
        ∃ ot, w₂.traces[w.traces.size]? = some ot ∧ ot.closed = false ∧
          Closed w₂ w.traces.size ot w₃) ∧
      (¬ (w.boundTrace = none ∧ (default : Handler).starts = true) →
        w₃.boundTrace = w.boundTrace ∧ ∀ t, w.boundTrace = some t → w₃.placeOf t = w.placeOf t) :=
  ⟨⟨rfl, rfl⟩, rfl, trivial,
    entry_point_lifecycle default default default default default ⟨rfl, rfl⟩ rfl trivial⟩

end Agent

end TraceAgent
