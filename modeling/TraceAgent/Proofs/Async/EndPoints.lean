import Mathlib
import TraceAgent.Proofs.Span.Shared
import TraceAgent.Proofs.Holds.Resume
import TraceAgent.Proofs.Traces.EntryPoint
import TraceAgent.Proofs.Calls.Dispatch

/-!
# The hooks of an async end point

An async end point resumes, on the calling chain, a branch of the async context its call carries,
and records one frame of the call on that branch. Its `before` resumes the branch, enters the
branch's own trace scope `calltrace.async-trace` and opens a frame, marked `ASYNC` when the scope
was entered from depth zero; its `after` seals the frame and leaves the scope, and the leave that
brings the scope back to zero unbinds the branch, closes it and reports it finished to the
context. The scope travels with the branch's trace, so nesting is counted per branch, whichever
chain runs it.

A hook's calls on its branch's frames are those of the frame machine (`Ran`): a `before` makes a
begin, the mark `ASYNC` on the outermost frame and its handler's writes (`EndPoint.opening`); an
`after` makes the method's write, its handler's writes, the error's write and an end
(`EndPoint.sealing`). Nothing beside the branch changes, but for what the outermost `after` does
to the chain and the context (`World.besides`).

* `before_runs_resumed`: a `before` whose context resumes a branch opens a frame on it.
* `after_run_nested`: an `after` below the outermost one seals the top frame and leaves the scope.
* `after_run_outermost`: the outermost `after` also unbinds the branch, closes it and reports it
  finished; the context gives its holds back to the span (`giveBack`).

A fresh resume joins the branch's new trace, with no frame open, to the writers of its span and
counts its hold on the span (`Tracking.resume`): the law of a shared span goes on over the
interleavings the new branch takes part in.

The pieces are the branch's trace scope (`TraceObj.enterScope`, `TraceObj.leaveScope`), the
handler's actions on a frame (`handlerActions_event`), the context's view of the calling chain
(`currentAsync_run_branch`) and the report of a finished branch (`finishAsync_run`).
-/

namespace TraceAgent

open LogicalStack

namespace TraceObj

/-- The depth of a named trace scope; zero for a scope never entered. -/
def scopeDepth (o : TraceObj) (name : String) : Nat := ((o.scope? name).map (·.depth)).getD 0

/-- The trace once the named scope is entered: one level deeper, made at depth one the first
time. -/
def enterScope (o : TraceObj) (name : String) : TraceObj :=
  match o.scope? name with
  | some _ => { o with scopes := o.scopes.map fun x => if x.name == name then { x with depth := x.depth + 1 } else x }
  | none => { o with scopes := o.scopes ++ [{ name, depth := 1 }] }

/-- The trace once the named scope is left, one level up. -/
def leaveScope (o : TraceObj) (name : String) : TraceObj :=
  { o with scopes := o.scopes.map fun x => if x.name == name then { x with depth := x.depth - 1 } else x }

/-- Changing every scope of one name, keeping its name, changes the first of them. -/
theorem scope?_map (scopes : List TraceScope) (name : String) {g : TraceScope → TraceScope}
    (hg : ∀ x, (g x).name = x.name) :
    (scopes.map fun x => if x.name == name then g x else x).find? (·.name == name) =
      (scopes.find? (·.name == name)).map g := by
  induction scopes with
  | nil => rfl
  | cons x rest ih =>
    by_cases hx : x.name = name
    · simp [hx, hg]
    · have hne : (x.name == name) = false := by simpa using hx
      simp only [List.map_cons, List.find?_cons, ih, hne, Bool.false_eq_true, ↓reduceIte]

@[simp] theorem enterScope_kind (o : TraceObj) (name : String) : (o.enterScope name).kind = o.kind := by
  unfold enterScope
  split <;> rfl

@[simp] theorem enterScope_closed (o : TraceObj) (name : String) : (o.enterScope name).closed = o.closed := by
  unfold enterScope
  split <;> rfl

@[simp] theorem leaveScope_kind (o : TraceObj) (name : String) : (o.leaveScope name).kind = o.kind := rfl

@[simp] theorem leaveScope_closed (o : TraceObj) (name : String) : (o.leaveScope name).closed = o.closed := rfl

theorem scopeDepth_enterScope (o : TraceObj) (name : String) :
    (o.enterScope name).scopeDepth name = o.scopeDepth name + 1 := by
  unfold enterScope scopeDepth
  cases hs : o.scope? name with
  | some s =>
    simp only [scope?] at hs ⊢
    rw [scope?_map _ _ (g := fun x => { x with depth := x.depth + 1 }) fun _ => rfl, hs]
    rfl
  | none =>
    simp only [scope?] at hs ⊢
    rw [List.find?_append, hs]
    simp

theorem scopeDepth_leaveScope (o : TraceObj) (name : String) :
    (o.leaveScope name).scopeDepth name = o.scopeDepth name - 1 := by
  unfold leaveScope scopeDepth
  simp only [scope?]
  rw [scope?_map _ _ (g := fun x => { x with depth := x.depth - 1 }) fun _ => rfl]
  cases (o.scopes.find? (·.name == name)) <;> rfl

/-- Leaving a scope entered before undoes the entry. -/
theorem leaveScope_enterScope {o : TraceObj} {name : String} (h : 0 < o.scopeDepth name) :
    (o.enterScope name).leaveScope name = o := by
  have hs : (o.scope? name).isSome := by
    cases hs : o.scope? name with
    | none => simp [scopeDepth, hs] at h
    | some _ => rfl
  obtain ⟨s, hs⟩ := Option.isSome_iff_exists.1 hs
  rcases o with ⟨kind, closed, scopes⟩
  simp only [enterScope, hs, leaveScope, List.map_map, TraceObj.mk.injEq, true_and]
  conv_rhs => rw [← List.map_id scopes]
  refine List.map_congr_left fun ⟨xn, xd⟩ _ => ?_
  by_cases hx : xn = name <;> simp [hx]

end TraceObj

namespace Agent

variable {w : World} {t : TraceRef} {o : TraceObj}

theorem trace_run_of (ht : w.traces[t]? = some o) : (trace t).run w = .ok o w := by
  show EStateM.Result.ok (w.traces[t]?.getD default) w = _
  rw [ht, Option.getD_some]

/-- Entering a trace scope: `true` exactly when it was at depth zero. -/
theorem traceScopeEnter_run_depth (ht : w.traces[t]? = some o) (name : String) :
    (traceScopeEnter t name).run w =
      .ok (o.scopeDepth name == 0) { w with traces := w.traces.set! t (o.enterScope name) } := by
  unfold traceScopeEnter
  rw [run_bind_ok (trace_run_of ht)]
  cases hs : o.scope? name with
  | some s =>
    have hd : o.scopeDepth name = s.depth := by simp [TraceObj.scopeDepth, hs]
    simp only [TraceObj.enterScope, hs, hd]
    rfl
  | none =>
    have hd : o.scopeDepth name = 0 := by simp [TraceObj.scopeDepth, hs]
    simp only [TraceObj.enterScope, hs, hd]
    rfl

/-- Leaving a trace scope entered before: `true` exactly when it was at depth one. -/
theorem traceScopeLeave_run_depth (ht : w.traces[t]? = some o) {name : String} (hd : 0 < o.scopeDepth name) :
    (traceScopeLeave t name).run w =
      .ok (some (o.scopeDepth name == 1)) { w with traces := w.traces.set! t (o.leaveScope name) } := by
  unfold traceScopeLeave
  rw [run_bind_ok (trace_run_of ht)]
  cases hs : o.scope? name with
  | none => simp [TraceObj.scopeDepth, hs] at hd
  | some s =>
    have hsd : o.scopeDepth name = s.depth := by simp [TraceObj.scopeDepth, hs]
    have hne : (s.depth == 0) = false := beq_eq_false_iff_ne.2 (by omega)
    simp only [hne, hsd, Bool.false_eq_true, ↓reduceIte]
    rfl

/-! ## The context's side -/

variable {a : AsyncRef} {sp : SpanRef} {tid : TraceId} {aid : AsyncId} {n : UInt32} {hs : Holds} {refs : Nat}

/-- On a chain bound to a branch of its span, a recording context finds that branch. -/
theorem currentAsync_run_branch (hc : w.asyncs[a]? = some ⟨.recording sp tid aid n hs, refs⟩)
    (hb : w.boundTrace = some t) (ho : w.traces[t]? = some o) (hasync : o.isAsync = true)
    (hsp : o.span? = some sp) : (currentAsync a).run w = .ok (some t) w := by
  unfold currentAsync
  rw [run_bind_ok (asyncObj_run_of hc), run_bind_ok (currentRaw_run_bound w), hb]
  rw [run_bind_ok (trace_run_of ho)]
  dsimp only
  rw [run_bind_ok (rfl : (ownsBranch sp t).run w = .ok _ w)]
  simp [ho, hasync, hsp]

/-- On an unbound chain a context finds no branch. -/
theorem currentAsync_run_unbound (hb : w.boundTrace = none) : (currentAsync a).run w = .ok none w := by
  unfold currentAsync
  rw [run_bind_ok (rfl : (asyncObj a).run w = .ok _ w), run_bind_ok (currentRaw_run_bound w), hb]
  rfl

end Agent

namespace Holds

/-- The holds once a branch is reported finished: one more finished, the creation hold given back,
and the span unpinned when nothing more is owed. -/
def finish (h : Holds) : Holds :=
  let h := { h with finished := h.finished + 1, creation := false }
  if h.settled then { h with pinned := false } else h

@[simp] theorem finish_finished (h : Holds) : h.finish.finished = h.finished + 1 := by
  unfold finish
  dsimp only
  split <;> rfl

@[simp] theorem finish_started (h : Holds) : h.finish.started = h.started := by
  unfold finish
  dsimp only
  split <;> rfl

@[simp] theorem finish_creation (h : Holds) : h.finish.creation = false := by
  unfold finish
  dsimp only
  split <;> rfl

end Holds

namespace Agent

variable {w : World} {a : AsyncRef} {sp : SpanRef} {tid : TraceId} {aid : AsyncId} {n : UInt32}
  {hs : Holds} {refs : Nat}

/-- A branch reported finished to a context with one running: the context counts it, and gives
back its hold and, the first time, the creation hold, as long as it pins the span. -/
theorem finishAsync_run (hc : w.asyncs[a]? = some ⟨.recording sp tid aid n hs, refs⟩)
    (hlt : hs.finished < hs.started) :
    (finishAsync a).run w =
      (do
        if hs.pinned then
          releaseSpan sp
          if hs.creation then releaseSpan sp
        pure true : Agent Bool).run { w with asyncs := w.asyncs.set! a ⟨.recording sp tid aid n hs.finish, refs⟩ } := by
  unfold finishAsync
  rw [run_bind_ok (asyncObj_run_of hc)]
  dsimp only
  rw [if_neg (by omega), run_bind_ok (setAsync_run _ _ _)]
  rfl

end Agent

/-- An entry into a scope reads only the trace's scopes: it commutes with a change of kind. -/
theorem TraceObj.enterScope_withKind (o : TraceObj) (k : TraceKind) (name : String) :
    ({ o with kind := k } : TraceObj).enterScope name = { o.enterScope name with kind := k } := by
  have hs : ({ o with kind := k } : TraceObj).scope? name = o.scope? name := rfl
  unfold enterScope
  rw [hs]
  cases o.scope? name <;> rfl

namespace FrameMachine

variable {limit : Nat} {br : Option LocalAsyncId}

theorem run_append (xs ys : List StackCall) (q : FrameMachine) :
    (run limit br (xs ++ ys) q).2 = (run limit br ys (run limit br xs q).2).2 := by
  induction xs generalizing q with
  | nil => rfl
  | cons c cs ih => exact ih _

/-- Writes land, in order, in the top frame when it is recorded, and leave the span alone. -/
theorem run_writes (ws : List FrameWrite) (q : FrameMachine) :
    (run limit br ((ws.map FrameCall.write).map FrameCall.toStack) q).2 =
      ⟨write (·.written ws) q.stack, q.span⟩ := by
  induction ws generalizing q with
  | nil =>
    have hid : (fun e : SpanEvent => e.written []) = id := funext SpanEvent.written_nil
    rw [List.map_nil, List.map_nil, run_nil, hid, write_id]
  | cons fw ws ih =>
    have hcomp : (fun e : SpanEvent => e.written (fw :: ws)) = (fun e => e.written ws) ∘ fw.apply :=
      funext fun e => SpanEvent.written_cons e fw ws
    rw [List.map_cons, List.map_cons, run_cons, ih, hcomp, ← write_comp]
    rfl

end FrameMachine

namespace World

/-- What a hook on branch `t` leaves alone: the other traces, the async contexts, the chains'
state, the calling thread, the threads torn down and the settings. -/
def besides (w : World) (t : TraceRef) :
    (TraceRef → Option TraceObj) × Array AsyncObj × List (Thread × ChainLocal) × Thread × List Thread ×
      Settings :=
  (w.others t, w.asyncs, w.locals, w.here, w.gone, w.settings)

/-- The world with the calling chain unbound from its trace. -/
def unbound (w : World) : World := w.withLocal w.here (some { w.chain with trace := none })

theorem besides_withAsyncs {w w' : World} {t : TraceRef} (h : w.besides t = w'.besides t) (A : Array AsyncObj) :
    ({ w with asyncs := A } : World).besides t = ({ w' with asyncs := A } : World).besides t := by
  simp only [besides, Prod.mk.injEq] at h ⊢
  exact ⟨h.1, trivial, h.2.2⟩

theorem locals_withLocal_congr {w w' : World} (hl : w.locals = w'.locals) (th : Thread) (c : Option ChainLocal) :
    (w.withLocal th c).locals = (w'.withLocal th c).locals := by
  unfold withLocal
  rw [hl]
  split
  · split <;> rfl
  · rfl

theorem besides_unbound {w w' : World} {t : TraceRef} (h : w.besides t = w'.besides t) :
    w.unbound.besides t = w'.unbound.besides t := by
  simp only [besides, Prod.mk.injEq] at h
  obtain ⟨ho, ha, hl, hh, hg, hs⟩ := h
  have hc : w.chain = w'.chain := chain_eq_of_locals hl hh
  have hlocals : w.unbound.locals = w'.unbound.locals := by
    rw [unbound, unbound, hc, hh]
    exact locals_withLocal_congr hl _ _
  rw [unbound, unbound, withLocal_eq w, withLocal_eq w'] at hlocals ⊢
  simp only [besides, Prod.mk.injEq]
  exact ⟨ho, ha, hlocals, hh, hg, hs⟩

theorem boundTrace_unbound (w : World) : ({ w.unbound with asyncs := A } : World).boundTrace = none := by
  show w.unbound.boundTrace = none
  unfold boundTrace
  split
  · rw [unbound, chain_eq_chainAt, here_withLocal, chainAt_withLocal_self]
    rfl
  · rfl

theorem boundTrace_withLocal_here (w : World) (c : ChainLocal) (hup : w.chainUp = true) :
    (w.withLocal w.here (some c)).boundTrace = c.trace := by
  rw [boundTrace_of_up (by rw [chainUp_withLocal]; exact hup), chain_eq_chainAt, here_withLocal,
    chainAt_withLocal_self]
  rfl

theorem boundTrace_eq_of_besides {w v : World} {t : TraceRef} (h : v.besides t = w.besides t) :
    v.boundTrace = w.boundTrace := by
  simp only [besides, Prod.mk.injEq] at h
  obtain ⟨-, -, hl, hh, hg, -⟩ := h
  simp only [boundTrace, chainUp_eq_of hh hg, chain_eq_of_locals hl hh]

end World

namespace Agent

theorem beside_besides (t : TraceRef) : Beside t (World.besides · t) where
  spans _ _ := rfl
  logs _ _ := rfl
  trace w v := by
    unfold World.besides
    rw [show ({ w with traces := w.traces.set! t v } : World).others t = w.others t from
      (beside_others t).trace w v]

section Branch

variable {t : TraceRef} {o : TraceObj} {sp : SpanRef} {br : Option LocalAsyncId} {m : Nat}
  {w v : World} {q : FrameMachine} {st : CallStack}

/-- A change of the trace's own scopes, its stack and span as they were. -/
theorem Tracks.rescope (h : Tracks t o sp br m w q st) {p : TraceObj} (hc : p.closed = o.closed) :
    Tracks t p sp br m { w with traces := w.traces.set! t { p with kind := .recording sp br st } } q st where
  trace := h.traces_set _
  notClosed := hc.trans h.notClosed
  limit := h.limit
  wellFormed := h.wellFormed
  view := h.view
  span := h.span

/-- The branch `t` has made the calls `cs` on its frames since the world `w`, where its machine
was in state `q`: the world is in the state the calls lead to, `o` the rest of the trace, and
nothing beside the branch changed, nor the pipeline. -/
def Ran (t : TraceRef) (o : TraceObj) (sp : SpanRef) (br : Option LocalAsyncId) (m : Nat) (w : World)
    (q : FrameMachine) (cs : List FrameCall) (v : World) : Prop :=
  ∃ st, Tracks t o sp br m v (FrameMachine.run m br (cs.map FrameCall.toStack) q).2 st ∧
    v.besides t = w.besides t ∧ v.pipeline = w.pipeline

namespace Ran

variable {cs : List FrameCall}

theorem nil (h : Tracks t o sp br m v q st) (hb : v.besides t = w.besides t) (hp : v.pipeline = w.pipeline) :
    Ran t o sp br m w q [] v :=
  ⟨st, h, hb, hp⟩

theorem call (h : Ran t o sp br m w q cs v) (c : FrameCall) :
    ∃ v', (c.perform t).run v = .ok () v' ∧ Ran t o sp br m w q (cs ++ [c]) v' := by
  obtain ⟨st, ht, hb, hp⟩ := h
  obtain ⟨v', st', hrun, ht'⟩ := ht.frameCall_step c
  refine ⟨v', hrun, st', ?_, ((frameCall_keeps (beside_besides t) c).run_ok hrun).trans hb,
    ((frameCall_keeps (beside_pipeline t) c).run_ok hrun).trans hp⟩
  rw [List.map_append, FrameMachine.run_append]
  exact ht'

theorem blockBegin (h : Ran t o sp br m w q cs v) :
    ∃ v', (Agent.blockBegin t).run v = .ok ⟨t, true⟩ v' ∧ Ran t o sp br m w q (cs ++ [.blockBegin]) v' := by
  obtain ⟨st, ht, hb, hp⟩ := h
  obtain ⟨v', st', hrun, ht'⟩ := ht.blockBegin_step
  refine ⟨v', hrun, st', ?_, ((blockBegin_keeps (beside_besides t)).run_ok hrun).trans hb,
    ((blockBegin_keeps (beside_pipeline t)).run_ok hrun).trans hp⟩
  rw [List.map_append, FrameMachine.run_append]
  exact ht'

theorem blockEnd (h : Ran t o sp br m w q cs v) :
    ∃ v', (Agent.blockEnd t).run v =
        .ok (if (FrameMachine.run m br (cs.map FrameCall.toStack) q).2.stack.isEmpty then
          .error .emptyCallStack else .ok ()) v' ∧
      Ran t o sp br m w q (cs ++ [.blockEnd]) v' := by
  obtain ⟨st, ht, hb, hp⟩ := h
  obtain ⟨v', st', hrun, ht'⟩ := ht.blockEnd_step
  refine ⟨v', hrun, st', ?_, ((blockEnd_keeps (beside_besides t)).run_ok hrun).trans hb,
    ((blockEnd_keeps (beside_pipeline t)).run_ok hrun).trans hp⟩
  rw [List.map_append, FrameMachine.run_append]
  exact ht'

/-- Runs of the branch that went on with metadata writes after the calls `pre`. -/
def Writing (t : TraceRef) (o : TraceObj) (sp : SpanRef) (br : Option LocalAsyncId) (m : Nat) (w : World)
    (q : FrameMachine) (pre : List FrameCall) (v : World) : Prop :=
  ∃ ws : List FrameWrite, Ran t o sp br m w q (pre ++ ws.map .write) v

theorem writing_note {pre : List FrameCall} (v : World) (line : String) :
    Writing t o sp br m w q pre v → Writing t o sp br m w q pre { v with journal := v.journal.push line } :=
  fun ⟨ws, st, ht, hb, hp⟩ => ⟨ws, st, { ht with }, hb, hp⟩

theorem writing_warn {pre : List FrameCall} (v : World) :
    Writing t o sp br m w q pre v →
      Writing t o sp br m w q pre { v with logs := v.logs ++ [LogEvent.warn "Interceptor.Hook.Failed"].toArray } :=
  fun ⟨ws, st, ht, hb, hp⟩ => ⟨ws, st, { ht with }, hb, hp⟩

theorem writing_write (pre : List FrameCall) (fw : FrameWrite) :
    Runs (Writing t o sp br m w q pre) (fw.perform ⟨t, true⟩) (fun _ => Writing t o sp br m w q pre)
      (Writing t o sp br m w q pre) := by
  rintro v ⟨ws, h⟩
  obtain ⟨v', hrun, h'⟩ := h.call (.write fw)
  have hperform : (FrameCall.write fw).perform t = fw.perform ⟨t, true⟩ := rfl
  rw [hperform] at hrun
  rw [hrun]
  refine ⟨ws ++ [fw], ?_⟩
  rwa [List.map_append, ← List.append_assoc]

end Ran

end Branch

end Agent

/-- A call through an async end point: the method, the handler, the call's invocation, and how
the call ended, which the `after` hook is told. -/
structure EndPoint where
  api : MethodDescriptor
  handler : Handler
  inv : Invocation
  outcome : Outcome

namespace EndPoint

def interceptor (e : EndPoint) : Interceptor := .asyncEndPoint e.api e.handler

/-- The end point resumes the async context `a` and starts no hand-off of its own. -/
structure Of (a : AsyncRef) (e : EndPoint) : Prop where
  context : Agent.endPointContext e.handler e.inv = some a
  handsOff : e.handler.handsOff = false

/-- The calls a `before` makes on its branch's frames ahead of its handler's writes: a begin, and
the mark `ASYNC` on the frame of the outermost entry. -/
def opening (outermost : Bool) : List FrameCall :=
  .blockBegin :: if outermost then [.write (.serviceType .async)] else []

/-- The calls an `after` makes on its branch's frames around its handler's writes `ws`: the method
first, then the call's error if any, and the end. -/
def sealing (e : EndPoint) (ws : List FrameWrite) : List FrameCall :=
  .write (.api e.api) :: ws.map .write ++ [.write (.exception e.outcome.error?), .blockEnd]

end EndPoint

/-- A hook of an end point as the registry runs it: a failure or a panic of the hook goes no
further than a warning. -/
inductive Hook where
  | before (e : EndPoint)
  | after (e : EndPoint)

namespace Hook

def endPoint : Hook → EndPoint
  | before e | after e => e

def dispatch : Hook → Agent Unit
  | before e => do Agent.report (← Agent.contain (Agent.hookBefore e.interceptor e.inv))
  | after e => do Agent.report (← Agent.contain (Agent.hookAfter e.interceptor e.inv e.outcome))

end Hook

/-- The writers once trace `t`, not among them, joins them with no frame open, writing with limit
`limit` on branch `br`, and the span is `s`. -/
def Writers.join (Q : Writers) (t : TraceRef) (ht : t ∉ Q.refs) (limit : Nat) (br : Option LocalAsyncId)
    (s : SpanState) : Writers where
  refs := t :: Q.refs
  refs_nodup := List.nodup_cons.2 ⟨ht, Q.refs_nodup⟩
  writer := Function.update Q.writer t ⟨limit, br, some []⟩
  span := s

/-- A writer joining holds no frame open. -/
theorem Writers.join_allOpen (Q : Writers) {t : TraceRef} (ht : t ∉ Q.refs) (limit : Nat)
    (br : Option LocalAsyncId) (s : SpanState) : (Q.join t ht limit br s).allOpen = Q.allOpen := by
  have hothers : ∀ u ∈ Q.refs,
      (Function.update Q.writer t ⟨limit, br, some []⟩ u).openFrames = (Q.writer u).openFrames :=
    fun u hu => by rw [Function.update_of_ne (fun he : u = t => ht (he ▸ hu))]
  simp only [Writers.allOpen, Writers.join, List.flatMap_cons, Function.update_self]
  rw [List.flatMap_congr hothers]
  rfl

/-- A span the writers' hold on survives a hold taken on it: its frames and counters are those
it had. -/
theorem SpanState.Logged.acquire {s v : SpanState} {past : List SpanEvent} (h : s.Logged past)
    (hv : s.acquire = some v) : v.Logged past := by
  rw [SpanState.acquire_eq hv]
  exact ⟨h.events, h.dropped⟩

namespace Agent

section Join

variable {sp : SpanRef} {w : World} {Q : Writers} {a : AsyncRef} {tid : TraceId} {aid : AsyncId}
  {br : UInt32} {hs : Holds} {refs : Nat}

/-- The traces writing into a span are in the table: the next trace made is not among them. -/
theorem Tracking.size_not_mem (h : Tracking sp w Q) : w.traces.size ∉ Q.refs := fun hm => by
  obtain ⟨o, st, ho⟩ := (h.writers _ hm).recording
  rw [Array.getElem?_eq_none (Nat.le_refl _)] at ho
  cases ho

/-- A fresh resume of a branch of the span joins the branch's new trace to the writers, with no
frame open, as the hold it takes is counted on the span; it hands nothing over. The writers' law
then goes on over every interleaving that the new branch takes part in. -/
theorem Tracking.resume (h : Tracking sp w Q) (hc : w.asyncs[a]? = some ⟨.recording sp tid aid br hs, refs⟩)
    (hup : w.chainUp = true) (hb : w.chain.trace = none) (hreach : (spanReachable sp).run w = .ok true w)
    {v : SpanState} (hv : Q.span.acquire = some v) :
    (continueAsync a).run w = .ok (some w.traces.size) (resumedWorld w a sp tid aid br hs refs v) ∧
      Tracking sp (resumedWorld w a sp tid aid br hs refs v)
        (Q.join w.traces.size h.size_not_mem w.settings.maxCallStackDepth (some ⟨aid, br + 1⟩) v) ∧
      (resumedWorld w a sp tid aid br hs refs v).pipeline = w.pipeline := by
  have hv' : (w.spans[sp]?.getD default).acquire = some v := by rw [h.span]; exact hv
  have hspan : (resumedWorld w a sp tid aid br hs refs v).spans[sp]? = some v := by
    rw [resumedWorld, World.spans_withLocal]
    exact Array.getElem?_set!_self_of_some h.span v
  have htraces : (resumedWorld w a sp tid aid br hs refs v).traces = w.traces.push (branchTrace sp aid (br + 1) w) := by
    rw [resumedWorld, World.traces_withLocal]
  refine ⟨continueAsync_run_fresh hc hup hb hreach hv', ⟨hspan, fun u hu => ?_⟩, by rw [resumedWorld, World.pipeline_withLocal]⟩
  rcases List.mem_cons.1 hu with rfl | hold
  · -- the branch's trace, just made
    simp only [Writers.join, Function.update_self]
    exact .live (Tracks.fresh (o := branchTrace sp aid (br + 1) w)
      (by rw [htraces, Array.getElem?_push_size]; rfl) rfl hspan)
  · -- a writer already there: its entry is untouched
    have hne : u ≠ w.traces.size := fun he => h.size_not_mem (he ▸ hold)
    simp only [Writers.join, Function.update_of_ne hne]
    exact (h.writers u hold).frame (by rw [htraces, Array.getElem?_push, if_neg hne]) hspan

end Join

section Hooks

variable {t : TraceRef} {o : TraceObj} {sp : SpanRef} {br : LocalAsyncId} {m : Nat}
  {w v : World} {q : FrameMachine} {st : CallStack}

/-- What a `before` does once its branch is bound: it enters the branch's scope, opens a frame,
marks it `ASYNC` when the scope was entered from depth zero, and runs the handler on it. -/
theorem opens_runs (h : Tracks t o sp (some br) m v q st) {hnd : Handler} (hh : hnd.handsOff = false)
    (inv : Invocation) :
    Runs (· = v) (do
        let outermost ← traceScopeEnter t asyncScopeName
        let r ← blockBegin t
        if outermost then r.recordServiceType .async
        handlerActions hnd (.event r) inv none hnd.before)
      (fun _ => Ran.Writing t (o.enterScope asyncScopeName) sp (some br) m v q
        (EndPoint.opening (o.scopeDepth asyncScopeName == 0)))
      (Ran.Writing t (o.enterScope asyncScopeName) sp (some br) m v q
        (EndPoint.opening (o.scopeDepth asyncScopeName == 0))) := by
  intro _ hv
  rw [hv]
  have henter := traceScopeEnter_run_depth h.trace asyncScopeName
  rw [TraceObj.enterScope_withKind] at henter
  have h₁ := h.rescope (p := o.enterScope asyncScopeName) (by simp)
  obtain ⟨v₂, hbegin, hran⟩ := (Ran.nil h₁ ((beside_besides t).trace v _) rfl).blockBegin
  have hd : ({ o with kind := .recording sp (some br) st } : TraceObj).scopeDepth asyncScopeName =
      o.scopeDepth asyncScopeName := rfl
  rw [run_bind_ok henter, run_bind_ok hbegin, hd]
  -- the mark on the outermost frame, then the handler's actions, each keeping the branch among
  -- the runs of writes
  have hact : ∀ {pre : List FrameCall} {v' : World}, Ran.Writing t (o.enterScope asyncScopeName) sp (some br) m v q pre v' →
      Runs (· = v') (handlerActions hnd (.event ⟨t, true⟩) inv none hnd.before)
        (fun _ => Ran.Writing t (o.enterScope asyncScopeName) sp (some br) m v q pre)
        (Ran.Writing t (o.enterScope asyncScopeName) sp (some br) m v q pre) := fun hw =>
    Runs.mono (handlerActions_event (fun v line => Ran.writing_note v line) (Ran.writing_write _) inv none
      (Handler.before_handsOff hh)) (fun _ hv => hv ▸ hw) (fun _ _ h => h) (fun _ h => h)
  cases hz : (o.scopeDepth asyncScopeName == 0)
  · exact hact ⟨[], by simpa [EndPoint.opening] using hran⟩ v₂ rfl
  · obtain ⟨v₃, hrun, hran₃⟩ := hran.call (.write (.serviceType .async))
    dsimp only
    rw [if_pos rfl, run_bind_ok (show (EventRecorder.recordServiceType ⟨t, true⟩ .async).run v₂ = .ok () v₃ from hrun)]
    exact hact ⟨[], by simpa [EndPoint.opening] using hran₃⟩ v₃ rfl

variable {a : AsyncRef} {tid : TraceId} {aid : AsyncId} {n : UInt32} {hs : Holds} {refs : Nat} {e : EndPoint}
  {E : World → Prop}

/-- A `before` whose context resumes the branch `t`, in the state `q` from the world `v₁`. -/
theorem before_runs_resumed {v₁ : World} (he : e.Of a) (hk : (continueAsync a).run v = .ok (some t) v₁)
    (h : Tracks t o sp (some br) m v₁ q st) :
    Runs (· = v) (Hook.before e).dispatch
      (fun _ => Ran.Writing t (o.enterScope asyncScopeName) sp (some br) m v₁ q
        (EndPoint.opening (o.scopeDepth asyncScopeName == 0))) E := by
  have hhook : Runs (· = v) (hookBefore e.interceptor e.inv)
      (fun _ => Ran.Writing t (o.enterScope asyncScopeName) sp (some br) m v₁ q
        (EndPoint.opening (o.scopeDepth asyncScopeName == 0)))
      (Ran.Writing t (o.enterScope asyncScopeName) sp (some br) m v₁ q
        (EndPoint.opening (o.scopeDepth asyncScopeName == 0))) := by
    intro _ hv
    rw [hv]
    simp only [EndPoint.interceptor, hookBefore, he.context]
    rw [run_bind_ok hk]
    exact opens_runs h he.handsOff e.inv v₁ rfl
  exact Runs.dispatched hhook fun v hv => Ran.writing_warn v hv

/-- On a chain bound to a branch of the context's span, the context resumes that branch. -/
theorem continueAsync_run_own (hc : v.asyncs[a]? = some ⟨.recording sp tid aid n hs, refs⟩)
    (hb : v.boundTrace = some t) (ho : v.traces[t]? = some { o with kind := .recording sp (some br) st }) :
    (continueAsync a).run v = .ok (some t) v := by
  rw [continueAsync_run_bound hc hb, ho]
  simp [TraceObj.isAsync, TraceObj.span?]

theorem currentRecorder_run_recording (ho : v.traces[t]? = some { o with kind := .recording sp (some br) st }) :
    (currentRecorder t).run v = .ok ⟨t, true⟩ v := by
  change EStateM.Result.ok ({ owner := t, active := (v.traces[t]?.getD default).canSample } : EventRecorder) v = _
  rw [ho]
  rfl

/-- The part of an `after` up to the end of its frame: on the branch `t` bound to the chain, it
writes the method into the top frame, runs the handler there, writes the call's error, and seals
the frame; the hook goes on as if the end succeeded. -/
theorem seals_run (he : e.Of a) (h : Tracks t o sp (some br) m v q st) (hne : q.stack ≠ []) :
    ∃ v' ws, (∀ {β : Type} (rest : Except TraceError Unit → Agent β), (do
        let r ← currentRecorder t
        r.recordApi e.api
        report (← contain (handlerActions e.handler (.event r) e.inv (some e.outcome) e.handler.after))
        r.recordException e.outcome.error?
        let ended ← blockEnd t
        rest ended).run v = (rest (.ok ())).run v') ∧
      Ran t o sp (some br) m v q (e.sealing ws) v' := by
  obtain ⟨v₁, hapi, hran₁⟩ := (Ran.nil h rfl rfl).call (.write (.api e.api))
  -- the handler, contained, keeps the branch among the runs of writes
  have hact : Runs (· = v₁) (do report (← contain (handlerActions e.handler (.event ⟨t, true⟩) e.inv
      (some e.outcome) e.handler.after)))
      (fun _ => Ran.Writing t o sp (some br) m v q ([] ++ [.write (.api e.api)])) (fun _ => False) :=
    Runs.dispatched (Runs.mono (handlerActions_event (fun v line => Ran.writing_note v line)
        (Ran.writing_write _) e.inv (some e.outcome) (Handler.after_handsOff he.handsOff))
      (fun _ hv => hv ▸ ⟨[], by simpa using hran₁⟩) (fun _ _ h => h) (fun _ h => h))
      fun v hv => Ran.writing_warn v hv
  obtain ⟨_, v₂, hrun₂, ws, hran₂⟩ := Runs.exists_ok hact
  obtain ⟨v₃, hexc, hran₃⟩ := hran₂.call (.write (.exception e.outcome.error?))
  obtain ⟨v₄, hend, hran₄⟩ := hran₃.blockEnd
  -- the writes leave the frame on top, so the end finds one
  have hcalls : (([] ++ [FrameCall.write (.api e.api)] ++ ws.map FrameCall.write) ++
      [FrameCall.write (.exception e.outcome.error?)]) =
      ((FrameWrite.api e.api :: ws ++ [FrameWrite.exception e.outcome.error?]).map FrameCall.write) := by simp
  have hfull : (FrameMachine.run m (some br) ((([] ++ [FrameCall.write (.api e.api)] ++ ws.map FrameCall.write) ++
      [FrameCall.write (.exception e.outcome.error?)]).map FrameCall.toStack) q).2.stack.isEmpty = false := by
    rw [hcalls, FrameMachine.run_writes]
    cases hq : q.stack with
    | nil => exact absurd hq hne
    | cons x L => simp only [write_cons, List.isEmpty_cons]
  rw [hfull] at hend
  refine ⟨v₄, ws, fun rest => ?_, by simpa [EndPoint.sealing] using hran₄⟩
  rw [run_bind_ok (currentRecorder_run_recording h.trace)]
  rw [run_bind_ok (show (EventRecorder.recordApi ⟨t, true⟩ e.api).run v = .ok () v₁ from hapi)]
  rw [← bind_assoc, run_bind_ok hrun₂]
  rw [run_bind_ok (show (EventRecorder.recordException ⟨t, true⟩ e.outcome.error?).run v₂ = .ok () v₃ from hexc)]
  exact run_bind_ok hend

theorem dispatch_run_ok {k : Agent (Except HookError Unit)} {v' : World} (hk : k.run v = .ok (.ok ()) v') :
    (do report (← contain k)).run v = .ok () v' := by
  rw [run_bind_ok (contain_run_ok hk)]
  rfl

/-- An `after` on the branch bound to the chain, below the outermost entry: it seals the top
frame, written with the call's method, the handler's writes and the call's error, and leaves the
scope one level up. -/
theorem after_run_nested (he : e.Of a) (hc : v.asyncs[a]? = some ⟨.recording sp tid aid n hs, refs⟩)
    (hb : v.boundTrace = some t) (h : Tracks t o sp (some br) m v q st)
    (hd : 1 < o.scopeDepth asyncScopeName) (hne : q.stack ≠ []) :
    ∃ v' ws, (Hook.after e).dispatch.run v = .ok () v' ∧
      Ran t (o.leaveScope asyncScopeName) sp (some br) m v q (e.sealing ws) v' := by
  obtain ⟨v₄, ws, hseal, st₄, h₄, hb₄, hp₄⟩ := seals_run he h hne
  have hleave := traceScopeLeave_run_depth h₄.trace
    (show 0 < ({ o with kind := .recording sp (some br) st₄ } : TraceObj).scopeDepth asyncScopeName from
      Nat.zero_lt_of_lt hd)
  have hone : (({ o with kind := .recording sp (some br) st₄ } : TraceObj).scopeDepth asyncScopeName == 1) = false :=
    beq_eq_false_iff_ne.2 (Nat.ne_of_gt hd)
  rw [hone] at hleave
  refine ⟨_, ws, dispatch_run_ok ?_, st₄, h₄.rescope (p := o.leaveScope asyncScopeName) rfl,
    ((beside_besides t).trace v₄ _).trans hb₄, hp₄⟩
  simp only [EndPoint.interceptor, hookAfter, he.context]
  rw [run_bind_ok (currentAsync_run_branch hc hb h.trace rfl rfl)]
  refine (hseal _).trans ?_
  rw [run_bind_ok hleave]
  rfl

/-- What a branch reported finished gives back to the span, as long as the context pins it: its
own hold and, the first time, the creation hold. -/
def giveBack (hs : Holds) (sp : SpanRef) : Agent Unit :=
  if hs.pinned then do
    releaseSpan sp
    if hs.creation then releaseSpan sp
  else pure ()

theorem finishAsync_run_giveBack {β : Type} (hc : w.asyncs[a]? = some ⟨.recording sp tid aid n hs, refs⟩)
    (hlt : hs.finished < hs.started) (f : Bool → Agent β) :
    (finishAsync a >>= f).run w =
      (giveBack hs sp >>= fun _ => f true).run
        { w with asyncs := w.asyncs.set! a ⟨.recording sp tid aid n hs.finish, refs⟩ } := by
  rw [EStateM.run_bind, finishAsync_run hc hlt, ← EStateM.run_bind]
  unfold giveBack
  cases hs.pinned <;> cases hs.creation <;> simp

theorem dispatchedWorld_congr {k k' : Agent (Except HookError Unit)} {u : World} (h : k.run v = k'.run u) :
    dispatchedWorld k v = dispatchedWorld k' u := by
  unfold dispatchedWorld hookFails finalWorld
  rw [h]

/-- The outermost `after` on the branch bound to the chain: it seals the top frame as any `after`
does and leaves the scope at depth zero; it then unbinds the branch from the chain, closes it, and
reports it finished to the context, which counts it and gives its holds back to the span. -/
theorem after_run_outermost (he : e.Of a) (hc : v.asyncs[a]? = some ⟨.recording sp tid aid n hs, refs⟩)
    (hb : v.boundTrace = some t) (h : Tracks t o sp (some br) m v q st)
    (hd : o.scopeDepth asyncScopeName = 1) (hne : q.stack ≠ []) (hlt : hs.finished < hs.started) :
    ∃ u ws st', (Hook.after e).dispatch.run v = .ok () (dispatchedWorld (do giveBack hs sp; pure (.ok ())) u) ∧
      u.traces[t]? = some { o.leaveScope asyncScopeName with closed := true, kind := .recording sp (some br) st' } ∧
      st'.view = [] ∧
      u.spans[sp]? =
        some (FrameMachine.close (FrameMachine.run m (some br) ((e.sealing ws).map FrameCall.toStack) q).2).span ∧
      u.besides t = ({ v.unbound with asyncs := v.asyncs.set! a ⟨.recording sp tid aid n hs.finish, refs⟩ } : World).besides t ∧
      u.pipeline = v.pipeline := by
  obtain ⟨v₄, ws, hseal, st₄, h₄, hb₄, hp₄⟩ := seals_run he h hne
  have hleave := traceScopeLeave_run_depth h₄.trace
    (show 0 < ({ o with kind := .recording sp (some br) st₄ } : TraceObj).scopeDepth asyncScopeName by
      show 0 < o.scopeDepth asyncScopeName
      omega)
  have hone : (({ o with kind := .recording sp (some br) st₄ } : TraceObj).scopeDepth asyncScopeName == 1) = true := by
    rw [show ({ o with kind := .recording sp (some br) st₄ } : TraceObj).scopeDepth asyncScopeName =
      o.scopeDepth asyncScopeName from rfl, hd]
    rfl
  rw [hone] at hleave
  -- the scope is left: the branch is still bound, one level up
  set v₅ : World := { v₄ with
    traces := v₄.traces.set! t (({ o with kind := .recording sp (some br) st₄ } : TraceObj).leaveScope asyncScopeName) }
  have h₅ := h₄.rescope (p := o.leaveScope asyncScopeName) rfl
  have hb₅ : v₅.besides t = v.besides t := ((beside_besides t).trace v₄ _).trans hb₄
  -- unbinding touches only the chain store
  have h₆ : Tracks t (o.leaveScope asyncScopeName) sp (some br) m v₅.unbound
      (FrameMachine.run m (some br) ((e.sealing ws).map FrameCall.toStack) q).2 st₄ := by
    rw [World.unbound, World.withLocal_eq]
    exact { h₅ with }
  obtain ⟨w₇, hclose, htr₇, hsp₇, hbes₇⟩ := h₆.closeTrace_splits
  have hb₇ : w₇.besides t = v₅.unbound.besides t := hbes₇ (beside_besides t)
  have hasync₇ : w₇.asyncs = v.asyncs := by
    have h₇ := congrArg (fun x => x.2.1) hb₇
    have h₅' := congrArg (fun x => x.2.1) hb₅
    simp only [World.besides] at h₇ h₅'
    rw [h₇, World.unbound, World.withLocal_eq]
    exact h₅'
  have hc₇ : w₇.asyncs[a]? = some ⟨.recording sp tid aid n hs, refs⟩ := hasync₇ ▸ hc
  refine ⟨{ w₇ with asyncs := w₇.asyncs.set! a ⟨.recording sp tid aid n hs.finish, refs⟩ }, ws, st₄.drain.2,
    ?_, htr₇, CallStack.view_drain_snd st₄, hsp₇, ?_, ?_⟩
  · refine (dispatch_run _ v).trans (congrArg _ (dispatchedWorld_congr ?_))
    simp only [EndPoint.interceptor, hookAfter, he.context]
    rw [run_bind_ok (currentAsync_run_branch hc hb h.trace rfl rfl)]
    refine (hseal _).trans ?_
    rw [run_bind_ok hleave]
    dsimp only
    rw [pure_bind, if_pos rfl, run_bind_ok (unbindIfBound_run ((World.boundTrace_eq_of_besides hb₅).trans hb))]
    have hclose' : (closeTrace t).run (v₅.withLocal v₅.here (some { v₅.chain with trace := none })) =
        .ok () w₇ := hclose.trans rfl
    rw [run_bind_ok hclose', finishAsync_run_giveBack hc₇ hlt]
    rfl
  · rw [hasync₇]
    exact World.besides_withAsyncs (hb₇.trans (World.besides_unbound hb₅)) _
  · have hp₇ : w₇.pipeline = v₅.unbound.pipeline := hbes₇ (beside_pipeline t)
    rw [World.unbound, World.withLocal_eq] at hp₇
    exact hp₇.trans hp₄

end Hooks

end Agent

namespace EndPoint

/-- The writes a `before` makes into its frame ahead of its handler's. -/
def marks (outermost : Bool) : List FrameWrite := if outermost then [.serviceType .async] else []

theorem opening_append (outermost : Bool) (ws : List FrameWrite) :
    opening outermost ++ ws.map .write = .blockBegin :: (marks outermost ++ ws).map .write := by
  cases outermost <;> simp [opening, marks]

theorem sealing_eq (e : EndPoint) (ws : List FrameWrite) :
    e.sealing ws =
      (FrameWrite.api e.api :: ws ++ [FrameWrite.exception e.outcome.error?]).map FrameCall.write ++ [.blockEnd] := by
  simp [sealing]

end EndPoint

namespace FrameMachine

variable {limit : Nat} {br : Option LocalAsyncId}

/-- A begin and writes: the frame the begin opens, written, on top of the stack. -/
theorem run_opening (outermost : Bool) (ws : List FrameWrite) (q : FrameMachine) :
    (run limit br ((EndPoint.opening outermost ++ ws.map FrameCall.write).map FrameCall.toStack) q).2 =
      ⟨(opened limit q.span.nextSequence.toNat br q.stack).map (·.written (EndPoint.marks outermost ++ ws)) ::
          q.stack,
        if q.stack.length < limit then q.span.takeSequence.2 else q.span⟩ := by
  obtain ⟨L, s⟩ := q
  rw [EndPoint.opening_append, List.map_cons, run_cons, run_writes]
  simp only [FrameCall.toStack, step, write_cons]

/-- Writes and an end: the top frame, written, is sealed into the span. -/
theorem run_sealing (e : EndPoint) (ws : List FrameWrite) (x : Option SpanEvent) (L : LogicalStack)
    (s : SpanState) :
    (run limit br ((e.sealing ws).map FrameCall.toStack) ⟨x :: L, s⟩).2 =
      ⟨L, sealFrame s (x.map (·.written (FrameWrite.api e.api :: ws ++ [.exception e.outcome.error?])))⟩ := by
  rw [EndPoint.sealing_eq, List.map_append, run_append, run_writes]
  simp only [write_cons]
  rfl

end FrameMachine

namespace World

@[simp] theorem asyncs_withLocal (w : World) (th : Thread) (c : Option ChainLocal) :
    (w.withLocal th c).asyncs = w.asyncs := by
  rw [withLocal_eq]

theorem asyncs_eq_of_besides {w v : World} {t : TraceRef} (h : v.besides t = w.besides t) : v.asyncs = w.asyncs :=
  congrArg (fun x => x.2.1) h

end World

namespace Agent

section Keeps

variable {γ : Type} {f : World → γ}

theorem Quiet.pipeline_logs (hf : Quiet f) (hp : ∀ w p, f { w with pipeline := p } = f w) (x : World)
    (p : Pipeline FinishedSpan) (xs : Array LogEvent) : f { x with pipeline := p, logs := xs } = f x :=
  (hf.logs { x with pipeline := p } xs).trans (hp x p)

/-- Giving a hold back changes the spans, the logs and the pipeline only. -/
theorem releaseSpan_keeps (hf : Quiet f) (hp : ∀ w p, f { w with pipeline := p } = f w) (sp : SpanRef) :
    Keeps f (releaseSpan sp) := by
  unfold releaseSpan
  refine Keeps.bind (span_keeps sp) fun u => ?_
  refine Keeps.bind (setSpan_keeps hf sp _) fun _ => Keeps.bind (emit_keeps hf _) fun _ => ?_
  split
  · exact fun b => Runs.mono (handOver_runs_either _) (fun x hx => (hf.pipeline_logs hp x _ _).trans hx)
      (fun _ _ h => h) (fun _ h => h)
  · exact Keeps.pure _

theorem giveBack_keeps (hf : Quiet f) (hp : ∀ w p, f { w with pipeline := p } = f w) (hs : Holds) (sp : SpanRef) :
    Keeps f (giveBack hs sp) := by
  unfold giveBack
  split
  · refine Keeps.bind (releaseSpan_keeps hf hp sp) fun _ => ?_
    split
    · exact releaseSpan_keeps hf hp sp
    · exact Keeps.pure _
  · exact Keeps.pure _

/-- What the outermost `after` leaves once it has given holds back, returned or panicked. -/
theorem dispatched_giveBack (hf : Quiet f) (hp : ∀ w p, f { w with pipeline := p } = f w) (hs : Holds)
    (sp : SpanRef) (u : World) : f (dispatchedWorld (do giveBack hs sp; pure (.ok ())) u) = f u := by
  have hk : f (finalWorld (do giveBack hs sp; pure (.ok ()) : Agent (Except HookError Unit)) u) = f u :=
    (Keeps.bind (giveBack_keeps hf hp hs sp) fun _ => Keeps.pure _).finalWorld u
  unfold dispatchedWorld
  split
  · exact (hf.logs _ _).trans hk
  · exact hk

end Keeps

end Agent

end TraceAgent
