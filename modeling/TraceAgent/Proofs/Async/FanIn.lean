import Mathlib
import TraceAgent.Proofs.Async.Scripts
import TraceAgent.Proofs.Calls.RootSpan

/-!
# Fan-in: chains joining one span through its branches

Several chains resume branches of one recording async context, each running its script of end
points, in any interleaving in which no chain's outermost `after` comes before another chain's
outermost `before`. This module follows such a run hook by hook.

The state of the run is `FanIn.Fan`: where each chain stands (`ChainAt`: not resumed yet, on its
branch part way through its script, or done), the chains that resumed (`order`) and those that
finished (`fin`), and the span. The span stays open, keeps its trace id, root record and capacity
(`SpanState.Kept`), holds one hold for the context until a chain finished and one for each chain
still on its branch, and has been offered the frames it had before and then the frames the
branches sealed (`SpanState.Logged`). A chain's branch is numbered by its place in `order`
(`FanIn.tag`), so branches never share a number below the counter's wrap (`FanIn.tag_ne`), and
the frames sealed under a chain's number are as many as its hooks so far record (`OnBranch`).

One lemma per kind of hook keeps `Fan`:

* `Fan.start`: a chain's outermost `before`, while no chain finished, resumes a fresh branch
  numbered next, takes a hold on the span and opens the branch's first frame.
* `Fan.before`, `Fan.after`: a nested pair opens and seals one frame on the chain's own branch.
* `Fan.finish`: an outermost `after` while another chain still runs seals the last frame, unbinds
  the chain and gives its holds back, leaving the span with the holds still owed.
* `Fan.finishLast`: the outermost `after` of the last chain running gives back the last holds,
  and the span is handed to the pipeline.

`Fan.step` sorts the next hook of a chain into these cases.
-/

namespace TraceAgent

open LogicalStack

namespace SpanState

/-- What the branches of a span never change: whether it is open, its trace id, its root record
and its capacity. -/
structure Kept (S S' : SpanState) : Prop where
  isOpen : S'.isOpen = S.isOpen
  traceId : S'.traceId = S.traceId
  root : S'.root = S.root
  maxEvents : S'.maxEvents = S.maxEvents

theorem Kept.refl (S : SpanState) : S.Kept S := ⟨rfl, rfl, rfl, rfl⟩

theorem Kept.trans {S S' S'' : SpanState} (h : S.Kept S') (h' : S'.Kept S'') : S.Kept S'' :=
  ⟨h'.isOpen.trans h.isOpen, h'.traceId.trans h.traceId, h'.root.trans h.root, h'.maxEvents.trans h.maxEvents⟩

theorem kept_takeSequence (S : SpanState) : S.Kept S.takeSequence.2 := ⟨rfl, rfl, rfl, rfl⟩

theorem kept_pending (S : SpanState) (n : Nat) : S.Kept { S with pending := n } := ⟨rfl, rfl, rfl, rfl⟩

theorem kept_pushEvent (S : SpanState) (e : SpanEvent) : S.Kept (S.pushEvent e).1 := by
  unfold pushEvent
  split
  · exact Kept.refl S
  · split
    · exact ⟨rfl, rfl, rfl, rfl⟩
    · exact ⟨rfl, rfl, rfl, rfl⟩

/-- The frames offered are the span's frames and count of frames left out, against its capacity. -/
theorem Logged.congr {S S' : SpanState} {past : List SpanEvent} (h : S.Logged past) (he : S'.events = S.events)
    (hd : S'.dropped = S.dropped) (hm : S'.maxEvents = S.maxEvents) : S'.Logged past :=
  ⟨by rw [he, h.events, hm], by rw [hd, h.dropped, hm]⟩

/-- An open span with a hold left takes one more. -/
theorem acquire_of_open {S : SpanState} (ho : S.isOpen = true) (hp : 0 < S.pending) :
    S.acquire = some { S with pending := S.pending + 1 } := by
  simp [acquire, ho, Nat.pos_iff_ne_zero.1 hp]

/-- A begin draws a sequence number from the span when the stack has room, and nothing otherwise:
either way the span keeps its frames, its count of frames left out and its holds. -/
theorem draw_kept (S : SpanState) (c : Prop) [Decidable c] :
    S.Kept (if c then S.takeSequence.2 else S) ∧ (if c then S.takeSequence.2 else S).events = S.events ∧
      (if c then S.takeSequence.2 else S).dropped = S.dropped ∧
      (if c then S.takeSequence.2 else S).pending = S.pending := by
  split
  · exact ⟨kept_takeSequence S, rfl, rfl, rfl⟩
  · exact ⟨Kept.refl S, rfl, rfl, rfl⟩

/-- A release that leaves a hold gives one back and finishes nothing. -/
theorem release_of_two_le {S : SpanState} (hp : 2 ≤ S.pending) :
    S.release = ({ S with pending := S.pending - 1 }, none, []) := by
  obtain ⟨n, hn⟩ : ∃ n, S.pending = n + 2 := ⟨S.pending - 2, by omega⟩
  simp [release, hn]

end SpanState

namespace FrameMachine

theorem kept_sealFrame (S : SpanState) (x : Option SpanEvent) : S.Kept (sealFrame S x) := by
  cases x with
  | none => exact SpanState.Kept.refl S
  | some e => exact SpanState.kept_pushEvent S e

/-- A sealed frame is offered to the open span. -/
theorem logged_sealFrame {S : SpanState} {past : List SpanEvent} (h : S.Logged past) (ho : S.isOpen = true)
    (x : Option SpanEvent) : (sealFrame S x).Logged (past ++ x.toList) := by
  cases x with
  | none => simpa [sealFrame] using h
  | some e => exact h.pushEvent ho e

theorem pending_sealFrame (S : SpanState) (x : Option SpanEvent) : (sealFrame S x).pending = S.pending := by
  cases x with
  | none => rfl
  | some e => exact SpanState.pushEvent_pending S e

end FrameMachine

namespace LogicalStack

variable {m seq : Nat} {br : Option LocalAsyncId} {L : LogicalStack}

variable {m seq : Nat} {br : Option LocalAsyncId} {L : LogicalStack}

/-- A begin adds a recorded frame when the stack is within the limit. -/
theorem length_recorded_opened (f : SpanEvent → SpanEvent) :
    (recorded ((opened m seq br L).map f :: L)).length = (recorded L).length + (if L.length < m then 1 else 0) := by
  rw [recorded_cons, opened]
  split <;> simp [Nat.add_comm]

/-- The frame a begin opens is numbered as the branch. -/
theorem tagged_opened {ws : List FrameWrite} (h : ∀ e ∈ recorded L, e.asyncId = br) :
    ∀ e ∈ recorded ((opened m seq br L).map (·.written ws) :: L), e.asyncId = br := by
  intro e he
  rw [recorded_cons, List.mem_append] at he
  rcases he with he | he
  · rw [opened] at he
    split at he <;> simp_all [SpanEvent.written]
  · exact h e he

end LogicalStack

namespace World

variable {v w : World} {th th' : Thread}

theorem chainUp_onto (hg : th ∉ v.gone) : ({ v with here := th } : World).chainUp = true := by
  simp [chainUp, hg]

/-- On a live thread the bound trace is the one its chain state holds. -/
theorem boundTrace_onto (hg : th ∉ v.gone) : ({ v with here := th } : World).boundTrace = (v.chainAt th).trace := by
  rw [boundTrace_of_up (chainUp_onto hg)]
  rfl

theorem chainAt_of_besides {t : TraceRef} {w v' : World} (h : v'.besides t = w.besides t) (x th' : Thread) :
    ({ v' with here := x } : World).chainAt th' = w.chainAt th' :=
  World.chainAt_eq_of_locals (congrArg (fun y => y.2.2.1) h) th'

theorem trace_unbound (v : World) (th : Thread) (A : Array AsyncObj) :
    (({ ({ v with here := th } : World).unbound with asyncs := A } : World).chainAt th).trace = none := by
  show ((({ v with here := th } : World).unbound).chainAt th).trace = none
  rw [World.unbound, World.chainAt_withLocal_self]
  rfl

end World

/-- What a hook of chain `th`, on its branch `t`, leaves alone: the other chains, the other traces,
the threads torn down and the settings. -/
structure Aside (th : Thread) (t : TraceRef) (v V : World) : Prop where
  chains : ∀ th', th' ≠ th → V.chainAt th' = v.chainAt th'
  traces : ∀ u, u ≠ t → V.traces[u]? = v.traces[u]?
  gone : V.gone = v.gone
  settings : V.settings = v.settings

/-- Unbinding chain `th` leaves the other chains and every trace. -/
theorem Aside.unbound (th : Thread) (t : TraceRef) (v : World) (A : Array AsyncObj) :
    Aside th t v { ({ v with here := th } : World).unbound with asyncs := A } where
  chains th' hne := by
    show (({ v with here := th } : World).unbound).chainAt th' = v.chainAt th'
    rw [World.unbound, World.chainAt_withLocal_ne _ _ hne]
    rfl
  traces _ _ := by simp [World.unbound]
  gone := by simp [World.unbound]
  settings := by simp [World.unbound]

theorem Aside.onto (th : Thread) (t : TraceRef) (v : World) : Aside th t v { v with here := th } :=
  ⟨fun _ _ => rfl, fun _ _ => rfl, rfl, rfl⟩

/-- A hook that kept what lies beside the branch `t`, run on chain `th` and back. -/
theorem Aside.of_besides {th : Thread} {t : TraceRef} {v w v' : World} (h : v'.besides t = w.besides t)
    (hw : Aside th t v w) (x : Thread) : Aside th t v { v' with here := x } := by
  simp only [World.besides, Prod.mk.injEq] at h
  obtain ⟨ho, -, hl, -, hg, hs⟩ := h
  refine ⟨fun th' hne => (World.chainAt_eq_of_locals hl th').trans (hw.chains th' hne),
    fun u hu => (Agent.others_eq ho hu).trans (hw.traces u hu), hg.trans hw.gone, hs.trans hw.settings⟩

namespace Agent

namespace Tracks

variable {t : TraceRef} {o : TraceObj} {sp : SpanRef} {br : Option LocalAsyncId} {m : Nat} {v v' : World}
  {L : LogicalStack} {S S' : SpanState} {st : CallStack}

/-- The trace as it was and its span moved on, by the other writers of the span: the trace is where
it was on its stack. -/
theorem respan (h : Tracks t o sp br m v ⟨L, S⟩ st) (ht : v'.traces[t]? = v.traces[t]?)
    (hs : v'.spans[sp]? = some S') : Tracks t o sp br m v' ⟨L, S'⟩ st :=
  { h with trace := ht.trans h.trace, span := hs }

end Tracks

section GiveBack

variable {u : World} {sp : SpanRef} {S₁ : SpanState} {hs : Holds}

theorem dispatchedWorld_of_ok {k : Agent (Except HookError Unit)} {u' : World} (hk : k.run u = .ok (.ok ()) u') :
    dispatchedWorld k u = u' := by
  unfold dispatchedWorld hookFails finalWorld
  rw [hk]
  rfl

/-- The holds a finished branch gives back while others remain: the span keeps the rest, and
nothing is handed over. -/
theorem giveBack_keep (hu : u.spans[sp]? = some S₁) (hpin : hs.pinned = true)
    (hp : (if hs.creation then 2 else 1) < S₁.pending) :
    (dispatchedWorld (do giveBack hs sp; pure (.ok ())) u).spans[sp]? =
        some { S₁ with pending := S₁.pending - (if hs.creation then 2 else 1) } ∧
      (dispatchedWorld (do giveBack hs sp; pure (.ok ())) u).pipeline = u.pipeline := by
  have hsp : sp < u.spans.size := (Array.getElem?_eq_some_iff.1 hu).1
  have h₁ := releaseSpan_run_of hu (SpanState.release_of_two_le (by split at hp <;> omega))
  suffices hrun : ∃ u', (do giveBack hs sp; pure (.ok ()) : Agent (Except HookError Unit)).run u = .ok (.ok ()) u' ∧
      u'.spans[sp]? = some { S₁ with pending := S₁.pending - (if hs.creation then 2 else 1) } ∧
      u'.pipeline = u.pipeline by
    obtain ⟨u', hrun, hs', hp'⟩ := hrun
    rw [dispatchedWorld_of_ok hrun]
    exact ⟨hs', hp'⟩
  unfold giveBack
  rw [if_pos hpin, bind_assoc, run_bind_ok h₁]
  cases hc : hs.creation
  · exact ⟨_, rfl, by simp [hsp], rfl⟩
  · have hget : ({ u with spans := u.spans.set! sp { S₁ with pending := S₁.pending - 1 }, logs := u.logs ++ [].toArray }
        : World).spans[sp]? = some { S₁ with pending := S₁.pending - 1 } := by
      simp [hsp]
    have h₂ := releaseSpan_run_of hget
      (SpanState.release_of_two_le (S := { S₁ with pending := S₁.pending - 1 }) (by simp [hc] at hp; simp; omega))
    refine ⟨_, run_bind_ok h₂, ?_, rfl⟩
    simp only [hsp, Array.set!_eq_setIfInBounds, Array.getElem?_setIfInBounds_self_of_lt, Array.size_setIfInBounds,
      if_true, Nat.sub_sub]

theorem dispatchedWorld_pipeline (k : Agent (Except HookError Unit)) (w : World) :
    (dispatchedWorld k w).pipeline = (finalWorld k w).pipeline := by
  unfold dispatchedWorld
  split <;> rfl

/-- The holds the last branch to finish gives back: the span is handed to the pipeline once, as it
stands, whether or not an exporter panics. -/
theorem giveBack_last (hu : u.spans[sp]? = some S₁) (hpin : hs.pinned = true) (ho : S₁.isOpen = true)
    (hp : S₁.pending = if hs.creation then 2 else 1) :
    (dispatchedWorld (do giveBack hs sp; pure (.ok ())) u).pipeline = (u.pipeline.onEnd S₁.finishedSpan).2.2 := by
  have hsp : sp < u.spans.size := (Array.getElem?_eq_some_iff.1 hu).1
  -- the run goes on from the release of the last hold
  obtain ⟨y, S', hy, hst, hp', hpy, hfs, hrun⟩ : ∃ y S', y.spans[sp]? = some S' ∧ S'.status = .recording ∧
      S'.pending = 1 ∧ y.pipeline = u.pipeline ∧ S'.finishedSpan = S₁.finishedSpan ∧
      (do giveBack hs sp; pure (.ok ()) : Agent (Except HookError Unit)).run u =
        (do releaseSpan sp; pure (.ok ()) : Agent (Except HookError Unit)).run y := by
    have hstat : S₁.status = .recording := by simpa [SpanState.isOpen] using ho
    unfold giveBack
    rw [if_pos hpin, bind_assoc]
    cases hc : hs.creation
    · simp only [hc] at hp
      refine ⟨u, S₁, hu, hstat, hp, rfl, rfl, ?_⟩
      simp
    · simp only [hc, if_true] at hp
      have h₁ := releaseSpan_run_of hu (SpanState.release_of_two_le (by omega))
      rw [run_bind_ok h₁]
      refine ⟨_, { S₁ with pending := S₁.pending - 1 }, ?_, hstat, by simp [hp], ?_, rfl, rfl⟩
      · simp only [Array.set!_eq_setIfInBounds, Array.getElem?_setIfInBounds_self_of_lt hsp]
      · rfl
  have hR : Runs (· = y) (do releaseSpan sp; pure (.ok ()) : Agent (Except HookError Unit))
      (fun _ x => x.pipeline = (u.pipeline.onEnd S₁.finishedSpan).2.2)
      (fun x => x.pipeline = (u.pipeline.onEnd S₁.finishedSpan).2.2) := by
    refine Runs.bind (Runs.of_run_eq (releaseSpan_run_last hy hst hp') ?_) fun _ => Runs.pure _ fun _ h => h
    refine Runs.mono (handOver_runs_either _) (fun x hx => ?_) (fun _ _ h => h) (fun _ h => h)
    subst hx
    simp [hpy, hfs]
  rw [dispatchedWorld_congr hrun, dispatchedWorld_pipeline]
  exact hR.finalWorld rfl

end GiveBack

end Agent

/-- A fan-in on one async context: the chains `threads`, at least one and each once, run each its
script of end points resuming the recording context `context`, which writes into `span` under
the trace id `traceId` and the hand-off id `asyncId` and has `refs` clones alive; each branch's
stack is limited to `limit` levels. There are fewer chains than branch numbers. -/
structure FanIn where
  context : AsyncRef
  span : SpanRef
  traceId : TraceId
  asyncId : AsyncId
  refs : Nat
  threads : List Thread
  script : Thread → Script
  limit : Nat
  cloned : 0 < refs
  distinct : threads.Nodup
  some_chain : threads ≠ []
  fits : threads.length < UInt32.size
  resumes : ∀ th ∈ threads, (script th).Of context

namespace FanIn

variable (F : FanIn)

/-- The branch the `i`-th chain to resume is numbered with, counting from zero. -/
def branch (i : Nat) : LocalAsyncId := ⟨F.asyncId, UInt32.ofNat (i + 1)⟩

/-- The branch of chain `th`, the chains `order` having resumed in that order. -/
def tag (order : List Thread) (th : Thread) : LocalAsyncId := F.branch (order.idxOf th)

/-- The context's holds once the chains `order` resumed and the chains `fin` finished: it pins the
span, and owes its creation hold until a chain finished. -/
def holds (order fin : List Thread) : Holds :=
  { pinned := true, creation := fin.isEmpty, started := order.length, finished := fin.length }

/-- The context once the chains `order` resumed and the chains `fin` finished. -/
def contextAt (order fin : List Thread) : AsyncObj :=
  ⟨.recording F.span F.traceId F.asyncId (UInt32.ofNat order.length) (holds order fin), F.refs⟩

/-- A chain finishing while another is still running leaves the span pinned. -/
theorem holds_finish {order fin : List Thread} (th : Thread) (hlt : fin.length + 1 < order.length) :
    (holds order fin).finish = holds order (fin ++ [th]) := by
  simp only [Holds.finish, Holds.settled, holds, Bool.not_false, Bool.true_and, beq_iff_eq]
  rw [if_neg (by omega)]
  simp

/-- Chain `th`, running the script `s` on its branch `t` numbered `br`, has run the outermost
`before` and `k` hooks of the body, in the world `v` whose span is in state `S` and has been
offered the frames `sealed` of the branches: the branch is bound, its stack `L` and its scope are
as deep as those hooks nest, and each frame it recorded is either sealed or open on `L`, numbered
`br`. -/
structure OnBranch (s : Script) (br : LocalAsyncId) (th : Thread) (v : World) (S : SpanState)
    (sealed : List SpanEvent) (k : Nat) (t : TraceRef) (o : TraceObj) (L : LogicalStack) (st : CallStack) :
    Prop where
  upTo : k ≤ s.body.length
  nest : Hook.nest 1 (s.body.take k) = some L.length
  bound : (v.chainAt th).trace = some t
  tracks : Agent.Tracks t o F.span (some br) F.limit v ⟨L, S⟩ st
  depth : o.scopeDepth Agent.asyncScopeName = L.length
  tagged : ∀ e ∈ recorded L, e.asyncId = some br
  count : sealed.countP (·.asyncId = some br) + (recorded L).length =
    Hook.recorded F.limit 0 (s.hooks.take (k + 1))

/-- Where chain `th`, running the script `s` on branch `br`, stands once it has run `k` hooks: not
resumed, on its branch, or done, unbound, with every frame it recorded sealed. -/
inductive ChainAt (s : Script) (br : LocalAsyncId) (th : Thread) (v : World) (S : SpanState)
    (sealed : List SpanEvent) : Nat → Prop
  | idle : (v.chainAt th).trace = none → ChainAt s br th v S sealed 0
  | inside {k : Nat} {t : TraceRef} {o : TraceObj} {L : LogicalStack} {st : CallStack} :
      F.OnBranch s br th v S sealed k t o L st → ChainAt s br th v S sealed (k + 1)
  | done : (v.chainAt th).trace = none →
      sealed.countP (·.asyncId = some br) = Hook.recorded F.limit 0 s.hooks →
      ChainAt s br th v S sealed (s.body.length + 2)

variable {F} {s : Script} {br : LocalAsyncId} {th : Thread} {v v' : World} {S S' : SpanState}
  {sealed sealed' : List SpanEvent} {k : Nat}

theorem ChainAt.onBranch (h : F.ChainAt s br th v S sealed (k + 1)) (hk : k ≤ s.body.length) :
    ∃ t o L st, F.OnBranch s br th v S sealed k t o L st := by
  cases h with
  | inside hb => exact ⟨_, _, _, _, hb⟩
  | done => omega

theorem ChainAt.count_of_done (h : F.ChainAt s br th v S sealed (s.body.length + 2)) :
    sealed.countP (·.asyncId = some br) = Hook.recorded F.limit 0 s.hooks := by
  cases h with
  | inside hb => exact absurd hb.upTo (by omega)
  | done _ hcount => exact hcount

theorem ChainAt.idle_of (h : F.ChainAt s br th v S sealed 0) : (v.chainAt th).trace = none := by
  cases h with
  | idle hi => exact hi

/-- A chain is kept by a step of the others: its chain state and its trace are as they were, the
span moved on to `S'`, and the frames sealed meanwhile are not its own. -/
theorem ChainAt.frame (h : F.ChainAt s br th v S sealed k)
    (hc : (v'.chainAt th).trace = (v.chainAt th).trace)
    (ht : ∀ t, (v.chainAt th).trace = some t → v'.traces[t]? = v.traces[t]?)
    (hs : v'.spans[F.span]? = some S')
    (hn : sealed'.countP (·.asyncId = some br) = sealed.countP (·.asyncId = some br)) :
    F.ChainAt s br th v' S' sealed' k := by
  cases h with
  | idle hi => exact .idle (hc.trans hi)
  | inside hb =>
    exact .inside ⟨hb.upTo, hb.nest, hc.trans hb.bound, hb.tracks.respan (ht _ hb.bound) hs, hb.depth,
      hb.tagged, hn ▸ hb.count⟩
  | done hi hcount => exact .done (hc.trans hi) (hn.trans hcount)

/-- A chain that resumed is numbered apart from every other chain, as long as the counter does not
wrap. -/
theorem tag_ne {order : List Thread} {th th' : Thread} (hK : order.length < UInt32.size) (h : th ∈ order)
    (hne : th' ≠ th) : F.tag order th' ≠ F.tag order th := by
  intro heq
  have hi := List.idxOf_lt_length_of_mem h
  have hi' : order.idxOf th' ≤ order.length := List.idxOf_le_length
  have hseq := congrArg (fun b : LocalAsyncId => b.sequence.toNat) heq
  simp only [tag, branch, UInt32.toNat_ofNat'] at hseq
  -- the numbers differ below the wrap
  have hidx : order.idxOf th' ≠ order.idxOf th := by
    by_cases h' : th' ∈ order
    · exact fun hx => hne ((List.idxOf_inj h').1 hx)
    · rw [List.idxOf_eq_length h']
      omega
  have hsize : UInt32.size = 2 ^ 32 := rfl
  omega

theorem tag_append_of_mem {order : List Thread} {th : Thread} (x : Thread) (h : th ∈ order) :
    F.tag (order ++ [x]) th = F.tag order th := by
  rw [tag, tag, List.idxOf_append_of_mem h]

theorem tag_append_self {order : List Thread} {th : Thread} (h : th ∉ order) :
    F.tag (order ++ [th]) th = F.branch order.length := by
  rw [tag, List.idxOf_append_of_notMem h]
  simp

/-- In a resume order without repeats, the `i`-th chain to resume is numbered `i + 1`. -/
theorem tag_getElem {order : List Thread} (hnd : order.Nodup) {i : Nat} (hi : i < order.length) :
    F.tag order order[i] = ⟨F.asyncId, UInt32.ofNat (i + 1)⟩ := by
  have hidx : order.idxOf order[i] = i := by simp [hnd]
  rw [tag, hidx]
  rfl

/-- The chain that resumes next is numbered one past the chains that resumed before it. -/
theorem tag_next {order : List Thread} {th : Thread} (hnew : th ∉ order) :
    F.tag (order ++ [th]) th = ⟨F.asyncId, UInt32.ofNat order.length + 1⟩ := by
  rw [tag_append_self hnew, branch]
  simp

/-- Frames sealed on one chain's branch all count under its number... -/
theorem countP_own {order : List Thread} {th : Thread} {xs : List SpanEvent}
    (hx : ∀ y ∈ xs, y.asyncId = some (F.tag order th)) :
    xs.countP (·.asyncId = some (F.tag order th)) = xs.length :=
  List.countP_eq_length.2 fun y hy => by simpa using hx y hy

/-- ... and under no other resumed chain's number, the counter not having wrapped. -/
theorem countP_other {order : List Thread} {th th' : Thread} {xs : List SpanEvent}
    (hK : order.length < UInt32.size) (hord : th ∈ order) (hne : th' ≠ th)
    (hx : ∀ y ∈ xs, y.asyncId = some (F.tag order th)) :
    xs.countP (·.asyncId = some (F.tag order th')) = 0 :=
  List.countP_eq_zero.2 fun y hy => by simpa [hx y hy] using (tag_ne hK hord hne).symm

end FanIn

namespace FanIn

variable {F : FanIn}

/-- The fan-in part way: chain `th` has run `pos th` of its hooks, the chains `order` resumed in
that order and the chains `fin` finished. The span, still open and unexported, is in state `S`:
it holds the holds the fan-in owes, as the context counts them, and was offered the frames
`past₀` and then the frames `sealed` of the branches, each numbered by a chain that resumed. -/
structure Fan (P₀ : Pipeline FinishedSpan) (S₀ : SpanState) (past₀ : List SpanEvent) (pos : Thread → Nat)
    (order fin : List Thread) (sealed : List SpanEvent) (S : SpanState) (v : World) : Prop where
  chains : ∀ th ∈ F.threads, F.ChainAt (F.script th) (F.tag order th) th v S sealed (pos th)
  started : ∀ th ∈ F.threads, th ∈ order ↔ 0 < pos th
  finished : ∀ th ∈ F.threads, th ∈ fin ↔ pos th = (F.script th).hooks.length
  order_nodup : order.Nodup
  order_sub : ∀ th ∈ order, th ∈ F.threads
  fin_nodup : fin.Nodup
  fin_sub : ∀ th ∈ fin, th ∈ F.threads
  span : v.spans[F.span]? = some S
  isOpen : S.isOpen = true
  logged : S.Logged (past₀ ++ sealed)
  kept : S₀.Kept S
  pending : S.pending = (if fin = [] then 1 else 0) + (order.length - fin.length)
  context : v.asyncs[F.context]? = some (F.contextAt order fin)
  live : ∀ th ∈ F.threads, th ∉ v.gone
  limit : v.settings.maxCallStackDepth = F.limit
  pipeline : v.pipeline = P₀
  tagged : ∀ e ∈ sealed, ∃ th ∈ order, e.asyncId = some (F.tag order th)

section Fan

variable {P₀ : Pipeline FinishedSpan} {S₀ : SpanState} {past₀ : List SpanEvent} {pos : Thread → Nat}
  {order fin : List Thread} {sealed : List SpanEvent} {S : SpanState} {v : World}

theorem Fan.length_order (h : F.Fan P₀ S₀ past₀ pos order fin sealed S v) : order.length ≤ F.threads.length :=
  (h.order_nodup.subperm h.order_sub).length_le

/-- Fewer chains resumed than there are branch numbers. -/
theorem Fan.order_lt (h : F.Fan P₀ S₀ past₀ pos order fin sealed S v) : order.length < UInt32.size :=
  Nat.lt_of_le_of_lt h.length_order F.fits

/-- Frames sealed on the branch of a resumed chain extend what is sealed under the resumed chains'
numbers. -/
theorem Fan.tagged_append (h : F.Fan P₀ S₀ past₀ pos order fin sealed S v) {th : Thread} (hord : th ∈ order)
    {xs : List SpanEvent} (hx : ∀ y ∈ xs, y.asyncId = some (F.tag order th)) :
    ∀ e ∈ sealed ++ xs, ∃ th' ∈ order, e.asyncId = some (F.tag order th') := by
  intro y hy
  rcases List.mem_append.1 hy with hy | hy
  · exact h.tagged y hy
  · exact ⟨th, hord, hx y hy⟩

/-- No chain but `th` is bound to the branch of `th`: the branches are numbered apart. -/
theorem Fan.apart (h : F.Fan P₀ S₀ past₀ pos order fin sealed S v) {th th' : Thread} (hth : th ∈ order)
    (hth' : th' ∈ F.threads) (hne : th' ≠ th) {k : Nat} {t : TraceRef} {o : TraceObj} {L : LogicalStack}
    {st : CallStack} (hb : F.OnBranch (F.script th) (F.tag order th) th v S sealed k t o L st) :
    (v.chainAt th').trace ≠ some t := by
  intro ht'
  have hc := h.chains th' hth'
  generalize hn : pos th' = n at hc
  cases hc with
  | idle hi => rw [hi] at ht'; cases ht'
  | done hi _ => rw [hi] at ht'; cases ht'
  | inside hb' =>
    rw [hb'.bound] at ht'
    cases ht'
    -- one trace records as one branch
    have hk := congrArg (Option.map TraceObj.kind) (hb.tracks.trace.symm.trans hb'.tracks.trace)
    simp only [Option.map_some, Option.some.injEq, TraceKind.recording.injEq] at hk
    exact tag_ne (Nat.lt_of_le_of_lt h.length_order F.fits) hth hne hk.2.1.symm

/-- A chain's frames in a world where it stays where it was. -/
theorem ChainAt.aside {s : Script} {br : LocalAsyncId} {th th' : Thread} {t : TraceRef} {V : World}
    {S' : SpanState} {sealed' : List SpanEvent} {k : Nat} (hc : F.ChainAt s br th' v S sealed k)
    (ha : Aside th t v V) (hne : th' ≠ th) (hfree : (v.chainAt th').trace ≠ some t)
    (hs : V.spans[F.span]? = some S')
    (hn : sealed'.countP (·.asyncId = some br) = sealed.countP (·.asyncId = some br)) :
    F.ChainAt s br th' V S' sealed' k :=
  hc.frame (by rw [ha.chains th' hne]) (fun _ hu => ha.traces _ fun he => hfree (he ▸ hu)) hs hn

/-- A hook nested in chain `th`'s outermost pair, from the world `v` to the world `v'` on the
chain's thread: it kept what lies beside the branch `t` of `th`, and left the chain on its branch
one hook further, the span in a state `S'` that holds the same holds, and the frames `sealed'`
offered, with the other chains' frames among them as they were. -/
theorem Fan.nested (h : F.Fan P₀ S₀ past₀ pos order fin sealed S v) {th : Thread} (hth : th ∈ F.threads)
    {k : Nat} (hpos : pos th = k + 1) (hk : k < (F.script th).body.length) {t : TraceRef} {v' : World}
    (hbes : v'.besides t = ({ v with here := th } : World).besides t) (hpip : v'.pipeline = v.pipeline)
    (hfree : ∀ th' ∈ F.threads, th' ≠ th → (v.chainAt th').trace ≠ some t)
    {S' : SpanState} {sealed' : List SpanEvent} (hlog : S'.Logged (past₀ ++ sealed')) (hkept : S.Kept S')
    (hpend : S'.pending = S.pending)
    {o' : TraceObj} {L' : LogicalStack} {st' : CallStack}
    (hown : F.OnBranch (F.script th) (F.tag order th) th { v' with here := v.here } S' sealed' (k + 1) t o' L' st')
    (hn : ∀ th' ∈ F.threads, th' ≠ th →
      sealed'.countP (·.asyncId = some (F.tag order th')) = sealed.countP (·.asyncId = some (F.tag order th')))
    (htag : ∀ e ∈ sealed', ∃ th' ∈ order, e.asyncId = some (F.tag order th')) :
    F.Fan P₀ S₀ past₀ (Function.update pos th (k + 2)) order fin sealed' S' { v' with here := v.here } := by
  have ha := Aside.of_besides hbes (Aside.onto th t v) v.here
  refine ⟨fun th' hth' => ?_, fun th' hth' => ?_, fun th' hth' => ?_, h.order_nodup, h.order_sub, h.fin_nodup,
    h.fin_sub, hown.tracks.span, hkept.isOpen.trans h.isOpen, hlog, h.kept.trans hkept, hpend.trans h.pending,
    (congrArg (·[F.context]?) (World.asyncs_eq_of_besides hbes)).trans h.context,
    fun th' hth' => ha.gone ▸ h.live th' hth', ha.settings ▸ h.limit, hpip.trans h.pipeline, htag⟩
  · rcases eq_or_ne th' th with rfl | hne
    · rw [Function.update_self]
      exact .inside hown
    · rw [Function.update_of_ne hne]
      exact (h.chains th' hth').aside ha hne (hfree th' hth' hne) hown.tracks.span (hn th' hth' hne)
  · rcases eq_or_ne th' th with rfl | hne
    · rw [Function.update_self, h.started th' hth', hpos]
      omega
    · rw [Function.update_of_ne hne, h.started th' hth']
  · rcases eq_or_ne th' th with rfl | hne
    · rw [Function.update_self, h.finished th' hth', hpos, Script.length_hooks]
      omega
    · rw [Function.update_of_ne hne, h.finished th' hth']

/-- Every chain is bound to a trace of the world. -/
theorem Fan.bound_lt (h : F.Fan P₀ S₀ past₀ pos order fin sealed S v) {th : Thread} (hth : th ∈ F.threads)
    {t : TraceRef} (hb : (v.chainAt th).trace = some t) : t < v.traces.size := by
  have hc := h.chains th hth
  generalize pos th = n at hc
  cases hc with
  | idle hi => rw [hi] at hb; cases hb
  | done hi _ => rw [hi] at hb; cases hb
  | inside hb' =>
    rw [hb'.bound] at hb
    cases hb
    exact (Array.getElem?_eq_some_iff.1 hb'.tracks.trace).1

/-- What a hook of chain `th`, on its branch, starts from: the chain's view of the world, in which
the branch is bound and the context resumes it. -/
theorem Fan.resumes (h : F.Fan P₀ S₀ past₀ pos order fin sealed S v) {th : Thread} (hth : th ∈ F.threads)
    {k : Nat} {t : TraceRef} {o : TraceObj} {L : LogicalStack} {st : CallStack}
    (hb : F.OnBranch (F.script th) (F.tag order th) th v S sealed k t o L st) :
    ({ v with here := th } : World).boundTrace = some t ∧
      ({ v with here := th } : World).asyncs[F.context]? = some (F.contextAt order fin) ∧
      Agent.Tracks t o F.span (some (F.tag order th)) F.limit { v with here := th } ⟨L, S⟩ st :=
  ⟨(World.boundTrace_onto (h.live th hth)).trans hb.bound, h.context, { hb.tracks with }⟩

/-- A `before` nested in chain `th`'s outermost pair opens one more frame on its branch. -/
theorem Fan.before (h : F.Fan P₀ S₀ past₀ pos order fin sealed S v) {th : Thread} (hth : th ∈ F.threads)
    {k : Nat} (hpos : pos th = k + 1) (hk : k < (F.script th).body.length) {e : EndPoint}
    (hh : (F.script th).body[k] = .before e) :
    ∃ S' v', (Agent.onThread th (Hook.before e).dispatch).run v = .ok () v' ∧
      F.Fan P₀ S₀ past₀ (Function.update pos th (k + 2)) order fin sealed S' v' := by
  have hc := h.chains th hth
  rw [hpos] at hc
  obtain ⟨t, o, L, st, hb⟩ := hc.onBranch hk.le
  have hord : th ∈ order := (h.started th hth).2 (by omega)
  have he : e.Of F.context := (F.resumes th hth).body (.before e) (hh ▸ List.getElem_mem hk)
  obtain ⟨hbound, hctx, htk⟩ := h.resumes hth hb
  obtain ⟨_, v', hrun, ws, st', ht', hbes, hpip⟩ := Agent.Runs.exists_ok
    (Agent.before_runs_resumed (E := fun _ => False) he (Agent.continueAsync_run_own hctx hbound htk.trace) htk)
  -- the frame opens below the outermost one, so it is not marked
  have hL : 0 < L.length := Hook.pos_of_nest Nat.one_pos hb.nest
  have hout : (o.scopeDepth Agent.asyncScopeName == 0) = false := by
    rw [hb.depth]
    exact beq_eq_false_iff_ne.2 (by omega)
  rw [hout, FrameMachine.run_opening] at ht'
  dsimp only at ht'
  -- the begin only draws a number from the span
  obtain ⟨hkept, hev, hdr, hpend⟩ := SpanState.draw_kept S (L.length < F.limit)
  refine ⟨_, _, Agent.onThread_run_ok th hrun, h.nested hth hpos hk hbes hpip
    (fun th' hth' hne => h.apart hord hth' hne hb) (h.logged.congr hev hdr hkept.maxEvents) hkept hpend
    ⟨hk, ?_, ?_, { ht' with }, ?_, LogicalStack.tagged_opened hb.tagged, ?_⟩ (fun _ _ _ => rfl) h.tagged⟩
  · rw [List.length_cons]
    exact (F.script th).nest_take_before hk hh hb.nest
  · exact (congrArg ChainLocal.trace (World.chainAt_of_besides hbes _ _)).trans hb.bound
  · rw [TraceObj.scopeDepth_enterScope, hb.depth, List.length_cons]
  · rw [LogicalStack.length_recorded_opened, (F.script th).recorded_take_before F.limit hk hh hb.nest, ← hb.count]
    omega

/-- The frame a chain seals is numbered as its branch. -/
theorem tagged_sealed {x : Option SpanEvent} {L : LogicalStack} {br : LocalAsyncId}
    (h : ∀ e ∈ recorded (x :: L), e.asyncId = some br) (ws : List FrameWrite) :
    ∀ e ∈ (x.map (·.written ws)).toList, e.asyncId = some br := by
  intro e he
  cases x with
  | none => cases he
  | some y =>
    simp only [Option.map_some, Option.toList_some, List.mem_singleton] at he
    subst he
    exact h y (by simp [LogicalStack.recorded_cons])

/-- An `after` nested in chain `th`'s outermost pair seals the top frame of its branch. -/
theorem Fan.after (h : F.Fan P₀ S₀ past₀ pos order fin sealed S v) {th : Thread} (hth : th ∈ F.threads)
    {k : Nat} (hpos : pos th = k + 1) (hk : k < (F.script th).body.length) {e : EndPoint}
    (hh : (F.script th).body[k] = .after e) :
    ∃ sealed' S' v', (Agent.onThread th (Hook.after e).dispatch).run v = .ok () v' ∧
      F.Fan P₀ S₀ past₀ (Function.update pos th (k + 2)) order fin sealed' S' v' := by
  have hc := h.chains th hth
  rw [hpos] at hc
  obtain ⟨t, o, L, st, hb⟩ := hc.onBranch hk.le
  have hord : th ∈ order := (h.started th hth).2 (by omega)
  have he : e.Of F.context := (F.resumes th hth).body (.after e) (hh ▸ List.getElem_mem hk)
  obtain ⟨hbound, hctx, htk⟩ := h.resumes hth hb
  -- only the outermost `after` meets depth one, so this one leaves a frame open
  obtain ⟨d, hd⟩ : ∃ d, L.length = d + 2 := by
    have hpos' := Hook.pos_of_nest Nat.one_pos hb.nest
    have hone : L.length ≠ 1 := fun h1 =>
      (F.script th).no_inner_after_at_one hk (by rw [List.getElem?_eq_getElem hk, hh]) (h1 ▸ hb.nest)
    exact ⟨L.length - 2, by omega⟩
  cases L with
  | nil => simp at hd
  | cons x L =>
  obtain ⟨v', ws, hrun, st', ht', hbes, hpip⟩ :=
    Agent.after_run_nested he hctx hbound htk (by rw [hb.depth]; omega) (List.cons_ne_nil x L)
  rw [FrameMachine.run_sealing] at ht'
  -- the sealed frame, written with the call's method, the handler's writes and the call's error
  set x' := x.map (·.written (FrameWrite.api e.api :: ws ++ [.exception e.outcome.error?])) with hx'
  have hx : ∀ y ∈ x'.toList, y.asyncId = some (F.tag order th) := tagged_sealed hb.tagged _
  have hlen : x'.toList.length = x.toList.length := by cases x <;> rfl
  refine ⟨sealed ++ x'.toList, _, _, Agent.onThread_run_ok th hrun, h.nested hth hpos hk hbes hpip
    (fun th' hth' hne => h.apart hord hth' hne hb) ?_ (FrameMachine.kept_sealFrame S x')
    (FrameMachine.pending_sealFrame S x') ⟨hk, ?_, ?_, { ht' with }, ?_, ?_, ?_⟩
    (fun _ _ hne => by rw [List.countP_append, countP_other h.order_lt hord hne hx, Nat.add_zero])
    (h.tagged_append hord hx)⟩
  · rw [← List.append_assoc]
    exact FrameMachine.logged_sealFrame h.logged h.isOpen x'
  · have hL : L.length = d + 1 := by
      simp only [List.length_cons] at hd
      omega
    rw [hL]
    refine (F.script th).nest_take_after hk hh ?_
    rw [hb.nest, List.length_cons, hL]
  · exact (congrArg ChainLocal.trace (World.chainAt_of_besides hbes _ _)).trans hb.bound
  · rw [TraceObj.scopeDepth_leaveScope, hb.depth, List.length_cons]
    rfl
  · exact fun y hy => hb.tagged y (by rw [LogicalStack.recorded_cons]; exact List.mem_append_right _ hy)
  · rw [(F.script th).recorded_take_after F.limit hk hh, ← hb.count, List.countP_append, countP_own hx,
      LogicalStack.recorded_cons, List.length_append, hlen]
    omega

/-- A chain that has not resumed has run no hook and is unbound. -/
theorem Fan.idle_of_not_mem (h : F.Fan P₀ S₀ past₀ pos order fin sealed S v) {th : Thread} (hth : th ∈ F.threads)
    (hnot : th ∉ order) : pos th = 0 ∧ (v.chainAt th).trace = none := by
  have h0 : pos th = 0 := by
    by_contra hp
    exact hnot ((h.started th hth).2 (Nat.pos_of_ne_zero hp))
  have hc := h.chains th hth
  rw [h0] at hc
  exact ⟨h0, hc.idle_of⟩

/-- The chains that resumed and one more are still fewer than the branch numbers. -/
theorem Fan.length_append_lt (h : F.Fan P₀ S₀ past₀ pos order fin sealed S v) {th : Thread}
    (hth : th ∈ F.threads) (hnew : th ∉ order) : (order ++ [th]).length < UInt32.size := by
  have hsub : (order ++ [th]).Subperm F.threads :=
    (h.order_nodup.append (List.nodup_singleton th) (by simpa using hnew)).subperm
      (fun x hx => (List.mem_append.1 hx).elim (h.order_sub x) (fun hx' => by simp_all))
  exact Nat.lt_of_le_of_lt hsub.length_le F.fits

/-- The number of the next chain to resume is on no frame sealed so far. -/
theorem Fan.countP_next (h : F.Fan P₀ S₀ past₀ pos order fin sealed S v) {th : Thread} (hth : th ∈ F.threads)
    (hnew : th ∉ order) : sealed.countP (·.asyncId = some (F.tag (order ++ [th]) th)) = 0 := by
  refine List.countP_eq_zero.2 fun y hy => ?_
  obtain ⟨th', hth', hy'⟩ := h.tagged y hy
  have hne : th' ≠ th := fun he => hnew (he ▸ hth')
  rw [← tag_append_of_mem th hth'] at hy'
  simpa [hy'] using
    tag_ne (h.length_append_lt hth hnew) (List.mem_append_right order (List.mem_singleton_self th)) hne

/-- The resume in the outermost `before` of a chain not resumed yet, while no chain finished: the
chain is bound to a fresh branch, the next trace, numbered next and with no frame open; the span
takes one more hold and the context counts one more branch started; no other chain or trace
changes. -/
theorem Fan.resume_fresh (h : F.Fan P₀ S₀ past₀ pos order [] sealed S v) {th : Thread} (hth : th ∈ F.threads)
    (hnew : th ∉ order) :
    ∃ v₁, (Agent.continueAsync F.context).run { v with here := th } = .ok (some v.traces.size) v₁ ∧
      Agent.Tracks v.traces.size (Agent.branchTrace F.span F.asyncId (UInt32.ofNat order.length + 1)
          { v with here := th }) F.span (some (F.tag (order ++ [th]) th)) F.limit v₁
        ⟨[], { S with pending := S.pending + 1 }⟩ { maxDepth := F.limit } ∧
      Aside th v.traces.size v v₁ ∧ (v₁.chainAt th).trace = some v.traces.size ∧
      v₁.asyncs[F.context]? = some (F.contextAt (order ++ [th]) []) ∧ v₁.pipeline = P₀ := by
  -- the chain's view: a live unbound chain, a pinned context and an open span with a hold left
  set u : World := { v with here := th } with hu
  have hctx : u.asyncs[F.context]? = some (F.contextAt order []) := h.context
  have hacq : (u.spans[F.span]?.getD default).acquire = some { S with pending := S.pending + 1 } := by
    rw [show u.spans[F.span]? = some S from h.span, Option.getD_some]
    exact SpanState.acquire_of_open h.isOpen (by rw [h.pending]; simp)
  have hsp : F.span < v.spans.size := (Array.getElem?_eq_some_iff.1 h.span).1
  have hca : F.context < v.asyncs.size := (Array.getElem?_eq_some_iff.1 h.context).1
  refine ⟨_, Agent.continueAsync_run_fresh hctx (World.chainUp_onto (h.live th hth))
      (h.idle_of_not_mem hth hnew).2 (Agent.spanReachable_run_pinned hctx F.cloned rfl) hacq,
    Agent.Tracks.fresh (by simp [Agent.branchTrace, hu, h.limit, tag_next hnew]) rfl (by simp [hu, hsp]),
    ⟨fun th' hne => ?_, fun x hx => ?_, by simp [hu], by simp [hu]⟩, ?_, ?_, by simp [hu, h.pipeline]⟩
  · rw [World.chainAt_withLocal_ne _ _ hne]
    rfl
  · simp only [hu] at hx ⊢
    simp [Array.getElem?_push, hx]
  · rw [World.chainAt_withLocal_self]
    rfl
  · simp [hu, hca, contextAt, holds, Holds.start]

/-- The first `before` of chain `th`, before any chain finished, resumes a fresh branch, numbered
next, and opens its first frame, marked as the outermost. -/
theorem Fan.start (h : F.Fan P₀ S₀ past₀ pos order [] sealed S v) {th : Thread} (hth : th ∈ F.threads)
    (hpos : pos th = 0) :
    ∃ S' v', (Agent.onThread th (Hook.before (F.script th).first).dispatch).run v = .ok () v' ∧
      F.Fan P₀ S₀ past₀ (Function.update pos th 1) (order ++ [th]) [] sealed S' v' := by
  have hnew : th ∉ order := fun hm => by have := (h.started th hth).1 hm; omega
  obtain ⟨v₁, hk, ht, ha₁, hbound, hctx, hpip₁⟩ := h.resume_fresh hth hnew
  obtain ⟨_, v₂, hrun, ws, st', ht', hbes, hpip⟩ := Agent.Runs.exists_ok
    (Agent.before_runs_resumed (E := fun _ => False) (F.resumes th hth).first hk ht)
  -- the first frame is the outermost one: the branch's scope was at depth zero
  rw [show (Agent.branchTrace F.span F.asyncId (UInt32.ofNat order.length + 1) { v with here := th }).scopeDepth
    Agent.asyncScopeName = 0 from rfl, FrameMachine.run_opening] at ht'
  dsimp only at ht'
  rw [List.length_nil] at ht'
  have ha := Aside.of_besides hbes ha₁ v.here
  -- the resume took a hold, and the begin draws a number if the stack has room
  obtain ⟨hkept, hev, hdr, hpend⟩ := SpanState.draw_kept { S with pending := S.pending + 1 } (0 < F.limit)
  have hkept' := (SpanState.kept_pending S _).trans hkept
  refine ⟨_, _, Agent.onThread_run_ok th hrun, ⟨fun th' hth' => ?_, fun th' hth' => ?_, fun th' hth' => ?_,
    h.order_nodup.append (List.nodup_singleton th) (by simpa using hnew),
    fun x hx => (List.mem_append.1 hx).elim (h.order_sub x) (fun hx' => by simp_all), List.nodup_nil,
    fun _ hx => absurd hx List.not_mem_nil, ht'.span, hkept'.isOpen.trans h.isOpen,
    h.logged.congr hev hdr hkept.maxEvents, h.kept.trans hkept', ?_,
    (congrArg (·[F.context]?) (World.asyncs_eq_of_besides hbes)).trans hctx,
    fun th' hth' => ha.gone ▸ h.live th' hth', ha.settings ▸ h.limit, hpip.trans hpip₁, fun y hy => ?_⟩⟩
  · rcases eq_or_ne th' th with rfl | hne
    · rw [Function.update_self]
      refine .inside ⟨Nat.zero_le _, rfl, ?_, { ht' with }, ?_, LogicalStack.tagged_opened (by simp), ?_⟩
      · rw [congrArg ChainLocal.trace (World.chainAt_of_besides hbes _ _)]
        exact hbound
      · rw [TraceObj.scopeDepth_enterScope]
        rfl
      · rw [LogicalStack.length_recorded_opened, h.countP_next hth' hnew,
          (F.script th').hooks_take_succ (Nat.zero_le _)]
        simp [Hook.recorded]
    · rw [Function.update_of_ne hne]
      by_cases hmem : th' ∈ order
      · rw [tag_append_of_mem th hmem]
        exact (h.chains th' hth').aside ha hne (fun hb => Nat.lt_irrefl _ (h.bound_lt hth' hb)) ht'.span rfl
      · obtain ⟨h0, hidle⟩ := h.idle_of_not_mem hth' hmem
        rw [h0]
        exact .idle ((congrArg ChainLocal.trace (ha.chains th' hne)).trans hidle)
  · rcases eq_or_ne th' th with rfl | hne
    · simp
    · rw [Function.update_of_ne hne, ← h.started th' hth']
      simp [hne]
  · rcases eq_or_ne th' th with rfl | hne
    · simp [Script.length_hooks]
    · rw [Function.update_of_ne hne, ← h.finished th' hth']
  · rw [hpend]
    simp only [h.pending]
    simp
    omega
  · obtain ⟨th'', hth'', hy'⟩ := h.tagged y hy
    exact ⟨th'', List.mem_append_left _ hth'', by rw [tag_append_of_mem th hth'']; exact hy'⟩

theorem Fan.fin_lt (h : F.Fan P₀ S₀ past₀ pos order fin sealed S v) {th : Thread} (hord : th ∈ order)
    (hnf : th ∉ fin) : fin.length < order.length := by
  have hsub : (th :: fin).Subperm order := by
    refine (List.nodup_cons.2 ⟨hnf, h.fin_nodup⟩).subperm fun x hx => ?_
    rcases List.mem_cons.1 hx with rfl | hx
    · exact hord
    · have hfin := (h.finished x (h.fin_sub x hx)).1 hx
      exact (h.started x (h.fin_sub x hx)).2 (by rw [hfin, Script.length_hooks]; omega)
  simpa using hsub.length_le

/-- The outermost `after` of chain `th`, run after all its other hooks: it seals the branch's last
frame into the span, with every frame the chain recorded now sealed, unbinds the chain, and reports
the branch finished, which gives the fan-in's holds back. -/
theorem Fan.closes (h : F.Fan P₀ S₀ past₀ pos order fin sealed S v) {th : Thread} (hth : th ∈ F.threads)
    (hpos : pos th = (F.script th).body.length + 1) :
    th ∈ order ∧ th ∉ fin ∧ ∃ (t : TraceRef) (x : Option SpanEvent) (u : World),
      (Agent.onThread th (Hook.after (F.script th).last).dispatch).run v =
        .ok () { Agent.dispatchedWorld (do Agent.giveBack (holds order fin) F.span; pure (.ok ())) u with here := v.here } ∧
      u.spans[F.span]? = some (FrameMachine.sealFrame S x) ∧ u.pipeline = v.pipeline ∧
      u.besides t = ({ ({ v with here := th } : World).unbound with
        asyncs := v.asyncs.set! F.context
          ⟨.recording F.span F.traceId F.asyncId (UInt32.ofNat order.length) (holds order fin).finish, F.refs⟩ } :
            World).besides t ∧
      (∀ th' ∈ F.threads, th' ≠ th → (v.chainAt th').trace ≠ some t) ∧
      (∀ y ∈ x.toList, y.asyncId = some (F.tag order th)) ∧
      sealed.countP (·.asyncId = some (F.tag order th)) + x.toList.length =
        Hook.recorded F.limit 0 (F.script th).hooks := by
  have hc := h.chains th hth
  rw [hpos] at hc
  obtain ⟨t, o, L, st, hb⟩ := hc.onBranch le_rfl
  have hord : th ∈ order := (h.started th hth).2 (by omega)
  have hnf : th ∉ fin := fun hf => by
    have := (h.finished th hth).1 hf
    rw [hpos, Script.length_hooks] at this
    omega
  have he : (F.script th).last.Of F.context := (F.resumes th hth).last
  obtain ⟨hbound, hctx, htk⟩ := h.resumes hth hb
  -- the outermost pair is one level deep: one frame is left
  have hone : L.length = 1 := by
    have hn := hb.nest
    rw [List.take_length, (F.script th).nested] at hn
    exact (Option.some.inj hn).symm
  obtain ⟨x, rfl⟩ := List.length_eq_one_iff.1 hone
  obtain ⟨u, ws, st', hrun, -, -, hsp, hbes, hpip⟩ := Agent.after_run_outermost he hctx hbound htk
    (hb.depth.trans hone) (List.cons_ne_nil x []) (h.fin_lt hord hnf)
  rw [FrameMachine.run_sealing] at hsp
  refine ⟨hord, hnf, t, _, u, Agent.onThread_run_ok th hrun, hsp, hpip, hbes,
    fun th' hth' hne => h.apart hord hth' hne hb, tagged_sealed hb.tagged _, ?_⟩
  rw [← (F.script th).recorded_take_last, ← hb.count, LogicalStack.recorded_cons]
  cases x <;> rfl

/-- The outermost `after` of chain `th` while another chain that resumed still runs: the chain is
done, with every frame it recorded sealed, and the span keeps the holds still owed. -/
theorem Fan.finish (h : F.Fan P₀ S₀ past₀ pos order fin sealed S v) {th : Thread} (hth : th ∈ F.threads)
    (hpos : pos th = (F.script th).body.length + 1) (hmore : fin.length + 1 < order.length) :
    ∃ sealed' S' v', (Agent.onThread th (Hook.after (F.script th).last).dispatch).run v = .ok () v' ∧
      F.Fan P₀ S₀ past₀ (Function.update pos th ((F.script th).body.length + 2)) order (fin ++ [th]) sealed' S' v' := by
  obtain ⟨hord, hnf, t, x, u, hrun, hsp, hpip, hbes, hfree, hx, hcount⟩ := h.closes hth hpos
  -- the holds given back leave the span the holds still owed
  have hr : (if (holds order fin).creation then 2 else 1) < (FrameMachine.sealFrame S x).pending := by
    rw [FrameMachine.pending_sealFrame, h.pending]
    cases fin <;> simp [holds] at hmore ⊢ <;> omega
  obtain ⟨hsp', hpip'⟩ := Agent.giveBack_keep hsp rfl hr
  have hbesD := (Agent.dispatched_giveBack (Agent.beside_besides t).toQuiet (fun _ _ => rfl) (holds order fin)
    F.span u).trans hbes
  have ha := Aside.of_besides hbesD (Aside.unbound th t v _) v.here
  refine ⟨sealed ++ x.toList, _, _, hrun, ⟨fun th' hth' => ?_, fun th' hth' => ?_, fun th' hth' => ?_,
    h.order_nodup, h.order_sub, h.fin_nodup.append (List.nodup_singleton th) (by simpa using hnf),
    fun y hy => (List.mem_append.1 hy).elim (h.fin_sub y) (fun hy' => by simp_all), hsp',
    ((FrameMachine.kept_sealFrame S x).trans (SpanState.kept_pending _ _)).isOpen.trans h.isOpen, ?_,
    h.kept.trans ((FrameMachine.kept_sealFrame S x).trans (SpanState.kept_pending _ _)), ?_, ?_,
    fun th' hth' => ha.gone ▸ h.live th' hth', ha.settings ▸ h.limit, hpip'.trans (hpip.trans h.pipeline),
    h.tagged_append hord hx⟩⟩
  · rcases eq_or_ne th' th with rfl | hne
    · rw [Function.update_self]
      refine .done ?_ ?_
      · rw [congrArg ChainLocal.trace (World.chainAt_of_besides hbesD _ _)]
        exact World.trace_unbound v th' _
      · rw [List.countP_append, countP_own hx, hcount]
    · rw [Function.update_of_ne hne]
      exact (h.chains th' hth').aside ha hne (hfree th' hth' hne) hsp'
        (by rw [List.countP_append, countP_other h.order_lt hord hne hx, Nat.add_zero])
  · rcases eq_or_ne th' th with rfl | hne
    · rw [Function.update_self]
      simp [hord]
    · rw [Function.update_of_ne hne, h.started th' hth']
  · rcases eq_or_ne th' th with rfl | hne
    · rw [Function.update_self, Script.length_hooks]
      simp
    · rw [Function.update_of_ne hne, ← h.finished th' hth']
      simp [hne]
  · rw [← List.append_assoc]
    exact (FrameMachine.logged_sealFrame h.logged h.isOpen x).congr rfl rfl rfl
  · rw [FrameMachine.pending_sealFrame, h.pending]
    cases fin <;> simp [holds] at hmore ⊢ <;> omega
  · refine (congrArg (·[F.context]?) (World.asyncs_eq_of_besides hbesD)).trans ?_
    simp [(Array.getElem?_eq_some_iff.1 h.context).1, contextAt, holds_finish th hmore]

/-- The outermost `after` of the last chain still running, every other chain finished: the span is
handed to the pipeline once, and holds the frames offered to it up to its capacity, among them,
numbered by its branch, every frame each chain recorded. -/
theorem Fan.finishLast (h : F.Fan P₀ S₀ past₀ pos order fin sealed S v) {th : Thread} (hth : th ∈ F.threads)
    (hpos : pos th = (F.script th).body.length + 1) (hlast : fin.length + 1 = order.length)
    (hdone : ∀ th' ∈ F.threads, th' ≠ th → th' ∈ fin) :
    ∃ sealed' S' v', (Agent.onThread th (Hook.after (F.script th).last).dispatch).run v = .ok () v' ∧
      v'.pipeline = (P₀.onEnd S'.finishedSpan).2.2 ∧ S'.Logged (past₀ ++ sealed') ∧ S₀.Kept S' ∧
      (∀ th' ∈ F.threads,
        sealed'.countP (·.asyncId = some (F.tag order th')) = Hook.recorded F.limit 0 (F.script th').hooks) ∧
      ∀ e ∈ sealed', ∃ th' ∈ order, e.asyncId = some (F.tag order th') := by
  obtain ⟨hord, hnf, t, x, u, hrun, hsp, hpip, -, -, hx, hcount⟩ := h.closes hth hpos
  -- the holds given back are the last the span has
  have hp : (FrameMachine.sealFrame S x).pending = if (holds order fin).creation then 2 else 1 := by
    rw [FrameMachine.pending_sealFrame, h.pending]
    cases fin <;> simp [holds] at hlast ⊢ <;> omega
  refine ⟨sealed ++ x.toList, FrameMachine.sealFrame S x, _, hrun, ?_, ?_,
    h.kept.trans (FrameMachine.kept_sealFrame S x), fun th' hth' => ?_, h.tagged_append hord hx⟩
  · rw [show ({ Agent.dispatchedWorld (do Agent.giveBack (holds order fin) F.span; pure (.ok ())) u with
      here := v.here } : World).pipeline = _ from
        Agent.giveBack_last hsp rfl ((FrameMachine.kept_sealFrame S x).isOpen.trans h.isOpen) hp, hpip, h.pipeline]
  · rw [← List.append_assoc]
    exact FrameMachine.logged_sealFrame h.logged h.isOpen x
  · rcases eq_or_ne th' th with rfl | hne
    · rw [List.countP_append, countP_own hx, hcount]
    · -- every other chain is done, with its frames sealed before
      have hc := h.chains th' hth'
      rw [(h.finished th' hth').1 (hdone th' hth' hne), Script.length_hooks] at hc
      rw [List.countP_append, countP_other h.order_lt hord hne hx, Nat.add_zero, hc.count_of_done]

/-- The next hook of chain `th`, whichever it is, keeps the fan-in going: a first `before` while no
chain finished, a nested hook, or an outermost `after` while another chain that resumed still
runs. The chain goes one hook further; its first hook adds it to the chains that resumed, and its
last to those that finished. -/
theorem Fan.step (h : F.Fan P₀ S₀ past₀ pos order fin sealed S v) {th : Thread} (hth : th ∈ F.threads)
    {x : Hook} (hnext : (F.script th).hooks[pos th]? = some x) (hstart : pos th = 0 → fin = [])
    (hfinish : pos th = (F.script th).body.length + 1 → fin.length + 1 < order.length) :
    ∃ order' fin' sealed' S' v', (Agent.onThread th x.dispatch).run v = .ok () v' ∧
      F.Fan P₀ S₀ past₀ (Function.update pos th (pos th + 1)) order' fin' sealed' S' v' ∧
      order' = (if pos th = 0 then order ++ [th] else order) ∧
      fin' = (if pos th = (F.script th).body.length + 1 then fin ++ [th] else fin) := by
  rcases hp : pos th with _ | k
  · -- the outermost `before`
    obtain rfl := hstart hp
    rw [hp, Script.hooks_getElem_zero, Option.some.injEq] at hnext
    subst hnext
    obtain ⟨S', v', hrun, hf⟩ := h.start hth hp
    exact ⟨_, _, _, S', v', hrun, hf, rfl, by simp⟩
  by_cases hk : k < (F.script th).body.length
  · -- a nested hook
    rw [hp, Script.hooks_getElem_body _ hk, List.getElem?_eq_getElem hk, Option.some.injEq] at hnext
    have hne : k ≠ (F.script th).body.length := by omega
    cases x with
    | before e =>
      obtain ⟨S', v', hrun, hf⟩ := h.before hth hp hk hnext
      exact ⟨_, _, _, S', v', hrun, hf, by simp, by simp [hne]⟩
    | after e =>
      obtain ⟨sealed', S', v', hrun, hf⟩ := h.after hth hp hk hnext
      exact ⟨_, _, _, S', v', hrun, hf, by simp, by simp [hne]⟩
  · -- the outermost `after`
    have hlen : k = (F.script th).body.length := by
      have := (List.getElem?_eq_some_iff.1 hnext).1
      rw [hp, Script.length_hooks] at this
      omega
    subst hlen
    rw [hp, Script.hooks_getElem_last, Option.some.injEq] at hnext
    subst hnext
    obtain ⟨sealed', S', v', hrun, hf⟩ := h.finish hth hp (hfinish hp)
    exact ⟨_, _, _, S', v', hrun, hf, by simp, by simp⟩

end Fan

end FanIn

end TraceAgent
