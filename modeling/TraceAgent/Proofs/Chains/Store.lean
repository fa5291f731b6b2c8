import Mathlib
import TraceAgent.Proofs.Chains.Detached

/-!
# The chain store keeps only live states

Each thread keeps, per context, one chain state: the trace bound to the chain and a slot per
interceptor scope entered there. The store drops a state as soon as it holds nothing, and a
scope's slot goes with its last leave. This module proves that the store never holds anything
else, whatever is done to it: entries and leaves of scopes, attachments set and removed, traces
bound, removed and discarded, chains detached from their thread and swapped back in around the
work of a poll, on any threads.

* `ChainLocal.Entered` — every scope the state keeps a slot for is entered;
  `ChainLocal.Stored` — also, the state holds something.
* `World.StoreSound` — every state kept for a thread, and every state a detached chain carries,
  is `Stored`.
* `KeepsStore k` — every run of `k`, returning or panicking, keeps `World.StoreSound`; one lemma
  per operation, each from the one fact that the operation's change of the chain state keeps it
  `Entered` (`withChain_keepsStore`): the store itself drops what is empty.
* `ChainOp` — the operations on the store, with `poll` swapping a detached chain in around work of
  its own; `ChainOp.run_keepsStore` is the step lemma and `StoreReachable.storeSound` the run lemma.

Main statement: `chain_store_holds_only_entered_scopes` — in every world the operations reach,
no stored state is empty and every stored slot has depth at least one; so a scope has a slot on
a chain exactly while it is entered there, a leave never takes a depth below zero, and an
attachment set with no entry open stores nothing.
-/

namespace TraceAgent

theorem List.mem_of_lookup_eq_some {α β : Type} [BEq α] [LawfulBEq α] {l : List (α × β)} {k : α}
    {b : β} (h : l.lookup k = some b) : (k, b) ∈ l := by
  obtain ⟨l₁, l₂, rfl, -⟩ := List.lookup_eq_some_iff.1 h
  simp

namespace ChainLocal

/-- Every scope the state keeps a slot for is entered. -/
def Entered (c : ChainLocal) : Prop := ∀ p ∈ c.slots, 0 < p.2.depth

/-- A chain state as the store may keep it: it holds something, and it keeps a slot only for
scopes entered. -/
structure Stored (c : ChainLocal) : Prop where
  nonempty : c.isEmpty = false
  entered : c.Entered

variable {c : ChainLocal} {id : Nat} {s : ScopeSlot}

theorem entered_empty : ({} : ChainLocal).Entered := fun _ h => nomatch h

theorem mem_setSlot {p : Nat × ScopeSlot} (h : p ∈ (c.setSlot id s).slots) :
    p ∈ c.slots ∨ p = (id, s) := by
  simp only [setSlot, List.mem_mergeSort, List.mem_append, List.mem_filter,
    List.mem_singleton] at h
  rcases h with ⟨h, -⟩ | h
  · exact Or.inl h
  · exact Or.inr h

theorem Entered.setSlot (hc : c.Entered) (hs : 0 < s.depth) : (c.setSlot id s).Entered := by
  intro p hp
  rcases mem_setSlot hp with hp | rfl
  · exact hc p hp
  · exact hs

theorem Entered.eraseSlot (hc : c.Entered) : (c.eraseSlot id).Entered :=
  fun p hp => hc p (List.mem_of_mem_filter hp)

/-- A slot the state keeps belongs to an entered scope. -/
theorem Entered.depth_pos (hc : c.Entered) (h : c.slot? id = some s) : 0 < s.depth :=
  hc (id, s) (List.mem_of_lookup_eq_some h)

/-- An entered slot is left without clamping: the leave takes exactly one off. -/
theorem leave_depth_add_one (hs : 0 < s.depth) : s.leave.1.depth + 1 = s.depth := by
  rw [ScopeSlot.leave_depth]
  omega

end ChainLocal

namespace World

/-- The store holds only live states: every state kept for a thread, and every state a detached
chain carries, holds something and keeps a slot only for scopes entered. -/
structure StoreSound (w : World) : Prop where
  locals : ∀ p ∈ w.locals, p.2.Stored
  detached : ∀ p ∈ w.detached, ∀ c ∈ p.2, c.Stored

variable {w w' : World}

/-- Only the chain states and the detached chains are read. -/
theorem StoreSound.of_eq (hw : w.StoreSound) (hl : w'.locals = w.locals)
    (hd : w'.detached = w.detached) : w'.StoreSound :=
  ⟨hl ▸ hw.locals, hd ▸ hw.detached⟩

theorem StoreSound.localOf (hw : w.StoreSound) {th : Thread} {c : ChainLocal}
    (h : Agent.localOf w th = some c) : c.Stored :=
  hw.locals (th, c) (List.mem_of_lookup_eq_some h)

/-- A thread's chain, read with absent as empty, keeps slots only for scopes entered. -/
theorem StoreSound.chainAt_entered (hw : w.StoreSound) (th : Thread) : (w.chainAt th).Entered := by
  unfold chainAt
  cases h : Agent.localOf w th with
  | none => exact ChainLocal.entered_empty
  | some c => exact (hw.localOf h).entered

/-- Storing a chain state that keeps slots only for entered scopes keeps the store sound: an
empty state is dropped, not stored. -/
theorem StoreSound.withLocal (hw : w.StoreSound) (th : Thread) {c : Option ChainLocal}
    (hc : ∀ e ∈ c, e.Entered) : (w.withLocal th c).StoreSound := by
  have hrest : ∀ p ∈ w.locals.filter (fun p => p.1 != th), p.2.Stored :=
    fun p hp => hw.locals p (List.mem_of_mem_filter hp)
  unfold World.withLocal
  cases c with
  | none => exact ⟨hrest, hw.detached⟩
  | some e =>
    by_cases he : e.isEmpty = true
    · simp only [he, ite_true]
      exact ⟨hrest, hw.detached⟩
    · simp only [he]
      refine ⟨fun p hp => ?_, hw.detached⟩
      rcases List.mem_append.1 hp with hp | hp
      · exact hrest p hp
      · rw [List.mem_singleton.1 hp]
        exact ⟨by simpa using he, hc e rfl⟩

/-- A stored state, or none. -/
theorem StoreSound.localOf_stored (hw : w.StoreSound) (th : Thread) :
    ∀ e ∈ Agent.localOf w th, e.Stored :=
  fun _ he => hw.localOf he

/-- Putting the calling chain back as it reads stores nothing new. -/
theorem StoreSound.localOf_withLocal_chain (hw : w.StoreSound) (th : Thread) :
    Agent.localOf (w.withLocal w.here (some w.chain)) th = Agent.localOf w th := by
  by_cases hth : th = w.here
  · subst hth
    rw [localOf_withLocal_self, chain_eq_chainAt, chainAt]
    cases h : Agent.localOf w w.here with
    | none => rfl
    | some c => simp [Option.filter, (hw.localOf h).nonempty]
  · exact localOf_withLocal_ne w _ hth

theorem StoreSound.lookup_detached (hw : w.StoreSound) (name : String) :
    ∀ e ∈ (w.detached.lookup name).join, e.Stored := by
  intro e he
  cases h : w.detached.lookup name with
  | none => rw [h] at he; cases he
  | some c =>
    rw [h] at he
    exact hw.detached (name, c) (List.mem_of_lookup_eq_some h) e he


/-- A scope has a slot on a chain exactly while it is entered there. -/
theorem StoreSound.slot_ne_none_iff (hw : w.StoreSound) (th : Thread)
    (id : Nat) : (w.chainAt th).slot? id ≠ none ↔ 0 < (((w.chainAt th).slot? id).getD {}).depth := by
  cases h : (w.chainAt th).slot? id with
  | none => simp
  | some s => simp [(hw.chainAt_entered th).depth_pos h]

end World

namespace Agent

/-- Every run of `k`, returning or panicking, keeps the store sound. -/
def KeepsStore {α : Type} (k : Agent α) : Prop :=
  Runs World.StoreSound k (fun _ => World.StoreSound) World.StoreSound

section Keeps

variable {α β : Type}

theorem KeepsStore.bind {k : Agent α} {f : α → Agent β} (hk : KeepsStore k)
    (hf : ∀ a, KeepsStore (f a)) : KeepsStore (k >>= f) :=
  Runs.bind hk hf

theorem KeepsStore.pure (a : α) : KeepsStore (Pure.pure a : Agent α) := Runs.pure a fun _ h => h

theorem storageAvailable_keepsStore : KeepsStore storageAvailable := fun _ hw => hw

theorem log_keepsStore (e : LogEvent) : KeepsStore (log e) :=
  fun _ hw => ⟨hw.locals, hw.detached⟩

theorem trace_keepsStore (t : TraceRef) : KeepsStore (trace t) := fun _ hw => hw

theorem setTrace_keepsStore (t : TraceRef) (v : TraceObj) : KeepsStore (setTrace t v) :=
  fun _ hw => ⟨hw.locals, hw.detached⟩

theorem span_keepsStore (s : SpanRef) : KeepsStore (span s) := fun _ hw => hw

theorem setSpan_keepsStore (s : SpanRef) (v : SpanState) : KeepsStore (setSpan s v) :=
  fun _ hw => ⟨hw.locals, hw.detached⟩

/-- Work on the calling chain keeps the store sound as soon as its change of the chain state
keeps slots only for entered scopes. -/
theorem withChain_keepsStore {f : ChainLocal → α × ChainLocal}
    (hf : ∀ c, c.Entered → (f c).2.Entered) : KeepsStore (withChain f) := by
  refine Runs.mono (withChain_runs f) (fun w hw => ?_) (fun _ _ h => h) (fun _ h => h)
  split
  · refine hw.withLocal _ fun e he => ?_
    cases he
    exact hf _ (hw.chainAt_entered _)
  · exact hw

/-- Running on another thread and coming back keeps the store, which no thread owns. -/
theorem onThread_keepsStore (th : Thread) {k : Agent α} (hk : KeepsStore k) :
    KeepsStore (onThread th k) :=
  onThread_runs th fun _ => Runs.mono hk (fun _ hw => ⟨hw.1.locals, hw.1.detached⟩)
    (fun _ _ hw => ⟨hw.locals, hw.detached⟩) (fun _ hw => ⟨hw.locals, hw.detached⟩)

end Keeps

/-! ## Each operation on the store -/

/-- An entry adds one to the depth of its slot, which is then entered. -/
theorem scopeEnter_keepsStore (id : Nat) (p : ExecutionPolicy) : KeepsStore (scopeEnter id p) := by
  unfold scopeEnter
  refine KeepsStore.bind (withChain_keepsStore fun c hc => hc.setSlot (Nat.succ_pos _)) fun r => ?_
  split
  · exact KeepsStore.pure _
  · exact KeepsStore.bind (log_keepsStore _) fun _ => KeepsStore.pure _

/-- A leave erases the slot whose depth reaches zero and keeps the others entered. -/
theorem scopeLeave_keepsStore (id : Nat) : KeepsStore (scopeLeave id) := by
  unfold scopeLeave
  refine KeepsStore.bind (withChain_keepsStore fun c hc => ?_) fun r => ?_
  · dsimp only
    split
    · exact hc
    · next s hs =>
      -- the slot one shallower, erased when the depth reaches zero
      rcases hl : s.leave with ⟨s', e⟩
      have hd : s'.depth = s.depth - 1 := by rw [← ScopeSlot.leave_depth, hl]
      have he : e = (s.depth - 1 == 0) := by rw [show e = s.leave.2 by rw [hl]]; rfl
      cases e
      · refine hc.setSlot ?_
        have hne : s.depth - 1 ≠ 0 := by simpa using he.symm
        show 0 < s'.depth
        omega
      · exact hc.eraseSlot
  · split
    · exact KeepsStore.pure _
    · exact KeepsStore.bind (log_keepsStore _) fun _ => KeepsStore.pure _
    · exact KeepsStore.bind (log_keepsStore _) fun _ => KeepsStore.pure _

/-- Setting an attachment changes a slot that is there, and so entered, without its depth. -/
theorem setAttachment_keepsStore (id : Nat) (v : Attachment) :
    KeepsStore (setAttachment id v) := by
  unfold setAttachment
  refine KeepsStore.bind (withChain_keepsStore fun c hc => ?_) fun r => ?_
  · split
    · exact hc
    · next s hs => exact hc.setSlot (show 0 < s.depth from hc.depth_pos hs)
  · split
    · exact KeepsStore.pure _
    · exact KeepsStore.bind (log_keepsStore _) fun _ => KeepsStore.pure _

theorem removeAttachment_keepsStore (id : Nat) : KeepsStore (removeAttachment id) := by
  unfold removeAttachment
  refine KeepsStore.bind (withChain_keepsStore fun c hc => ?_) fun r => ?_
  · split
    · exact hc
    · next s hs => exact hc.setSlot (show 0 < s.depth from hc.depth_pos hs)
  · split <;> exact KeepsStore.pure _

theorem bindTrace_keepsStore (t : TraceRef) : KeepsStore (bindTrace t) := by
  unfold bindTrace
  refine KeepsStore.bind (withChain_keepsStore fun c hc => ?_) fun r => ?_
  · unfold ChainLocal.bindTrace
    split <;> exact hc
  · split <;> exact KeepsStore.pure _

theorem removeTraceObject_keepsStore : KeepsStore removeTraceObject := by
  unfold removeTraceObject
  refine KeepsStore.bind (withChain_keepsStore fun c hc => hc) fun r => ?_
  split <;> exact KeepsStore.pure _

theorem discardTraceObj_keepsStore (t : TraceRef) : KeepsStore (discardTraceObj t) := by
  unfold discardTraceObj
  refine KeepsStore.bind (trace_keepsStore t) fun o => ?_
  split
  · exact setTrace_keepsStore _ _
  · refine KeepsStore.bind (setTrace_keepsStore _ _) fun _ => ?_
    refine KeepsStore.bind (span_keepsStore _) fun s => ?_
    refine KeepsStore.bind (setSpan_keepsStore _ _) fun _ => ?_
    split
    · exact log_keepsStore _
    · exact KeepsStore.pure _

theorem discardTrace_keepsStore (t : TraceRef) : KeepsStore (discardTrace t) := by
  unfold discardTrace
  refine KeepsStore.bind (discardTraceObj_keepsStore t) fun _ => ?_
  refine KeepsStore.bind (withChain_keepsStore fun c hc => ?_) fun _ => KeepsStore.pure _
  split <;> exact hc

/-- Detaching hands over the thread's stored state, or none, and leaves the thread with
nothing. -/
theorem detachLocal_keepsStore :
    Runs World.StoreSound detachLocal (fun r w => w.StoreSound ∧ ∀ e ∈ r, e.Stored)
      World.StoreSound := by
  unfold detachLocal
  refine Runs.bind (R := fun r w => w.StoreSound ∧ ∀ c, r = .ok c → c.Entered)
    (Runs.mono (withChain_runs _) (fun w hw => ?_) (fun _ _ h => h) (fun _ h => h)) fun r => ?_
  · split
    · exact ⟨hw.withLocal _ fun e he => by cases he; exact ChainLocal.entered_empty,
        fun c hc => by cases hc; exact hw.chainAt_entered _⟩
    · exact ⟨hw, fun c hc => nomatch hc⟩
  · split
    next c =>
      refine Runs.pure _ fun w hw => ⟨hw.1, fun e he => ?_⟩
      by_cases hce : c.isEmpty = true
      · rw [if_pos hce] at he
        cases he
      · rw [if_neg hce] at he
        cases he
        exact ⟨by simpa using hce, hw.2 _ rfl⟩
    · exact Runs.pure _ fun w hw => ⟨hw.1, fun e he => nomatch he⟩

/-- A fact about the world a run starts in may be assumed. -/
theorem Runs.of_pre {α : Type} {P : World → Prop} {k : Agent α} {Q : α → World → Prop}
    {E : World → Prop} {φ : Prop} (hφ : ∀ w, P w → φ) (h : φ → Runs P k Q E) : Runs P k Q E :=
  fun w hw => h (hφ w hw) w hw

/-- A poll swaps a carried state in around its work and the thread's own state back on either
exit; the state it hands back is the one the store held for the thread, or none. -/
theorem withDetached_keepsStore {α : Type} {c : Option ChainLocal} (hc : ∀ e ∈ c, e.Stored)
    {k : Agent α} (hk : KeepsStore k) :
    Runs World.StoreSound (withDetached c k) (fun r w => w.StoreSound ∧ ∀ e ∈ r.2, e.Stored)
      World.StoreSound := by
  unfold withDetached
  refine Runs.bind storageAvailable_keepsStore fun b => ?_
  split
  · -- storage gone: the work runs on the thread as it is, and the carried state stays as it was
    exact Runs.bind hk fun _ => Runs.pure _ fun _ hw => ⟨hw, hc⟩
  · refine Runs.bind (R := fun v w => w = v ∧ w.StoreSound) (Runs.get fun w hw => ⟨rfl, hw⟩)
      fun v => Runs.of_pre (fun w hw => hw.1 ▸ hw.2) fun hv => ?_
    have hrestore : ∀ {E' : World → Prop}, Runs World.StoreSound
        (do
          let u ← MonadState.get
          putLocal v.here (localOf v v.here)
          Pure.pure (localOf u v.here) : Agent (Option ChainLocal))
        (fun r w => w.StoreSound ∧ ∀ e ∈ r, e.Stored) E' := by
      intro E'
      refine Runs.bind (R := fun u w => u = w ∧ w.StoreSound) (Runs.get fun w hw => ⟨rfl, hw⟩)
        fun u => ?_
      rw [putLocal_eq]
      refine Runs.bind (R := fun _ w => w.StoreSound ∧ ∀ e ∈ localOf u v.here, e.Stored)
        (Runs.modify _ fun w hw => ?_) fun _ => Runs.pure _ fun _ h => h
      obtain ⟨rfl, hw⟩ := hw
      exact ⟨hw.withLocal _ fun e he => (hv.localOf he).entered, hw.localOf_stored _⟩
    refine Runs.bind (R := fun _ w => w.StoreSound)
      (by rw [putLocal_eq]; exact Runs.modify _ fun w hw => hw.2.withLocal _ fun e he =>
        (hc e he).entered) fun _ => ?_
    dsimp only
    exact Runs.bind (Runs.tryCatch hk fun e => Runs.bind hrestore fun _ => Runs.throw e
      fun _ h => h.1) fun _ => Runs.bind hrestore fun _ => Runs.pure _ fun _ h => h

/-! ## Every operation, and every run -/

/-- Keeps a detached chain state under a name, replacing the one kept there before, as the
future carrying it does between its polls. -/
def keepDetached (name : String) (c : Option ChainLocal) : Agent Unit :=
  modify fun w =>
    { w with detached := w.detached.filter (fun (p : String × Option ChainLocal) => p.1 != name) ++
      [(name, c)] }

theorem keepDetached_keepsStore (name : String) (c : Option ChainLocal) :
    Runs (fun w => w.StoreSound ∧ ∀ e ∈ c, e.Stored) (keepDetached name c)
      (fun _ => World.StoreSound) World.StoreSound := by
  refine Runs.modify _ fun w hw => ⟨hw.1.locals, fun p hp => ?_⟩
  rcases List.mem_append.1 hp with hp | hp
  · exact hw.1.detached p (List.mem_of_mem_filter hp)
  · rw [List.mem_singleton.1 hp]
    exact hw.2

/-- The operations on the chain store. Each runs on the calling thread unless `onThread` moves
it; `poll` runs its work with the chain state kept under a name swapped in, as a future carrying
that chain does, and keeps what the work leaves of it; a name with nothing kept is a new chain. -/
inductive ChainOp where
  | enter (scope : Nat) (policy : ExecutionPolicy)
  | leave (scope : Nat)
  | setAttachment (scope : Nat) (v : Attachment)
  | removeAttachment (scope : Nat)
  | bindTrace (t : TraceRef)
  | removeTrace
  | discardTrace (t : TraceRef)
  | detach (name : String)
  | poll (name : String) (work : ChainOp)
  | seq (first second : ChainOp)
  | onThread (th : Thread) (op : ChainOp)

namespace ChainOp

/-- Runs an operation on the store. -/
def run : ChainOp → Agent Unit
  | enter id p => do
    let _ ← scopeEnter id p
    pure ()
  | leave id => do
    let _ ← scopeLeave id
    pure ()
  | setAttachment id v => do
    let _ ← Agent.setAttachment id v
    pure ()
  | removeAttachment id => do
    let _ ← Agent.removeAttachment id
    pure ()
  | bindTrace t => do
    let _ ← Agent.bindTrace t
    pure ()
  | removeTrace => do
    let _ ← removeTraceObject
    pure ()
  | discardTrace t => Agent.discardTrace t
  | detach name => do keepDetached name (← detachLocal)
  | poll name work => do
    let c := ((← get).detached.lookup name).join
    let r ← withDetached c work.run
    keepDetached name r.2
  | seq a b => do
    a.run
    b.run
  | onThread th op => Agent.onThread th op.run

/-- Every operation keeps the store sound, on either exit. -/
theorem run_keepsStore (op : ChainOp) : KeepsStore op.run := by
  induction op with
  | enter id p => exact KeepsStore.bind (scopeEnter_keepsStore id p) fun _ => KeepsStore.pure _
  | leave id => exact KeepsStore.bind (scopeLeave_keepsStore id) fun _ => KeepsStore.pure _
  | setAttachment id v =>
    exact KeepsStore.bind (setAttachment_keepsStore id v) fun _ => KeepsStore.pure _
  | removeAttachment id =>
    exact KeepsStore.bind (removeAttachment_keepsStore id) fun _ => KeepsStore.pure _
  | bindTrace t => exact KeepsStore.bind (bindTrace_keepsStore t) fun _ => KeepsStore.pure _
  | removeTrace => exact KeepsStore.bind removeTraceObject_keepsStore fun _ => KeepsStore.pure _
  | discardTrace t => exact discardTrace_keepsStore t
  | detach name => exact Runs.bind detachLocal_keepsStore fun c => keepDetached_keepsStore name c
  | poll name work ih =>
    refine Runs.bind (R := fun v w => w = v ∧ w.StoreSound) (Runs.get fun w hw => ⟨rfl, hw⟩)
      fun v => Runs.of_pre (fun w hw => hw.1 ▸ hw.2) fun hv => ?_
    exact Runs.bind (Runs.mono (withDetached_keepsStore (hv.lookup_detached name) ih)
      (fun _ hw => hw.2) (fun _ _ h => h) (fun _ h => h)) fun r => keepDetached_keepsStore name r.2
  | seq a b iha ihb => exact KeepsStore.bind iha fun _ => ihb
  | onThread th op ih => exact onThread_keepsStore th ih

end ChainOp

/-- The worlds the operations on the chain store reach from a store with nothing in it. -/
inductive StoreReachable : World → Prop
  | empty {w : World} (hl : w.locals = []) (hd : w.detached = []) : StoreReachable w
  | step {w : World} (op : ChainOp) (h : StoreReachable w) : StoreReachable (finalWorld op.run w)

/-- Every world the operations reach holds a sound store. -/
theorem StoreReachable.storeSound {w : World} (h : StoreReachable w) : w.StoreSound := by
  induction h with
  | empty hl hd => exact ⟨by simp [hl], by simp [hd]⟩
  | step op _ ih => exact (ChainOp.run_keepsStore op).finalWorld ih

/-! ## What a sound store gives -/

/-- An attachment set on a scope with no entry open on the calling chain is stored nowhere: the
call returns the value to its caller and every thread's chain reads as it did. -/
theorem setAttachment_unentered {w : World} (hw : w.StoreSound) {id : Nat} (hd : w.depth id = 0)
    (v : Attachment) :
    ∃ w', (setAttachment id v).run w = .ok (none, some v) w' ∧
      ∀ th, localOf w' th = localOf w th := by
  -- with no entry open the scope has no slot, since every slot kept is entered
  have hslot : w.chain.slot? id = none := by
    cases hs : w.chain.slot? id with
    | none => rfl
    | some s =>
      have hpos := (hw.chainAt_entered w.here).depth_pos hs
      have hds : w.depth id = s.depth := by
        rw [World.depth, World.slot, hs]
        rfl
      omega
  have hrun : Runs (fun u => u = w) (setAttachment id v)
      (fun r u => r = (none, some v) ∧ ∀ th, localOf u th = localOf w th) (fun _ => False) := by
    unfold setAttachment
    refine Runs.bind (R := fun r u => (r = .ok (none, false) ∨ r = .error .chainUnavailable) ∧
        ∀ th, localOf u th = localOf w th)
      (Runs.mono (withChain_runs _) (fun u hu => ?_) (fun _ _ h => h) (fun _ h => h)) fun r => ?_
    · subst hu
      split
      · refine ⟨Or.inl ?_, ?_⟩
        · simp only [hslot]
        · simp only [hslot]
          exact hw.localOf_withLocal_chain
      · exact ⟨Or.inr rfl, fun _ => rfl⟩
    · split
      · exact Runs.of_false fun _ h => by obtain ⟨h | h, -⟩ := h <;> simp at h
      · exact Runs.bind (log_runs _ (Q := fun _ u => ∀ th, localOf u th = localOf w th)
          |>.mono (fun _ h => h.2) (fun _ _ h => h) (fun _ h => h))
          fun _ => Runs.pure _ fun _ h => ⟨rfl, h⟩
  obtain ⟨r, w', hr, rfl, hl⟩ := Runs.exists_ok hrun
  exact ⟨w', hr, hl⟩

end Agent

end TraceAgent
