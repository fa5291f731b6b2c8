import Mathlib
import TraceAgent.Proofs.Scopes.Gates

/-!
# Work on a detached chain

A future may carry a call chain of its own, apart from every thread. Each poll of it runs
through `withDetached`: the carried state is swapped into the polling thread, the work of the
poll runs on it, and the two are swapped back — the thread gets its own state again, on return
and on panic alike, and the future keeps what the work left, for its next poll.

The run of one poll is described once, by `withDetached_run`: it is the run of the work from the
world with the carried state swapped in, then `swapBack`. The rest is read off that equation.

* `withDetached_restores`: whatever the work does, nested polls and panics included, the polling
  thread's chain reads as it did before the poll.
* `withDetached_chainTriple`: the work sees the carried state, and the state handed back is the one
  it left; so a triple about the chain alone (`ChainTriple`) that holds of the work holds of the
  carried state across the poll.
* `pollAll_runs`: over any sequence of polls, with anything at all run on any thread between
  them, the carried state moves through the triples of the polls' work one after another, as a
  chain of its own would.
* `detachLocal_run`: a state taken off a thread is the thread's state, and the thread is left
  with nothing.

A chain with nothing stored reads as empty (`World.chainAt`): the store drops empty states, so an
absent state and an empty one cannot be told apart. The world holds the chain states of one
context, so the chains of another context are out of reach of everything here.
-/

namespace TraceAgent

namespace ChainLocal

/-- A state holding nothing is the empty state. -/
theorem eq_empty_of_isEmpty {c : ChainLocal} (h : c.isEmpty = true) : c = {} := by
  obtain ⟨t, slots⟩ := c
  simp only [isEmpty, Bool.and_eq_true, Option.isNone_iff_eq_none, List.isEmpty_iff] at h
  obtain ⟨rfl, rfl⟩ := h
  rfl

/-- An optional state, read with absent as empty, is kept by dropping it when empty. -/
theorem getD_filter_nonempty (c : Option ChainLocal) :
    (c.filter fun e => !e.isEmpty).getD {} = c.getD {} := by
  cases c with
  | none => rfl
  | some e =>
    cases he : e.isEmpty with
    | true =>
      obtain rfl := eq_empty_of_isEmpty he
      rfl
    | false => simp [Option.filter, he]

end ChainLocal

namespace World

/-- The chain state of thread `th`; a chain with nothing stored reads as empty. -/
def chainAt (w : World) (th : Thread) : ChainLocal := (Agent.localOf w th).getD {}

theorem chain_eq_chainAt (w : World) : w.chain = w.chainAt w.here := rfl

/-- Dropping the entries of one thread keeps those of every other. -/
theorem lookup_filter_ne (l : List (Thread × ChainLocal)) {th th' : Thread} (h : th' ≠ th) :
    (l.filter (fun p => p.1 != th)).lookup th' = l.lookup th' := by
  induction l with
  | nil => rfl
  | cons p l ih =>
    obtain ⟨k, v⟩ := p
    by_cases hk : k = th
    · subst hk
      simp [List.lookup_cons, beq_eq_false_iff_ne.mpr h, ih]
    · by_cases ha : th' = k <;> simp [hk, List.lookup_cons, ha, ih]

/-- The stored state of a thread just replaced: the new state, dropped if empty. -/
theorem localOf_withLocal_self (w : World) (th : Thread) (c : Option ChainLocal) :
    Agent.localOf (w.withLocal th c) th = c.filter fun e => !e.isEmpty := by
  unfold withLocal Agent.localOf
  cases c with
  | none => simp [lookup_filter_self]
  | some c =>
    by_cases he : c.isEmpty = true
    · simp [he, lookup_filter_self, Option.filter]
    · simp [he, List.lookup_append, lookup_filter_self, Option.filter]

theorem localOf_withLocal_ne (w : World) {th th' : Thread} (c : Option ChainLocal) (h : th' ≠ th) :
    Agent.localOf (w.withLocal th c) th' = Agent.localOf w th' := by
  unfold withLocal Agent.localOf
  cases c with
  | none => exact lookup_filter_ne _ h
  | some c =>
    by_cases he : c.isEmpty = true
    · simp only [he, ite_true]
      exact lookup_filter_ne _ h
    · have hne : (th' == th) = false := beq_eq_false_iff_ne.mpr h
      simp [he, List.lookup_append, lookup_filter_ne _ h, List.lookup_cons, hne]

@[simp] theorem chainAt_withLocal_self (w : World) (th : Thread) (c : Option ChainLocal) :
    (w.withLocal th c).chainAt th = c.getD {} := by
  rw [chainAt, localOf_withLocal_self, ChainLocal.getD_filter_nonempty]

@[simp] theorem chainUp_withLocal (w : World) (th : Thread) (c : Option ChainLocal) :
    (w.withLocal th c).chainUp = w.chainUp := by
  simp [chainUp]

theorem chainAt_eq_of_locals {v w : World} (h : v.locals = w.locals) (th : Thread) :
    v.chainAt th = w.chainAt th := by
  simp only [chainAt, Agent.localOf, h]

theorem chainAt_withLocal_ne (w : World) {th th' : Thread} (c : Option ChainLocal) (h : th' ≠ th) :
    (w.withLocal th c).chainAt th' = w.chainAt th' := by
  rw [chainAt, chainAt, localOf_withLocal_ne w c h]

end World

namespace Agent

variable {α β : Type}

/-! ## One poll -/

/-- The end of a poll on thread `th`: the thread gets `own` back, on return and on panic, and a
returning poll hands back the state its work left on `th`. -/
def swapBack (th : Thread) (own : Option ChainLocal) :
    EStateM.Result String World α → EStateM.Result String World (α × Option ChainLocal)
  | .ok a w => .ok (a, localOf w th) (w.withLocal th own)
  | .error e w => .error e (w.withLocal th own)

theorem storageAvailable_run (w : World) : storageAvailable.run w = .ok w.chainUp w := rfl

theorem get_run (w : World) : (get : Agent World).run w = .ok w w := rfl

theorem putLocal_run (th : Thread) (c : Option ChainLocal) (w : World) :
    (putLocal th c).run w = .ok () (w.withLocal th c) := rfl

/-- The swap back at the end of a poll, from the world the work left. -/
theorem restore_run (th : Thread) (own : Option ChainLocal) (w : World) :
    (do
      let after := localOf (← get) th
      putLocal th own
      pure after : Agent (Option ChainLocal)).run w = .ok (localOf w th) (w.withLocal th own) := rfl

theorem run_tryCatch_error {x : Agent α} {h : String → Agent α} {w w' : World} {e : String}
    (hx : x.run w = .error e w') : (tryCatch x h).run w = (h e).run w' := by
  have hx' : x w = .error e w' := hx
  change EStateM.tryCatch x h w = _
  unfold EStateM.tryCatch
  rw [hx']
  rfl

/-- A poll with the thread's storage up: the work runs from the world with the carried state
swapped in, and the thread's own state is swapped back on either exit. -/
theorem withDetached_run (c : Option ChainLocal) (k : Agent α) (w : World)
    (hup : w.chainUp = true) :
    (withDetached c k).run w = swapBack w.here (localOf w w.here) (k.run (w.withLocal w.here c)) := by
  unfold withDetached
  rw [run_bind_ok (storageAvailable_run w), hup]
  dsimp only [Bool.not_true]
  rw [if_neg (by decide), run_bind_ok (get_run w), run_bind_ok (putLocal_run w.here c w),
    EStateM.run_bind]
  cases hk : k.run (w.withLocal w.here c) with
  | ok a v =>
    rw [run_tryCatch_ok hk]
    rfl
  | error e v =>
    -- the handler swaps back, then panics again
    rw [run_tryCatch_error hk, run_bind_ok (restore_run w.here (localOf w w.here) v)]
    rfl

/-- Whatever the work of a poll does, nested polls and panics included, the polling thread's chain
reads afterwards as it did before. -/
theorem withDetached_restores (c : Option ChainLocal) (k : Agent α) {th : Thread}
    {P : ChainLocal → Prop} :
    Runs (fun w => w.here = th ∧ w.chainUp ∧ P (w.chainAt th)) (withDetached c k)
      (fun _ w => P (w.chainAt th)) (fun w => P (w.chainAt th)) := by
  rintro w ⟨rfl, hup, hP⟩
  rw [withDetached_run c k w hup]
  cases k.run (w.withLocal w.here c) with
  | ok a v =>
    simp only [swapBack, World.chainAt_withLocal_self]
    exact hP
  | error e v =>
    simp only [swapBack, World.chainAt_withLocal_self]
    exact hP

/-! ## Triples about a chain alone -/

/-- `ChainTriple P k Q`: started on a thread with storage up whose chain satisfies `P`, the work
`k` returns with that thread's chain satisfying `Q`. It speaks of the chain the work runs on and
of nothing else. -/
def ChainTriple (P : ChainLocal → Prop) (k : Agent α) (Q : ChainLocal → Prop) : Prop :=
  ∀ th, Runs (fun w => w.here = th ∧ w.chainUp ∧ P (w.chainAt th)) k (fun _ w => Q (w.chainAt th))
    (fun _ => True)

/-- A poll carries a triple of its work over to the carried state: started on a carried state
satisfying `P`, it hands back one satisfying `Q`. -/
theorem withDetached_chainTriple {P Q : ChainLocal → Prop} {k : Agent α} (hk : ChainTriple P k Q)
    (c : Option ChainLocal) (hc : P (c.getD {})) :
    Runs (fun w => w.chainUp) (withDetached c k) (fun r _ => Q (r.2.getD {})) (fun _ => True) := by
  intro w hup
  rw [withDetached_run c k w hup]
  have hrun := hk w.here (w.withLocal w.here c)
    ⟨World.here_withLocal, by simpa using hup, by simpa using hc⟩
  revert hrun
  cases k.run (w.withLocal w.here c) with
  | ok a v => exact id
  | error e v => exact fun _ => trivial

/-! ## A sequence of polls -/

/-- A future carrying `c`, polled once for each pair: the first part runs before the poll, on any
thread and doing anything, the second is the work of the poll. Returns what each poll returned and
the state the future carries at the end. -/
def pollAll : Option ChainLocal → List (Agent Unit × Agent α) → Agent (List α × Option ChainLocal)
  | c, [] => pure ([], c)
  | c, (between, k) :: rest => do
    between
    let (a, c') ← withDetached c k
    let (as, c'') ← pollAll c' rest
    pure (a :: as, c'')

/-- Over a sequence of polls, the carried state moves through the triples of their work one after
another, whatever runs between them, as long as each poll finds the thread's storage up. -/
theorem pollAll_runs (polls : List (Agent Unit × Agent α)) (I : Nat → ChainLocal → Prop)
    (hb : ∀ p ∈ polls, Runs (fun _ => True) p.1 (fun _ w => w.chainUp) (fun _ => True))
    (hk : ∀ i (hi : i < polls.length), ChainTriple (I i) (polls.get ⟨i, hi⟩).2 (I (i + 1)))
    (c : Option ChainLocal) (hc : I 0 (c.getD {})) :
    Runs (fun _ => True) (pollAll c polls) (fun r _ => I polls.length (r.2.getD {}))
      (fun _ => True) := by
  -- induction on the polls, the invariants shifted by one at each step
  induction polls generalizing I c with
  | nil => exact Runs.pure _ fun _ _ => hc
  | cons p rest ih =>
    obtain ⟨between, k⟩ := p
    have hfirst : ChainTriple (I 0) k (I 1) := hk 0 (by simp)
    have hrest : ∀ i (hi : i < rest.length),
        ChainTriple (I (i + 1)) (rest.get ⟨i, hi⟩).2 (I (i + 1 + 1)) :=
      fun i hi => hk (i + 1) (by simpa using hi)
    have hb' : ∀ q ∈ rest, Runs (fun _ => True) q.1 (fun _ w => w.chainUp) (fun _ => True) :=
      fun q hq => hb q (List.mem_cons_of_mem _ hq)
    refine Runs.bind (hb _ List.mem_cons_self) fun _ => ?_
    refine Runs.bind (withDetached_chainTriple hfirst c hc) fun r w hr => ?_
    obtain ⟨a, c'⟩ := r
    exact Runs.bind (ih (fun i => I (i + 1)) hb' hrest c' hr) (fun r' => Runs.pure _ fun _ h => by
      simpa using h) w trivial

/-! ## Where a carried state comes from -/

/-- A chain operation on a thread with storage up. -/
theorem withChain_run (f : ChainLocal → β × ChainLocal) (w : World) (hup : w.chainUp = true) :
    (withChain f).run w = .ok (.ok (f w.chain).1) (w.withLocal w.here (some (f w.chain).2)) := by
  unfold withChain
  rw [run_bind_ok (storageAvailable_run w), hup]
  dsimp only [Bool.not_true]
  rw [if_neg (by decide), run_bind_ok (get_run w)]
  rfl

/-- Taking the chain off a thread with storage up: the thread's state is handed over, dropped if
empty, and the thread is left with nothing. -/
theorem detachLocal_run (w : World) (hup : w.chainUp = true) :
    detachLocal.run w = .ok (if w.chain.isEmpty then none else some w.chain)
      (w.withLocal w.here (some {})) := by
  unfold detachLocal
  rw [run_bind_ok (withChain_run _ w hup)]
  rfl

/-! ## A future on a chain of its own -/

end Agent

end TraceAgent
