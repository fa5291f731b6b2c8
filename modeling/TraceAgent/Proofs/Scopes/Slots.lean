import Mathlib.Data.List.Pairwise
import TraceAgent.Agent.Scopes
import TraceAgent.Proofs.Runs

/-!
# The slots of a chain

Each interceptor scope keeps, on each chain, a slot: its depth and its attachment
(`Agent/Scopes`). This module reads the slots of the calling chain off a world and says what the
chain operations do to them, one triple each, in the weakest-precondition form of
`Proofs/Runs`.

* `World.slot`, `World.depth`, `World.attachment`: the calling chain's slot of a scope, read as
  empty (depth zero, no attachment) when there is none.
* `World.entered`, `World.left` and `World.attached`: the world after an entry, after a leave and
  after a value is stored in a scope's slot.
* `scopeEnter_runs`: entering counts one more entry and answers by the depth found;
  `scopeLeave_runs`: leaving counts one out and hands back the attachment with the last entry;
  `scopeDepth_runs`: the depth a gate reads is the slot's; `setAttachment_runs` and
  `attachment_runs`: a value is stored in and read from the slot itself, whatever the depth.

Slots are kept sorted by scope number, so an update is a sort; `ChainLocal.slot?_setSlot` says
that only the slot updated reads differently afterwards, because the sort is stable.
-/

namespace TraceAgent

namespace ChainLocal

/-- A filter on scope numbers keeps the slots of the scopes it keeps and drops the others. -/
theorem lookup_filter (f : Nat → Bool) (q : Nat) (l : List (Nat × ScopeSlot)) :
    (l.filter fun p => f p.1).lookup q = if f q then l.lookup q else none := by
  induction l with
  | nil => simp
  | cons p l ih =>
    obtain ⟨k, v⟩ := p
    simp only [List.filter_cons]
    by_cases hq : q = k
    · subst hq
      cases hf : f q <;> simp [hf, ih]
    · have hb : (q == k) = false := beq_eq_false_iff_ne.mpr hq
      cases f k <;> simp [List.lookup_cons, hb, ih]

/-- Sorting by scope number keeps the slots of each scope in their order. -/
theorem filter_mergeSort_key (l : List (Nat × ScopeSlot)) (k : Nat) :
    (l.mergeSort (fun a b => a.1 ≤ b.1)).filter (·.1 == k) = l.filter (·.1 == k) := by
  have hsub : List.Sublist (l.filter (·.1 == k)) (l.mergeSort (fun a b => a.1 ≤ b.1)) :=
    List.sublist_mergeSort (by simp only [decide_eq_true_eq]; omega)
      (by simp only [Bool.or_eq_true, decide_eq_true_eq]; omega)
      (List.pairwise_of_forall_mem_list fun a ha b hb => by
        simp only [List.mem_filter, beq_iff_eq] at ha hb
        simp [ha.2, hb.2])
      List.filter_sublist
  have hsub' : List.Sublist (l.filter (·.1 == k))
      ((l.mergeSort (fun a b => a.1 ≤ b.1)).filter (·.1 == k)) := by
    simpa using hsub.filter (·.1 == k)
  have hlen := ((List.mergeSort_perm l (fun a b => a.1 ≤ b.1)).filter (·.1 == k)).length_eq
  exact (hsub'.eq_of_length hlen.symm).symm

theorem slot?_setSlot (c : ChainLocal) (id j : Nat) (s : ScopeSlot) :
    (c.setSlot id s).slot? j = if j = id then some s else c.slot? j := by
  unfold setSlot slot?
  -- a lookup of `j` reads only the slots of `j`, which the stable sort keeps in order
  have hkey : ∀ l : List (Nat × ScopeSlot), (l.filter (·.1 == j)).lookup j = l.lookup j :=
    fun l => by simp [lookup_filter (· == j)]
  dsimp only
  rw [← hkey, filter_mergeSort_key, hkey, List.lookup_append, lookup_filter (· != id)]
  by_cases h : j = id
  · subst h
    simp
  · have hone : List.lookup j [(id, s)] = none := by
      have h' : (j == id) = false := by simpa using h
      simp [List.lookup_cons, h']
    simp [h, hone]

theorem slot?_eraseSlot (c : ChainLocal) (id j : Nat) :
    (c.eraseSlot id).slot? j = if j = id then none else c.slot? j := by
  unfold eraseSlot slot?
  rw [lookup_filter (· != id)]
  by_cases h : j = id <;> simp [h]

end ChainLocal

namespace World

/-- The calling chain's state; a chain with nothing stored reads as empty. -/
def chain (w : World) : ChainLocal := (Agent.localOf w w.here).getD {}

/-- The slot of scope `id` on the calling chain. -/
def slot (w : World) (id : Nat) : Option ScopeSlot := w.chain.slot? id

/-- Entries of scope `id` on the calling chain not yet left. -/
def depth (w : World) (id : Nat) : Nat := ((w.slot id).getD {}).depth

/-- The attachment of scope `id` on the calling chain. -/
def attachment (w : World) (id : Nat) : Option Attachment := ((w.slot id).getD {}).attachment

/-- Whether the calling thread's chain storage can be reached. -/
def chainUp (w : World) : Bool := !w.gone.contains w.here

/-- The world with the chain state of thread `th` replaced; an empty state is dropped. -/
def withLocal (w : World) (th : Thread) (c : Option ChainLocal) : World :=
  let rest := w.locals.filter (fun p => p.1 != th)
  match c with
  | some c => if c.isEmpty then { w with locals := rest } else { w with locals := rest ++ [(th, c)] }
  | none => { w with locals := rest }

/-- The world after an entry into scope `id`: its slot one deeper, the rest of it as it was. -/
def entered (w : World) (id : Nat) : World :=
  w.withLocal w.here (some (w.chain.setSlot id { (w.slot id).getD {} with depth := w.depth id + 1 }))

/-- The world after a leave of the entered scope `id`: its slot one shallower, and gone with the
last entry. -/
def left (w : World) (id : Nat) : World :=
  if w.depth id ≤ 1 then w.withLocal w.here (some (w.chain.eraseSlot id))
  else w.withLocal w.here (some (w.chain.setSlot id { (w.slot id).getD {} with depth := w.depth id - 1 }))

/-- The world after `x` is stored in the slot of scope `id`, the rest of the slot as it was. -/
def attached (w : World) (id : Nat) (x : Attachment) : World :=
  w.withLocal w.here (some (w.chain.setSlot id { (w.slot id).getD {} with attachment := some x }))

section WithLocal

variable {w : World} {th : Thread} {c : Option ChainLocal} {id j : Nat}

@[simp] theorem here_withLocal : (w.withLocal th c).here = w.here := by
  unfold withLocal; split <;> (try split) <;> rfl

@[simp] theorem gone_withLocal : (w.withLocal th c).gone = w.gone := by
  unfold withLocal; split <;> (try split) <;> rfl

@[simp] theorem scopeNames_withLocal : (w.withLocal th c).scopeNames = w.scopeNames := by
  unfold withLocal; split <;> (try split) <;> rfl

/-- Replacing a chain state changes nothing else of the world. -/
theorem withLocal_eq (w : World) (th : Thread) (c : Option ChainLocal) :
    w.withLocal th c = { w with locals := (w.withLocal th c).locals } := by
  unfold withLocal; split <;> (try split) <;> rfl

@[simp] theorem traces_withLocal : (w.withLocal th c).traces = w.traces := by rw [withLocal_eq]

@[simp] theorem spans_withLocal : (w.withLocal th c).spans = w.spans := by rw [withLocal_eq]

@[simp] theorem settings_withLocal : (w.withLocal th c).settings = w.settings := by rw [withLocal_eq]

@[simp] theorem registry_withLocal : (w.withLocal th c).registry = w.registry := by rw [withLocal_eq]

@[simp] theorem pipeline_withLocal : (w.withLocal th c).pipeline = w.pipeline := by rw [withLocal_eq]

theorem lookup_filter_self (l : List (Thread × ChainLocal)) (th : Thread) :
    (l.filter (fun p => p.1 != th)).lookup th = none := by
  simp only [List.lookup_eq_none_iff, List.mem_filter, bne_iff_ne, ne_eq]
  rintro ⟨a, b⟩ ⟨-, hp⟩
  simpa using Ne.symm hp

/-- The calling thread's new chain state is what its slots read. -/
theorem slot_withLocal_here (w : World) (c : Option ChainLocal) (j : Nat) :
    (w.withLocal w.here c).slot j = (c.getD {}).slot? j := by
  unfold withLocal slot chain Agent.localOf
  cases c with
  | none => simp [lookup_filter_self]
  | some c =>
    by_cases he : c.isEmpty
    · have hs : c.slots = [] := by
        simp only [ChainLocal.isEmpty, Bool.and_eq_true] at he
        exact List.isEmpty_iff.1 he.2
      simp [he, lookup_filter_self, ChainLocal.slot?, hs]
    · simp [he, List.lookup_append, lookup_filter_self]

/-- The calling thread's new chain state is bound to the trace it names. -/
theorem trace_chain_withLocal_here (w : World) (c : ChainLocal) :
    (w.withLocal w.here (some c)).chain.trace = c.trace := by
  unfold withLocal chain Agent.localOf
  by_cases he : c.isEmpty
  · have ht : c.trace = none := by
      simp only [ChainLocal.isEmpty, Bool.and_eq_true, Option.isNone_iff_eq_none] at he
      exact he.1
    simp [he, lookup_filter_self, ht]
  · simp [he, List.lookup_append, lookup_filter_self]

/-- An entry changes nothing but the chain states. -/
theorem entered_eq : w.entered id = { w with locals := (w.entered id).locals } :=
  withLocal_eq _ _ _

@[simp] theorem here_entered : (w.entered id).here = w.here := here_withLocal

@[simp] theorem gone_entered : (w.entered id).gone = w.gone := gone_withLocal

@[simp] theorem scopeNames_entered : (w.entered id).scopeNames = w.scopeNames := scopeNames_withLocal

@[simp] theorem chainUp_entered : (w.entered id).chainUp = w.chainUp := by
  simp [chainUp]

@[simp] theorem trace_chain_entered : (w.entered id).chain.trace = w.chain.trace := by
  rw [entered, trace_chain_withLocal_here]
  rfl

theorem slot_entered : (w.entered id).slot j =
    if j = id then some { (w.slot id).getD {} with depth := w.depth id + 1 } else w.slot j := by
  rw [entered, slot_withLocal_here, Option.getD_some, ChainLocal.slot?_setSlot]
  rfl

theorem depth_entered : (w.entered id).depth j = if j = id then w.depth id + 1 else w.depth j := by
  by_cases h : j = id
  · simp [depth, slot_entered, h]
  · simp [depth, slot_entered, h]

/-- An entry leaves every attachment where it was. -/
@[simp] theorem attachment_entered : (w.entered id).attachment j = w.attachment j := by
  by_cases h : j = id
  · subst h
    simp [attachment, slot_entered]
  · simp [attachment, slot_entered, h]

/-- A leave changes nothing but the chain states. -/
theorem left_eq : w.left id = { w with locals := (w.left id).locals } := by
  unfold left
  split <;> exact withLocal_eq _ _ _

@[simp] theorem here_left : (w.left id).here = w.here := by
  unfold left; split <;> simp

@[simp] theorem gone_left : (w.left id).gone = w.gone := by
  unfold left; split <;> simp

@[simp] theorem scopeNames_left : (w.left id).scopeNames = w.scopeNames := by
  unfold left; split <;> simp

@[simp] theorem chainUp_left : (w.left id).chainUp = w.chainUp := by
  simp [chainUp]

@[simp] theorem trace_chain_left : (w.left id).chain.trace = w.chain.trace := by
  unfold left
  split <;> (rw [trace_chain_withLocal_here]; rfl)

theorem slot_left_ne (h : j ≠ id) : (w.left id).slot j = w.slot j := by
  unfold left
  split
  · rw [slot_withLocal_here, Option.getD_some, ChainLocal.slot?_eraseSlot, if_neg h]
    rfl
  · rw [slot_withLocal_here, Option.getD_some, ChainLocal.slot?_setSlot, if_neg h]
    rfl

/-- The last leave removes the slot. -/
theorem slot_left_last (h : w.depth id ≤ 1) : (w.left id).slot id = none := by
  rw [left, if_pos h, slot_withLocal_here, Option.getD_some, ChainLocal.slot?_eraseSlot, if_pos rfl]

theorem depth_left_self : (w.left id).depth id = w.depth id - 1 := by
  by_cases h : w.depth id ≤ 1
  · rw [depth, slot_left_last h]
    show 0 = w.depth id - 1
    omega
  · rw [left, if_neg h, depth, slot_withLocal_here, Option.getD_some, ChainLocal.slot?_setSlot,
      if_pos rfl]
    rfl

theorem depth_left_ne (h : j ≠ id) : (w.left id).depth j = w.depth j := by
  rw [depth, slot_left_ne h]
  rfl

theorem attachment_left_ne (h : j ≠ id) : (w.left id).attachment j = w.attachment j := by
  rw [attachment, slot_left_ne h]
  rfl

/-- A leave that is not the last leaves the attachment where it was. -/
theorem attachment_left_self (h : 1 < w.depth id) : (w.left id).attachment id = w.attachment id := by
  rw [left, if_neg (by omega), attachment, slot_withLocal_here, Option.getD_some,
    ChainLocal.slot?_setSlot, if_pos rfl]
  rfl

/-- An entered scope has a slot. -/
theorem slot_ne_none_of_depth (h : 0 < w.depth id) : w.slot id ≠ none := fun hn => by
  simp [depth, hn] at h

@[simp] theorem chainUp_attached (x : Attachment) : (w.attached id x).chainUp = w.chainUp := by
  simp [attached, chainUp]

theorem slot_attached (x : Attachment) : (w.attached id x).slot j =
    if j = id then some { (w.slot id).getD {} with attachment := some x } else w.slot j := by
  rw [attached, slot_withLocal_here, Option.getD_some, ChainLocal.slot?_setSlot]
  rfl

/-- A value stored leaves every depth where it was. -/
@[simp] theorem depth_attached (x : Attachment) : (w.attached id x).depth j = w.depth j := by
  by_cases h : j = id
  · subst h
    simp [depth, slot_attached]
  · simp [depth, slot_attached, h]

theorem attachment_attached_self (x : Attachment) : (w.attached id x).attachment id = some x := by
  simp [attachment, slot_attached]

end WithLocal

end World

namespace Agent

section Slots

variable {α : Type} {E : World → Prop}

theorem putLocal_eq (th : Thread) (c : Option ChainLocal) :
    putLocal th c = modify (fun w => w.withLocal th c) := rfl

theorem storageAvailable_runs {Q : Bool → World → Prop} :
    Runs (fun w => Q w.chainUp w) storageAvailable Q E := fun _ hw => hw

/-- Work on the calling chain's state: on an available chain `f` runs on it and its new state
is stored; on a torn-down one nothing changes. -/
theorem withChain_runs (f : ChainLocal → α × ChainLocal) {Q : Except TraceError α → World → Prop} :
    Runs (fun w => if w.chainUp then Q (.ok (f w.chain).1) (w.withLocal w.here (some (f w.chain).2))
        else Q (.error .chainUnavailable) w) (withChain f) Q E := by
  unfold withChain
  refine Runs.bind (R := fun b w => b = w.chainUp ∧ if w.chainUp then
      Q (.ok (f w.chain).1) (w.withLocal w.here (some (f w.chain).2))
    else Q (.error .chainUnavailable) w)
    (Runs.mono storageAvailable_runs (fun w hw => ⟨rfl, hw⟩) (fun _ _ h => h) (fun _ h => h))
    fun b => ?_
  split
  next hb =>
    refine Runs.pure _ fun w hw => ?_
    obtain ⟨rfl, hq⟩ := hw
    rwa [if_neg (by simpa using hb)] at hq
  next hb =>
    obtain rfl : b = true := by simpa using hb
    refine Runs.bind (Runs.get (Q := fun v w => v = w ∧
      Q (.ok (f w.chain).1) (w.withLocal w.here (some (f w.chain).2))) fun w hw => ⟨rfl, ?_⟩)
      fun v => ?_
    · obtain ⟨hup, hq⟩ := hw
      rwa [← hup, if_pos rfl] at hq
    generalize hfc : f ((localOf v v.here).getD {}) = r
    rcases r with ⟨a, c⟩
    dsimp only
    rw [putLocal_eq]
    refine Runs.bind (Runs.modify _ fun w hw => ?_) fun _ => Runs.pure _ fun _ h => h
    obtain ⟨rfl, hq⟩ := hw
    rwa [World.chain, hfc] at hq

/-- Reading the calling chain's state on an available chain. -/
theorem readChain_runs (f : Option ChainLocal → α) {Q : Except TraceError α → World → Prop} :
    Runs (fun w => w.chainUp = true ∧ Q (.ok (f (localOf w w.here))) w) (readChain f) Q E := by
  unfold readChain
  refine Runs.bind (R := fun b w => b = true ∧ Q (.ok (f (localOf w w.here))) w)
    (Runs.mono storageAvailable_runs (fun w hw => hw) (fun _ _ h => h) (fun _ h => h))
    fun b => ?_
  split
  next hb => exact Runs.of_false fun _ h => by simp [h.1] at hb
  next => exact Runs.bind (Runs.get (Q := fun v w => v = w ∧ Q (.ok (f (localOf w w.here))) w)
    fun w hw => ⟨rfl, hw.2⟩) fun v => Runs.pure _ fun w hw => hw.1 ▸ hw.2

/-- The depth a gate reads is the depth of the calling chain's slot. -/
theorem scopeDepth_runs (id : Nat) {Q : Nat → World → Prop} :
    Runs (fun w => w.chainUp = true ∧ Q (w.depth id) w) (scopeDepth id) Q E := by
  unfold scopeDepth
  refine Runs.bind (Runs.mono (readChain_runs _) (fun w hw => ⟨hw.1, ?_⟩) (fun _ _ h => h)
    (fun _ h => h)) (R := fun r w => ∃ d, r = .ok (some d) ∧ Q d w ∨ r = .ok none ∧ Q 0 w)
    fun r => ?_
  · cases h : w.slot id with
    | none =>
      refine ⟨0, Or.inr ⟨?_, by simpa [World.depth, h] using hw.2⟩⟩
      have hl : (localOf w w.here).bind (·.slot? id) = none := by
        cases hc : localOf w w.here with
        | none => rfl
        | some c => simpa [World.slot, World.chain, hc] using h
      simp [hl]
    | some s =>
      refine ⟨s.depth, Or.inl ⟨?_, by simpa [World.depth, h] using hw.2⟩⟩
      have hl : (localOf w w.here).bind (·.slot? id) = some s := by
        cases hc : localOf w w.here with
        | none => simp [World.slot, World.chain, hc, ChainLocal.slot?] at h
        | some c => simpa [World.slot, World.chain, hc] using h
      simp [hl]
  · intro w hw
    obtain ⟨d, ⟨rfl, hq⟩ | ⟨rfl, hq⟩⟩ := hw <;> exact hq

/-- A registered scope name reads its id and changes nothing. -/
theorem scopeId_runs {name : String} {id : Nat} {Q : Nat → World → Prop} :
    Runs (fun w => w.scopeNames.lookup name = some id ∧ Q id w) (scopeId name) Q E := by
  unfold scopeId
  refine Runs.bind (Runs.get (Q := fun v w => v = w ∧ v.scopeNames.lookup name = some id ∧ Q id w)
    fun w hw => ⟨rfl, hw⟩) fun v => ?_
  split
  next id' h =>
    refine Runs.pure _ fun w hw => ?_
    obtain ⟨rfl, hl, hq⟩ := hw
    rw [hl] at h
    cases h
    exact hq
  next h =>
    refine Runs.of_false fun w hw => ?_
    obtain ⟨rfl, hl, -⟩ := hw
    rw [hl] at h
    cases h


/-- Entering a scope on an available chain counts one more entry and says whether the policy lets
it record at the depth it found. -/
theorem scopeEnter_runs (id : Nat) (p : ExecutionPolicy) {Q : Bool → World → Prop} :
    Runs (fun w => w.chainUp = true ∧ Q (p.allowsEnter (w.depth id)) (w.entered id))
      (scopeEnter id p) Q E := by
  unfold scopeEnter
  refine Runs.bind (Runs.mono (withChain_runs _) (fun w hw => ?_) (fun _ _ h => h) (fun _ h => h))
    (R := fun r w => ∃ b, r = .ok b ∧ Q (p.allowsEnter b) w) fun r => ?_
  · rw [hw.1, if_pos rfl]
    exact ⟨_, rfl, hw.2⟩
  · intro w hw
    obtain ⟨b, rfl, hq⟩ := hw
    exact hq

/-- Leaving an entered scope on an available chain counts one entry out; the last leave hands
back the attachment. -/
theorem scopeLeave_runs (id : Nat) {Q : Option Attachment → World → Prop} :
    Runs (fun w => w.chainUp = true ∧ w.slot id ≠ none ∧
        Q (if w.depth id ≤ 1 then w.attachment id else none) (w.left id))
      (scopeLeave id) Q E := by
  unfold scopeLeave
  refine Runs.bind (Runs.mono (withChain_runs _) (fun w hw => ?_) (fun _ _ h => h) (fun _ h => h))
    (R := fun r w => ∃ att, r = .ok (true, att) ∧ Q att w) fun r => ?_
  · obtain ⟨hup, hs, hq⟩ := hw
    obtain ⟨s, hs⟩ := Option.ne_none_iff_exists'.1 hs
    rw [hup, if_pos rfl]
    have hs' : w.chain.slot? id = some s := hs
    have hd : w.depth id = s.depth := by rw [World.depth, hs]; rfl
    simp only [hs', ScopeSlot.leave]
    by_cases hlast : s.depth ≤ 1
    · rw [hd, if_pos hlast, World.left, hd, if_pos hlast] at hq
      have he : (s.depth - 1 == 0) = true := by simp; omega
      simp only [he, if_pos]
      exact ⟨_, rfl, by simpa [World.attachment, hs] using hq⟩
    · rw [hd, if_neg hlast, World.left, hd, if_neg hlast, hs, Option.getD_some] at hq
      have he : (s.depth - 1 == 0) = false := by simp; omega
      simp only [he]
      exact ⟨_, rfl, hq⟩
  · intro w hw
    obtain ⟨att, rfl, hq⟩ := hw
    exact hq

/-- Storing a value in an entered scope's slot on an available chain hands back the value it
replaced, and nothing to drop in its place. -/
theorem setAttachment_runs (id : Nat) (x : Attachment)
    {Q : Option Attachment × Option Attachment → World → Prop} :
    Runs (fun w => w.chainUp = true ∧ w.slot id ≠ none ∧ Q (w.attachment id, none) (w.attached id x))
      (setAttachment id x) Q E := by
  unfold setAttachment
  refine Runs.bind (Runs.mono (withChain_runs _) (fun w hw => ?_) (fun _ _ h => h) (fun _ h => h))
    (R := fun r w => ∃ prev, r = .ok (prev, true) ∧ Q (prev, none) w) fun r => ?_
  · obtain ⟨hup, hs, hq⟩ := hw
    obtain ⟨s, hs⟩ := Option.ne_none_iff_exists'.1 hs
    rw [hup, if_pos rfl]
    have hs' : w.chain.slot? id = some s := hs
    rw [World.attached, hs, Option.getD_some] at hq
    simp only [hs']
    exact ⟨_, rfl, by simpa [World.attachment, hs] using hq⟩
  · intro w hw
    obtain ⟨prev, rfl, hq⟩ := hw
    exact hq

/-- Reading a scope's attachment on an available chain reads its slot's. -/
theorem attachment_runs (id : Nat) {Q : Option Attachment → World → Prop} :
    Runs (fun w => w.chainUp = true ∧ Q (w.attachment id) w) (attachment id) Q E := by
  unfold attachment
  refine Runs.bind (Runs.mono (readChain_runs _) (fun w hw => ⟨hw.1, ?_⟩) (fun _ _ h => h)
    (fun _ h => h)) (R := fun r w => r = .ok (w.attachment id) ∧ Q (w.attachment id) w) fun r => ?_
  · refine ⟨?_, hw.2⟩
    -- an absent chain state and an absent slot both read as no attachment
    unfold World.attachment World.slot World.chain
    cases localOf w w.here with
    | none => rfl
    | some c =>
      simp only [Option.bind_some, Option.getD_some]
      cases c.slot? id <;> rfl
  · split
    · exact Runs.pure _ fun w hw => by
        obtain ⟨hr, hq⟩ := hw
        cases hr
        exact hq
    · exact Runs.of_false fun w hw => nomatch hw.1

/-- On a torn-down chain the chain's state cannot be reached, and nothing of it changes. -/
theorem withChain_down (f : ChainLocal → α × ChainLocal) {P : World → Prop}
    (hP : ∀ w, P w → w.chainUp = false) :
    Runs P (withChain f) (fun r w => r = .error .chainUnavailable ∧ P w) E :=
  Runs.mono (withChain_runs f) (fun w hw => by rw [hP w hw]; exact ⟨rfl, hw⟩) (fun _ _ h => h)
    (fun _ h => h)

section Down

variable {P : World → Prop} (hP : ∀ w, P w → w.chainUp = false)
  (hlog : ∀ w (e : LogEvent), P w → P { w with logs := w.logs ++ [e].toArray })
include hP hlog

theorem scopeEnter_down (id : Nat) (p : ExecutionPolicy) : Runs P (scopeEnter id p) (fun _ => P) E := by
  unfold scopeEnter
  refine Runs.bind (withChain_down _ hP) fun r => ?_
  split
  · exact Runs.of_false fun _ h => nomatch h.1
  · exact Runs.bind (log_runs _ (Q := fun _ => P) |>.mono (fun w h => hlog w _ h.2) (fun _ _ h => h)
      (fun _ h => h)) fun _ => Runs.pure _ fun _ h => h

theorem scopeLeave_down (id : Nat) : Runs P (scopeLeave id) (fun _ => P) E := by
  unfold scopeLeave
  refine Runs.bind (withChain_down _ hP) fun r => ?_
  split
  · exact Runs.of_false fun _ h => nomatch h.1
  · exact Runs.of_false fun _ h => nomatch h.1
  · exact Runs.bind (log_runs _ (Q := fun _ => P) |>.mono (fun w h => hlog w _ h.2) (fun _ _ h => h)
      (fun _ h => h)) fun _ => Runs.pure _ fun _ h => h

end Down

end Slots

end Agent
end TraceAgent
