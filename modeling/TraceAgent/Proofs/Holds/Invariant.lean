import TraceAgent.Proofs.Holds.Ledger

/-!
# How the hold invariants move

Each kind of update of the ledger gets one lemma saying how `Ledger.Sound` and
`Ledger.BalancedBut` move: a span replaced, a hold taken or given back, a trace or a context
replaced or added. The operations are built from these.

The two invariants together are `Ledger.Correct` (sound, and every open span counts what it is
owed) and `Ledger.OffBy l sp k` (sound, and balanced except that span `sp` counts `k` more), the
assertion that holds between two updates of one operation.

Main statements: `OffBy.acquire`, `OffBy.setHolds`, `Correct.closeTrace` and the other
`OffBy`/`Correct` lemmas, one per way an operation changes the ledger.
-/

namespace TraceAgent

namespace Ledger

variable {l : Ledger} {sp : SpanRef} {k : ℤ}

/-- No trace holds a span that does not exist yet. -/
theorem openSync_eq_zero (hl : l.Sound) {s : SpanRef} (h : l.spans.size ≤ s) : l.openSync s = 0 := by
  unfold openSync
  refine List.sum_eq_zero fun n hn => ?_
  obtain ⟨t, ht, rfl⟩ := List.mem_map.1 hn
  unfold TraceObj.syncHold
  split
  · rename_i sp _ hk
    have hin := hl.traces_in t (Array.mem_def.2 ht) sp (by simp [TraceObj.span?, hk])
    split_ifs with hs
    · obtain ⟨rfl, _⟩ := hs
      omega
    · rfl
  · rfl

/-- No context owes a span that does not exist yet. -/
theorem owed_eq_zero (hl : l.Sound) {s : SpanRef} (h : l.spans.size ≤ s) : l.owed s = 0 := by
  unfold owed
  refine List.sum_eq_zero fun n hn => ?_
  obtain ⟨o, ho, rfl⟩ := List.mem_map.1 hn
  unfold AsyncObj.owes
  split
  · rename_i sp _ _ _ _ hk
    have hin := hl.asyncs_in o (Array.mem_def.2 ho) sp (by simp [AsyncObj.span?, hk])
    split_ifs with hs
    · obtain ⟨rfl, _⟩ := hs
      omega
    · rfl
  · rfl

/-- A span that is no longer open, or does not exist, puts no constraint on its count. -/
theorem BalancedBut.of_closed (hb : l.BalancedBut sp k)
    (hc : sp < l.spans.size → (l.span sp).isOpen = false) (j : ℤ) : l.BalancedBut sp j := by
  intro s hs ho
  by_cases hsp : s = sp
  · subst hsp
    simp [hc hs] at ho
  · simpa [hsp] using hb s hs ho

/-- Changing one span moves only its own balance, by what its count moved. -/
theorem BalancedBut.setSpan (hb : l.BalancedBut sp k) {j : ℤ} {v : SpanState}
    (hv : v.isOpen = true → (l.span sp).isOpen = true ∧ (v.pending : ℤ) = (l.span sp).pending + j) :
    (l.setSpan sp v).BalancedBut sp (k + j) := by
  intro s hs ho
  rw [size_setSpan] at hs
  by_cases hsp : s = sp
  · subst hsp
    rw [span_setSpan_self v hs] at ho ⊢
    obtain ⟨hold, hpend⟩ := hv ho
    have hprev := hb s hs hold
    simp only [if_true] at hprev ⊢
    rw [hpend, hprev]
    simp only [openSync, owed, setSpan]
    ring
  · rw [span_setSpan_ne v hsp] at ho ⊢
    simpa [hsp] using hb s hs ho

theorem Sound.setSpan (hl : l.Sound) {v : SpanState} (hv : v.isOpen = true → 0 < v.pending) :
    (l.setSpan sp v).Sound where
  traces_in t ht s hs := by simpa using hl.traces_in t ht s hs
  asyncs_in o ho s hs := by simpa using hl.asyncs_in o ho s hs
  holds := hl.holds
  open_held s hs ho := by
    rw [size_setSpan] at hs
    by_cases hsp : s = sp
    · subst hsp
      rw [span_setSpan_self v hs] at ho ⊢
      exact hv ho
    · rw [span_setSpan_ne v hsp] at ho ⊢
      exact hl.open_held s hs ho
  sync_le_one := hl.sync_le_one

/-- Giving back one hold of a span lowers its count by one; the last one closes it. -/
theorem BalancedBut.release (hl : l.Sound) (hb : l.BalancedBut sp k) :
    (l.setSpan sp (l.span sp).release.1).BalancedBut sp (k - 1) := by
  by_cases hs : sp < l.spans.size
  · have hstep := hb.setSpan (j := -1) (v := (l.span sp).release.1) fun ho => by
      rw [SpanState.release_isOpen, Bool.and_eq_true, bne_iff_ne] at ho
      have hpos := hl.open_held sp hs ho.1
      refine ⟨ho.1, ?_⟩
      rw [SpanState.release_pending]
      omega
    simpa [sub_eq_add_neg] using hstep
  · rw [setSpan_of_le _ (Nat.le_of_not_lt hs)]
    exact hb.of_closed (fun h => absurd h hs) _

theorem Sound.release (hl : l.Sound) : (l.setSpan sp (l.span sp).release.1).Sound := by
  by_cases hs : sp < l.spans.size
  · refine hl.setSpan fun ho => ?_
    rw [SpanState.release_isOpen, Bool.and_eq_true, bne_iff_ne] at ho
    rw [SpanState.release_pending]
    have hpos := hl.open_held sp hs ho.1
    have hne := ho.2
    omega
  · rw [setSpan_of_le _ (Nat.le_of_not_lt hs)]
    exact hl

theorem BalancedBut.setTrace (hb : l.BalancedBut sp k) {t : TraceRef} (ht : t < l.traces.size)
    {v : TraceObj} (hv : ∀ s, s ≠ sp → v.syncHold s = (l.trace t).syncHold s) :
    (l.setTrace t v).BalancedBut sp (k + (l.trace t).syncHold sp - v.syncHold sp) := by
  intro s hs ho
  have hsum := openSync_setTrace ht v s
  have hspan : (l.setTrace t v).span s = l.span s := rfl
  have howed : (l.setTrace t v).owed s = l.owed s := rfl
  rw [hspan] at ho ⊢
  rw [howed]
  have hprev := hb s hs ho
  by_cases hsp : s = sp
  · subst hsp
    simp only [if_true] at hprev ⊢
    push_cast [hprev]
    omega
  · have hsame := hv s hsp
    simp only [hsp, if_false] at hprev ⊢
    push_cast [hprev]
    omega

theorem Sound.setTrace (hl : l.Sound) {t : TraceRef} (ht : t < l.traces.size) {v : TraceObj}
    (hv : ∀ sp : Nat, v.span? = some sp → sp < l.spans.size)
    (hle : ∀ s, v.syncHold s ≤ (l.trace t).syncHold s) : (l.setTrace t v).Sound where
  traces_in x hx s hs := by
    rcases Array.mem_or_eq_of_mem_setIfInBounds hx with hx | rfl
    · exact hl.traces_in x hx s hs
    · exact hv s hs
  asyncs_in := hl.asyncs_in
  holds := hl.holds
  open_held := hl.open_held
  sync_le_one s := by
    have hsum := openSync_setTrace ht v s
    have hold := hl.sync_le_one s
    have hv := hle s
    omega

theorem BalancedBut.setAsync (hb : l.BalancedBut sp k) {a : AsyncRef} (ha : a < l.asyncs.size)
    {v : AsyncObj} (hv : ∀ s, s ≠ sp → v.owes s = (l.async a).owes s) :
    (l.setAsync a v).BalancedBut sp (k + (l.async a).owes sp - v.owes sp) := by
  intro s hs ho
  have hsum := owed_setAsync ha v s
  have hspan : (l.setAsync a v).span s = l.span s := rfl
  have hsync : (l.setAsync a v).openSync s = l.openSync s := rfl
  rw [hspan] at ho ⊢
  rw [hsync]
  have hprev := hb s hs ho
  by_cases hsp : s = sp
  · subst hsp
    simp only [if_true] at hprev ⊢
    push_cast [hprev]
    omega
  · have hsame := hv s hsp
    simp only [hsp, if_false] at hprev ⊢
    push_cast [hprev]
    omega

theorem Sound.setAsync (hl : l.Sound) {a : AsyncRef} {v : AsyncObj} (hs : v.Sound)
    (hv : ∀ sp : Nat, v.span? = some sp → sp < l.spans.size) : (l.setAsync a v).Sound where
  traces_in := hl.traces_in
  asyncs_in x hx s hsx := by
    rcases Array.mem_or_eq_of_mem_setIfInBounds hx with hx | rfl
    · exact hl.asyncs_in x hx s hsx
    · exact hv s hsx
  holds x hx := by
    rcases Array.mem_or_eq_of_mem_setIfInBounds hx with hx | rfl
    · exact hl.holds x hx
    · exact hs
  open_held := hl.open_held
  sync_le_one := hl.sync_le_one

/-- A new span starts balanced against nothing: what it counts is its own deficit. -/
theorem Balanced.pushSpan (hb : l.Balanced) (hl : l.Sound) (v : SpanState) :
    (l.pushSpan v).BalancedBut l.spans.size v.pending := by
  intro s hs ho
  rw [size_pushSpan] at hs
  have hsync : (l.pushSpan v).openSync s = l.openSync s := rfl
  have howed : (l.pushSpan v).owed s = l.owed s := rfl
  rw [hsync, howed]
  by_cases hsp : s = l.spans.size
  · subst hsp
    rw [span_pushSpan_size] at ho ⊢
    rw [openSync_eq_zero hl le_rfl, owed_eq_zero hl le_rfl]
    simp
  · have hlt : s < l.spans.size := by omega
    rw [span_pushSpan_lt v hlt] at ho ⊢
    simp only [hsp, if_false, add_zero]
    exact_mod_cast hb s hlt ho

theorem Sound.pushSpan (hl : l.Sound) {v : SpanState} (hv : v.isOpen = true → 0 < v.pending) :
    (l.pushSpan v).Sound where
  traces_in t ht s hs := by
    have := hl.traces_in t ht s hs
    rw [size_pushSpan]
    omega
  asyncs_in o ho s hs := by
    have := hl.asyncs_in o ho s hs
    rw [size_pushSpan]
    omega
  holds := hl.holds
  open_held s hs ho := by
    rw [size_pushSpan] at hs
    by_cases hsp : s = l.spans.size
    · subst hsp
      rw [span_pushSpan_size] at ho ⊢
      exact hv ho
    · have hlt : s < l.spans.size := by omega
      rw [span_pushSpan_lt v hlt] at ho ⊢
      exact hl.open_held s hlt ho
  sync_le_one := hl.sync_le_one

theorem BalancedBut.pushTrace (hb : l.BalancedBut sp k) {v : TraceObj}
    (hv : ∀ s, s ≠ sp → v.syncHold s = 0) : (l.pushTrace v).BalancedBut sp (k - v.syncHold sp) := by
  intro s hs ho
  have hspan : (l.pushTrace v).span s = l.span s := rfl
  have howed : (l.pushTrace v).owed s = l.owed s := rfl
  rw [hspan] at ho ⊢
  rw [howed, openSync_pushTrace]
  have hprev := hb s hs ho
  by_cases hsp : s = sp
  · subst hsp
    simp only [if_true] at hprev ⊢
    push_cast [hprev]
    ring
  · simp only [hsp, if_false] at hprev ⊢
    rw [hv s hsp]
    push_cast [hprev]
    ring

theorem Sound.pushTrace (hl : l.Sound) {v : TraceObj}
    (hv : ∀ sp : Nat, v.span? = some sp → sp < l.spans.size)
    (hle : ∀ s, l.openSync s + v.syncHold s ≤ 1) : (l.pushTrace v).Sound where
  traces_in x hx s hs := by
    rcases Array.mem_push.1 hx with hx | rfl
    · exact hl.traces_in x hx s hs
    · exact hv s hs
  asyncs_in := hl.asyncs_in
  holds := hl.holds
  open_held := hl.open_held
  sync_le_one s := by
    rw [openSync_pushTrace]
    exact hle s

theorem BalancedBut.pushAsync (hb : l.BalancedBut sp k) {v : AsyncObj}
    (hv : ∀ s, s ≠ sp → v.owes s = 0) : (l.pushAsync v).BalancedBut sp (k - v.owes sp) := by
  intro s hs ho
  have hspan : (l.pushAsync v).span s = l.span s := rfl
  have hsync : (l.pushAsync v).openSync s = l.openSync s := rfl
  rw [hspan] at ho ⊢
  rw [hsync, owed_pushAsync]
  have hprev := hb s hs ho
  by_cases hsp : s = sp
  · subst hsp
    simp only [if_true] at hprev ⊢
    push_cast [hprev]
    ring
  · simp only [hsp, if_false] at hprev ⊢
    rw [hv s hsp]
    push_cast [hprev]
    ring

theorem Sound.pushAsync (hl : l.Sound) {v : AsyncObj} (hs : v.Sound)
    (hv : ∀ sp : Nat, v.span? = some sp → sp < l.spans.size) : (l.pushAsync v).Sound where
  traces_in := hl.traces_in
  asyncs_in x hx s hsx := by
    rcases Array.mem_push.1 hx with hx | rfl
    · exact hl.asyncs_in x hx s hsx
    · exact hv s hsx
  holds x hx := by
    rcases Array.mem_push.1 hx with hx | rfl
    · exact hl.holds x hx
    · exact hs
  open_held := hl.open_held
  sync_le_one := hl.sync_le_one

end Ledger

/-! ## Both invariants together -/

namespace Ledger

/-- The hold accounting is right: sound, and every open span counts what it is owed. -/
def Correct (l : Ledger) : Prop := l.Sound ∧ l.Balanced

/-- Sound, and balanced except that span `sp` counts `k` more. -/
def OffBy (l : Ledger) (sp : SpanRef) (k : ℤ) : Prop := l.Sound ∧ l.BalancedBut sp k

variable {l : Ledger} {sp : SpanRef} {k : ℤ}

theorem offBy_zero_iff : l.OffBy sp 0 ↔ l.Correct := by
  rw [OffBy, Correct, balancedBut_zero_iff]

theorem Correct.offBy (h : l.Correct) (sp : SpanRef) : l.OffBy sp 0 := offBy_zero_iff.2 h

theorem OffBy.of_closed (h : l.OffBy sp k) (hc : sp < l.spans.size → (l.span sp).isOpen = false) :
    l.Correct :=
  offBy_zero_iff.1 ⟨h.1, h.2.of_closed hc 0⟩


/-- Replacing a context moves the balance of the span in question by what the context owed it
less what it owes it now; the other spans must be owed the same. -/
theorem OffBy.setAsync {a : AsyncRef} (h : l.OffBy sp k) (ha : a < l.asyncs.size) {v : AsyncObj}
    (hv : ∀ s, s ≠ sp → v.owes s = (l.async a).owes s) (hs : v.Sound)
    (hin : ∀ s : Nat, v.span? = some s → s < l.spans.size) {j : ℤ}
    (hj : k + (l.async a).owes sp - v.owes sp = j) : (l.setAsync a v).OffBy sp j := by
  subst hj
  exact ⟨h.1.setAsync hs hin, h.2.setAsync ha hv⟩

/-- An open span has a hold outstanding; past the end of the table the default span has one. -/
theorem Sound.pending_pos (hl : l.Sound) (ho : (l.span sp).isOpen = true) :
    0 < (l.span sp).pending := by
  by_cases hs : sp < l.spans.size
  · exact hl.open_held sp hs ho
  · have hd : l.span sp = default := by simp [span, Nat.le_of_not_lt hs]
    rw [hd]
    decide


/-- A recording trace writes into a span that exists. -/
theorem Sound.trace_span_lt {t : TraceRef} (hl : l.Sound) (ht : t < l.traces.size)
    {br : Option LocalAsyncId} {st : CallStack} (hk : (l.trace t).kind = .recording sp br st) :
    sp < l.spans.size :=
  hl.traces_in _ (trace_mem ht) sp (by simp [TraceObj.span?, hk])

/-- A span change that keeps whether it is open and its count moves nothing. -/
theorem OffBy.setSpan_same (h : l.OffBy sp k) {v : SpanState}
    (hv : v.isOpen = true → (l.span sp).isOpen = true ∧ v.pending = (l.span sp).pending) :
    (l.setSpan sp v).OffBy sp k := by
  have hb := h.2.setSpan (j := 0) (v := v) fun ho => ⟨(hv ho).1, by rw [(hv ho).2]; ring⟩
  rw [add_zero] at hb
  refine ⟨h.1.setSpan fun ho => ?_, hb⟩
  rw [(hv ho).2]
  exact h.1.pending_pos (hv ho).1

/-- A span thrown away puts no constraint on its count. -/
theorem OffBy.discard (h : l.OffBy sp k) {v : SpanState} (hv : v.isOpen = false) :
    (l.setSpan sp v).Correct := by
  have hs : (l.setSpan sp v).OffBy sp k :=
    ⟨h.1.setSpan fun ho => by simp [hv] at ho, by
      simpa using h.2.setSpan (j := 0) fun ho => by simp [hv] at ho⟩
  refine hs.of_closed fun hlt => ?_
  rw [span_setSpan_self v (by simpa using hlt)]
  exact hv

/-- Replacing a trace moves the balance of the span in question by the synchronous hold it had
less the one it has now; the other spans must see the same. -/
theorem OffBy.setTrace {t : TraceRef} (h : l.OffBy sp k) (ht : t < l.traces.size) {v : TraceObj}
    (hv : ∀ s, s ≠ sp → v.syncHold s = (l.trace t).syncHold s)
    (hle : ∀ s, v.syncHold s ≤ (l.trace t).syncHold s)
    (hin : ∀ s : Nat, v.span? = some s → s < l.spans.size) {j : ℤ}
    (hj : k + (l.trace t).syncHold sp - v.syncHold sp = j) : (l.setTrace t v).OffBy sp j := by
  subst hj
  exact ⟨h.1.setTrace ht hin hle, h.2.setTrace ht hv⟩

/-- Changing the call stack of a recording trace moves nothing. -/
theorem OffBy.restack {t : TraceRef} {sp' : SpanRef} (h : l.OffBy sp' k) (ht : t < l.traces.size)
    {br : Option LocalAsyncId} {st : CallStack} (hk : (l.trace t).kind = .recording sp br st)
    (st' : CallStack) : (l.setTrace t { l.trace t with kind := .recording sp br st' }).OffBy sp' k := by
  refine h.setTrace ht (fun s _ => TraceObj.syncHold_restack hk st' s)
    (fun s => (TraceObj.syncHold_restack hk st' s).le) (fun s hs => ?_) ?_
  · simp only [TraceObj.span?, Option.some.injEq] at hs
    exact hs ▸ h.1.trace_span_lt ht hk
  · rw [TraceObj.syncHold_restack hk]
    ring

/-- Closing a trace gives its synchronous hold back to the ledger: until the span's count follows,
the span counts that hold more than it is owed. -/
theorem Correct.closeTrace {t : TraceRef} (h : l.Correct) (ht : t < l.traces.size) {kd : TraceKind}
    {sc : List TraceScope} (hv : ∀ s, s ≠ sp → (l.trace t).syncHold s = 0)
    (hin : ∀ s : Nat, ({ kind := kd, closed := true, scopes := sc } : TraceObj).span? = some s →
      s < l.spans.size) :
    (l.setTrace t { kind := kd, closed := true, scopes := sc }).OffBy sp ((l.trace t).syncHold sp) := by
  refine (h.offBy _).setTrace ht (fun s hs => ?_) (fun s => ?_) hin ?_
  · rw [TraceObj.syncHold_closed, hv s hs]
  · rw [TraceObj.syncHold_closed]
    exact Nat.zero_le _
  · rw [TraceObj.syncHold_closed]
    ring

/-- Closing a trace that does not record moves no count. -/
theorem Correct.closeTrace_disabled {t : TraceRef} (h : l.Correct) (ht : t < l.traces.size) {b : Bool}
    (hk : (l.trace t).kind = .disabled b) :
    (l.setTrace t { kind := .disabled b, closed := true, scopes := (l.trace t).scopes }).Correct := by
  have hoff : (l.setTrace t { kind := (l.trace t).kind, closed := true, scopes := (l.trace t).scopes }).OffBy 0
      ((l.trace t).syncHold 0) :=
    h.closeTrace ht (fun s _ => TraceObj.syncHold_disabled hk s)
      (fun s hs => by simp [TraceObj.span?, hk] at hs)
  rw [hk, TraceObj.syncHold_disabled hk, Nat.cast_zero] at hoff
  exact offBy_zero_iff.1 hoff

/-- Closing a recording trace, whatever call stack it keeps, leaves its span counting the trace's
synchronous hold more than it is owed. -/
theorem Correct.closeTrace_recording {t : TraceRef} (h : l.Correct) (ht : t < l.traces.size)
    {br : Option LocalAsyncId} {st : CallStack} (hk : (l.trace t).kind = .recording sp br st)
    (st' : CallStack) :
    (l.setTrace t { kind := .recording sp br st', closed := true, scopes := (l.trace t).scopes }).OffBy sp
      ((l.trace t).syncHold sp) := by
  refine h.closeTrace ht (fun s hs => TraceObj.syncHold_ne hk hs) fun s hs => ?_
  simp only [TraceObj.span?, Option.some.injEq] at hs
  exact hs ▸ h.1.trace_span_lt ht hk

/-- A context that owes nothing adds nothing to any count. -/
theorem Correct.pushAsync (h : l.Correct) {v : AsyncObj} (hv : ∀ s, v.owes s = 0) (hs : v.Sound)
    (hin : ∀ s : Nat, v.span? = some s → s < l.spans.size) : (l.pushAsync v).Correct := by
  have hb := ((balancedBut_zero_iff l 0).2 h.2).pushAsync (v := v) fun s _ => hv s
  rw [hv 0, Nat.cast_zero, sub_zero] at hb
  exact ⟨h.1.pushAsync hs hin, (balancedBut_zero_iff _ 0).1 hb⟩

/-- A hold taken on a span raises its count by one. -/
theorem OffBy.acquire (h : l.OffBy sp k) {v : SpanState} (hv : (l.span sp).acquire = some v) :
    (l.setSpan sp v).OffBy sp (k + 1) := by
  obtain ⟨hopen, hpos, hvopen, hvpend⟩ := SpanState.acquire_some hv
  refine ⟨h.1.setSpan fun _ => by omega, h.2.setSpan fun _ => ⟨hopen, ?_⟩⟩
  rw [hvpend]
  push_cast
  ring

/-- A trace that holds no span's synchronous side adds nothing to any count. -/
theorem Correct.pushTrace (h : l.Correct) {v : TraceObj} (hv : ∀ s, v.syncHold s = 0)
    (hin : ∀ s : Nat, v.span? = some s → s < l.spans.size) : (l.pushTrace v).Correct := by
  have hb := (balancedBut_zero_iff l 0).2 h.2
  have hb' := hb.pushTrace (v := v) fun s _ => hv s
  rw [hv 0, Nat.cast_zero, sub_zero] at hb'
  refine ⟨h.1.pushTrace hin fun s => ?_, (balancedBut_zero_iff _ 0).1 hb'⟩
  rw [hv s, add_zero]
  exact h.1.sync_le_one s

/-- A context gets a new count of clones; while it has some, nothing changes hands. -/
theorem Correct.setRefs {a : AsyncRef} (h : l.Correct) (ha : a < l.asyncs.size)
    (hr : 0 < (l.async a).refs) {n : Nat} (hn : 0 < n) :
    (l.setAsync a { l.async a with refs := n }).Correct := by
  have hsame : ∀ s, AsyncObj.owes { l.async a with refs := n } s = (l.async a).owes s := by
    intro s
    simp only [AsyncObj.owes, AsyncObj.live]
    split <;> simp [hr, hn]
  refine offBy_zero_iff.1 ((h.offBy 0).setAsync ha (fun s _ => hsame s) ?_ ?_
    (by rw [hsame]; ring))
  · have hs := h.1.holds _ (async_mem ha)
    simp only [AsyncObj.Sound, AsyncObj.live] at hs ⊢
    split at hs <;> simp_all
  · exact h.1.asyncs_in (l.async a) (async_mem ha)

/-- Replacing the holds of a live context moves its span's balance by what it owed less what it
owes now. -/
theorem OffBy.setHolds {a : AsyncRef} (h : l.OffBy sp k) (ha : a < l.asyncs.size)
    (hlive : 0 < (l.async a).refs) {tid : TraceId} {aid : AsyncId} {br br' : UInt32} {hs hs' : Holds}
    (hk : (l.async a).kind = .recording sp tid aid br hs) {j : ℤ} (hsound : hs'.Sound true)
    (hj : k + hs.owed - hs'.owed = j) :
    (l.setAsync a { l.async a with kind := .recording sp tid aid br' hs' }).OffBy sp j := by
  subst hj
  have hlive' : (l.async a).live = true := by simpa [AsyncObj.live] using hlive
  have hold : (l.async a).owes sp = hs.owed := by simp [AsyncObj.owes, hk, hlive']
  have hnew : AsyncObj.owes { l.async a with kind := .recording sp tid aid br' hs' } sp = hs'.owed := by
    simp [AsyncObj.owes, AsyncObj.live, hlive]
  have hin : sp < l.spans.size :=
    h.1.asyncs_in _ (async_mem ha) sp (by simp [AsyncObj.span?, hk])
  have hb := h.2.setAsync ha (v := { l.async a with kind := .recording sp tid aid br' hs' })
    fun s hs => by simp [AsyncObj.owes, hk, Ne.symm hs]
  rw [hold, hnew] at hb
  refine ⟨h.1.setAsync ?_ ?_, hb⟩
  · simpa [AsyncObj.Sound, AsyncObj.live, hlive] using hsound
  · intro s hs
    simp only [AsyncObj.span?, Option.some.injEq] at hs
    exact hs ▸ hin

/-- A recording context writes into a span that exists. -/
theorem Sound.span_lt {a : AsyncRef} (hl : l.Sound) (ha : a < l.asyncs.size) {tid : TraceId}
    {aid : AsyncId} {br : UInt32} {hs : Holds} (hk : (l.async a).kind = .recording sp tid aid br hs) :
    sp < l.spans.size :=
  hl.asyncs_in _ (async_mem ha) sp (by simp [AsyncObj.span?, hk])

/-- A live context of a sound ledger has sound holds. -/
theorem Sound.holds_of {a : AsyncRef} (hl : l.Sound) (ha : a < l.asyncs.size)
    (hlive : 0 < (l.async a).refs) {tid : TraceId} {aid : AsyncId} {br : UInt32} {hs : Holds}
    (hk : (l.async a).kind = .recording sp tid aid br hs) : hs.Sound true := by
  have h := hl.holds _ (async_mem ha)
  simpa [AsyncObj.Sound, hk, AsyncObj.live, hlive] using h


end Ledger

end TraceAgent
