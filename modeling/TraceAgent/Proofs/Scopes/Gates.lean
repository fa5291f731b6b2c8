import TraceAgent.Intercept.Run
import TraceAgent.Proofs.Scopes.Frame

/-!
# The reentrancy gate

A gated interceptor runs its delegate only at the nesting levels its policy selects. Its `before`
counts an entry of its scope on the calling chain and asks the policy at the depth `d` it found;
its `after` asks at the depth it finds before it leaves, and `allowsLeave (d + 1)` is
`allowsEnter d`. A matched pair thus makes one decision, as long as what runs between its two
halves leaves the scope's depth alone: nested pairs, delegates that keep the scopes, and the
dropping of an attachment do (`Proofs.Scopes.Frame`).

* `GateRun`: runs of gated pairs as the registry dispatches them, nested and one after another;
  `GateRun.Gates` says every delegate keeps the scopes, whatever it returns and wherever it panics.
* `gatedPair id c`: a pair with its decision `c` taken once, at the entry.

Main statements:

* `pair_run_eq` — a pair runs as `gatedPair` with `c` the policy's answer at the entry's depth;
* `GateRun.run_runs` — a whole run never panics and keeps the scopes;
* `attachment_at_every_level` — a scope has one slot for all its levels: a value stored at any
  level is what the attachment and `getOrCreateAttachment` answer at every level the entries and
  leaves reach while the scope stays entered;
* `reentrancy_gate` — both for one pair, its scope back at its depth once it is done and its slot
  gone if its entry was the first, with the slot shared by every level;
* `sameScope_gates_unbalanced` — the condition is needed: a gate whose delegate gates the same
  scope finds the delegate's entry still counted when its `after` asks, one level deeper than its
  `before` did, and at the boundary it skips the delegate's `after` and leaves the scope entered.
-/

namespace TraceAgent

/-- The calling chain's storage is reachable and the scope names of `names` are given out. -/
def World.Ready (names : List (String × Nat)) (w : World) : Prop :=
  w.chainUp = true ∧ ∃ more, w.scopeNames = names ++ more

/-- A ready world stays ready once a scope is entered. -/
theorem World.Ready.entered {names : List (String × Nat)} {w : World} (hw : w.Ready names)
    (id : Nat) : (w.entered id).Ready names :=
  ⟨by rw [World.chainUp_entered]; exact hw.1, by rw [World.scopeNames_entered]; exact hw.2⟩

/-- A name given out in `names` has the same id in a ready world. -/
theorem World.Ready.lookup {names : List (String × Nat)} {w : World} (hw : w.Ready names)
    {s : String} {id : Nat} (hid : names.lookup s = some id) : w.scopeNames.lookup s = some id := by
  obtain ⟨m, hm⟩ := hw.2
  rw [hm, List.lookup_append, hid]
  rfl

namespace Agent

/-- A run of gated interceptors on one chain, as the registry makes it: runs one after another,
and pairs, whose `before` and `after` hooks enclose the run nested in the pair. -/
inductive GateRun where
  | skip
  | seq (first rest : GateRun)
  | pair (scope : String) (policy : ExecutionPolicy) (delegate : Interceptor) (inv : Invocation)
      (outcome : Outcome) (inner : GateRun)

namespace GateRun

/-- Each hook contained and its failure reported, as the registry dispatches it. -/
def run : GateRun → Agent Unit
  | skip => pure ()
  | seq a b => do a.run; b.run
  | pair s p dl inv o inner => do
    report (← contain (hookBefore (.gated s p dl) inv))
    inner.run
    report (← contain (hookAfter (.gated s p dl) inv o))

/-- Every pair gates a scope given out in `names` under an id of `S`, around a delegate whose hooks
leave the scopes `S` and `A` alone. -/
def Gates (S A : Nat → Prop) (names : List (String × Nat)) : GateRun → Prop
  | skip => True
  | seq a b => a.Gates S A names ∧ b.Gates S A names
  | pair s _ dl inv o inner => (∃ id, names.lookup s = some id ∧ S id) ∧
      KeepsScopes S A (hookBefore dl inv) ∧ KeepsScopes S A (hookAfter dl inv o) ∧
      inner.Gates S A names

end GateRun

/-- A delegate's hook behind a gate: run, contained and reported when `c`, skipped with a debug
event otherwise. -/
def gateHook (c : Bool) (hook : Agent (Except HookError Unit)) (skipped : String) : Agent Unit :=
  if c then do report (← contain hook) else log (.dbg skipped)

/-- A gated pair with the policy asked once, at the depth the entry finds: `c` says whether the
delegate's hooks run. The entry and the leave are counted either way, and the leave is guarded
as the gate's is. -/
def gatedPair (id : Nat) (c : Bool) (dl : Interceptor) (inv : Invocation) (o : Outcome)
    (inner : Agent Unit) : Agent Unit := do
  let _ ← scopeEnter id .always
  gateHook c (hookBefore dl inv) "ScopedInterceptor.Before.Skipped"
  inner
  report (← contain (guarded
    (do
      gateHook c (hookAfter dl inv o) "ScopedInterceptor.After.Skipped"
      pure (.ok ()))
    (do dropMaybe (← scopeLeave id))))

/-! ## Hooks as the registry runs them -/

section Hooks

variable {α : Type} {S A : Nat → Prop} {P : World → Prop} {E : World → Prop}

/-- A contained program does not panic: a panic becomes its failure, in the world it left. -/
theorem contain_runs {k : Agent (Except HookError Unit)} {Q : Except HookError Unit → World → Prop}
    {F : World → Prop} (hk : Runs P k Q F) (hF : ∀ w e, F w → Q (.error e) w) :
    Runs P (contain k) Q E :=
  Runs.tryCatch hk fun _ => Runs.pure _ fun w hw => hF w _ hw

theorem report_runs (r : Except HookError Unit) {Q : Unit → World → Prop} :
    Runs (fun w => Q () w ∧
        Q () { w with logs := w.logs ++ [LogEvent.warn "Interceptor.Hook.Failed"].toArray })
      (report r) Q E := by
  cases r with
  | error _ => exact Runs.mono (log_runs _) (fun _ h => h.2) (fun _ _ h => h) (fun _ h => h)
  | ok _ => exact Runs.pure _ fun _ h => h.1

/-- A guard's cleanup runs once after the work, and once more on the way out of a panic, the
cleanup's own included. -/
theorem Runs.guarded {k : Agent α} {cleanup : Agent Unit} {R Q : α → World → Prop}
    {F : World → Prop} (hk : Runs P k R F) (hc : ∀ a, Runs (R a) cleanup (fun _ => Q a) F)
    (hf : Runs F cleanup (fun _ => E) E) : Runs P (guarded k cleanup) Q E := by
  unfold Agent.guarded
  exact Runs.tryCatch (Runs.bind hk fun a => Runs.bind (hc a) fun _ => Runs.pure a fun _ h => h)
    fun e => Runs.bind hf fun _ => Runs.throw e fun _ h => h

theorem ScopesKept.log {w w' : World} (h : ScopesKept S A w w') (e : LogEvent) :
    ScopesKept S A w { w' with logs := w'.logs ++ [e].toArray } :=
  h.trans (ScopesKept.of_locals rfl rfl rfl rfl)

theorem ScopesKept.ready {names : List (String × Nat)} {w w' : World} (h : ScopesKept S A w w')
    (hw : w.Ready names) : w'.Ready names := by
  obtain ⟨m, hm⟩ := h.names
  obtain ⟨m', hm'⟩ := hw.2
  exact ⟨by rw [h.chainUp]; exact hw.1, ⟨m' ++ m, by rw [hm, hm', List.append_assoc]⟩⟩

/-- A hook as the registry runs it never panics: what holds wherever it returns or panics holds
once it is done, if the report of a failure keeps it. -/
theorem Runs.dispatched {k : Agent (Except HookError Unit)} {R : World → Prop}
    (hk : Runs P k (fun _ => R) R)
    (hlog : ∀ w, R w → R { w with logs := w.logs ++ [LogEvent.warn "Interceptor.Hook.Failed"].toArray }) :
    Runs P (do report (← contain k)) (fun _ => R) E :=
  Runs.bind (contain_runs hk fun _ _ hw => hw) fun r =>
    Runs.mono (report_runs r) (fun w hw => ⟨hw, hlog w hw⟩) (fun _ _ h => h) (fun _ h => h)

/-- One that keeps the scopes keeps them however it ends, by returning, failing or panicking. -/
theorem KeepsScopes.hook {k : Agent (Except HookError Unit)} (h : KeepsScopes S A k) (w₀ : World) :
    Runs (ScopesKept S A w₀) (do report (← contain k)) (fun _ => ScopesKept S A w₀)
      (fun _ => False) :=
  Runs.dispatched (h w₀) fun _ hw => hw.log _

theorem gateHook_runs (c : Bool) {k : Agent (Except HookError Unit)} (h : KeepsScopes S A k)
    (skipped : String) (w₀ : World) :
    Runs (ScopesKept S A w₀) (gateHook c k skipped) (fun _ => ScopesKept S A w₀) (fun _ => False) := by
  unfold gateHook
  split
  · exact h.hook w₀
  · exact Runs.mono (log_runs _) (fun _ h => h.log _) (fun _ _ h => h) (fun _ h => h)

end Hooks

/-! ## One pair -/

section Pair

variable {S A : Nat → Prop} {names : List (String × Nat)} {id : Nat} {dl : Interceptor}
  {inv : Invocation} {o : Outcome}

/-- What a finished pair entered at `w` leaves: the scopes kept, and the slot of its scope gone
if the entry was the first. -/
def PairDone (S A : Nat → Prop) (id : Nat) (w v : World) : Prop :=
  ScopesKept S A w v ∧ (w.depth id = 0 → v.slot id = none)

theorem PairDone.trans (hS : S id) {w v v' : World} (h : PairDone S A id w v)
    (h' : ScopesKept S A v v') : PairDone S A id w v' :=
  ⟨h.1.trans h', fun h0 => h'.absent id hS (h.2 h0)⟩

/-- The leave of a pair and the drop of what it hands back: from a world where the scope is as
the entry left it, the pair is done; a panic of the drop leaves the slot gone. -/
theorem leave_runs (hS : S id) {w : World} (hw : w.Ready names) :
    Runs (ScopesKept S A (w.entered id)) (do dropMaybe (← scopeLeave id))
      (fun _ => PairDone S A id w) (fun v => PairDone S A id w v ∧ v.slot id = none) := by
  intro v hv
  have hd : v.depth id = w.depth id + 1 := by
    rw [hv.depth id hS, World.depth_entered, if_pos rfl]
  have hslot : v.slot id ≠ none := by
    intro h
    simp [World.depth, h] at hd
  have hup : v.chainUp = true := by rw [hv.chainUp, World.chainUp_entered]; exact hw.1
  obtain ⟨hkept, hgone⟩ := hv.around hS
  have hrun : Runs (fun u => u = v) (do dropMaybe (← scopeLeave id))
      (fun _ => PairDone S A id w) (fun u => PairDone S A id w u ∧ u.slot id = none) := by
    -- only the last leave hands an attachment back
    refine Runs.bind (R := fun r u => u = v.left id ∧ (r ≠ none → w.depth id = 0))
      (Runs.mono (scopeLeave_runs id) (fun u hu => ?_) (fun _ _ h => h) (fun _ h => h))
      fun r => ?_
    · subst hu
      refine ⟨hup, hslot, rfl, fun hr => ?_⟩
      by_contra h0
      rw [if_neg (by omega)] at hr
      exact hr rfl
    · intro u hu
      obtain ⟨rfl, hr⟩ := hu
      cases r with
      | none => exact ⟨hkept, hgone⟩
      | some x =>
        have h0 : w.depth id = 0 := hr (Option.some_ne_none x)
        exact Runs.mono ((drop_keepsScopes dropFuel).1 x (v.left id))
          (fun _ h => h ▸ ScopesKept.refl _)
          (fun _ u hu => PairDone.trans hS ⟨hkept, hgone⟩ hu)
          (fun u hu => ⟨PairDone.trans hS ⟨hkept, hgone⟩ hu, hu.absent id hS (hgone h0)⟩) _ rfl
  exact hrun v rfl

/-- A second leave, after a panic of the drop, finds no slot and changes nothing. -/
theorem leave_again_runs (hS : S id) {w : World} (hw : w.Ready names) :
    Runs (fun v => PairDone S A id w v ∧ v.slot id = none) (do dropMaybe (← scopeLeave id))
      (fun _ => PairDone S A id w) (PairDone S A id w) := by
  refine Runs.bind (R := fun r v => r = none ∧ PairDone S A id w v)
    (Runs.mono (scopeLeave_absent id) (fun v hv => ⟨?_, hv.2, fun v' h => ⟨rfl, hv.1.trans hS h⟩⟩)
      (fun _ _ h => h) (fun _ h => h)) fun r => ?_
  · rw [hv.1.1.chainUp]
    exact hw.1
  · intro v hv
    obtain ⟨rfl, hd⟩ := hv
    exact hd

/-- One gated pair, with its decision `c` taken at the entry, around an inner run that keeps the
scopes and never panics: the pair never panics, keeps the scopes, and removes its scope's slot if
its entry was the first. -/
theorem gatedPair_runs (hS : S id) (c : Bool) {inner : Agent Unit}
    (hb : KeepsScopes S A (hookBefore dl inv)) (ha : KeepsScopes S A (hookAfter dl inv o))
    (hinner : ∀ w₀, w₀.Ready names →
      Runs (ScopesKept S A w₀) inner (fun _ => ScopesKept S A w₀) (fun _ => False))
    {w : World} (hw : w.Ready names) :
    Runs (fun v => v = w) (gatedPair id c dl inv o inner) (fun _ => PairDone S A id w)
      (fun _ => False) := by
  unfold gatedPair
  refine Runs.bind (R := fun _ v => ScopesKept S A (w.entered id) v)
    (Runs.mono (scopeEnter_runs id _) (fun v hv => ?_) (fun _ _ h => h) (fun _ h => h)) fun _ => ?_
  · subst hv
    exact ⟨hw.1, ScopesKept.refl _⟩
  -- from the entry to the leave everything keeps the scopes as the entry left them
  refine Runs.bind (gateHook_runs c hb _ _) fun _ => Runs.bind (hinner _ (hw.entered id)) fun _ => ?_
  refine Runs.bind (R := fun _ => PairDone S A id w)
    (contain_runs (Runs.guarded (R := fun _ => ScopesKept S A (w.entered id))
      (F := fun v => PairDone S A id w v ∧ v.slot id = none)
      (Runs.bind (Runs.mono (gateHook_runs c ha _ _) (fun _ h => h) (fun _ _ h => h)
        (fun _ h => h.elim)) fun _ => Runs.pure _ fun _ h => h)
      (fun _ => leave_runs hS hw) (leave_again_runs hS hw)) fun _ _ h => h) fun r =>
    Runs.mono (report_runs r) (fun _ h => ⟨h, PairDone.trans hS h (ScopesKept.refl _ |>.log _)⟩)
      (fun _ _ h => h) (fun _ h => h)

end Pair

/-! ## Runs that agree -/

section Agree

variable {α β : Type}

theorem run_bind_ok {x : Agent α} {f : α → Agent β} {w w' : World} {a : α}
    (h : x.run w = .ok a w') : (x >>= f).run w = (f a).run w' := by
  rw [EStateM.run_bind, h]

theorem run_bind_congr {x y : Agent α} {f : α → Agent β} {w v : World} (h : x.run w = y.run v) :
    (x >>= f).run w = (y >>= f).run v := by
  rw [EStateM.run_bind, EStateM.run_bind, h]

theorem run_tryCatch_congr {x y : Agent α} {h : String → Agent α} {w v : World}
    (hxy : x.run w = y.run v) : (tryCatch x h).run w = (tryCatch y h).run v := by
  have hxy' : x w = y v := hxy
  change EStateM.tryCatch x h w = EStateM.tryCatch y h v
  unfold EStateM.tryCatch
  rw [hxy']

theorem run_tryCatch_ok {x : Agent α} {h : String → Agent α} {w w' : World} {a : α}
    (hx : x.run w = .ok a w') : (tryCatch x h).run w = .ok a w' := by
  have hx' : x w = .ok a w' := hx
  change EStateM.tryCatch x h w = _
  unfold EStateM.tryCatch
  rw [hx']

/-- A program that never panics returns, in a world its postcondition describes. -/
theorem Runs.exists_ok {k : Agent α} {w : World} {Q : α → World → Prop}
    (h : Runs (fun v => v = w) k Q (fun _ => False)) : ∃ a w', k.run w = .ok a w' ∧ Q a w' := by
  have hrun := h w rfl
  revert hrun
  cases k.run w with
  | ok a w' => exact fun hq => ⟨a, w', rfl, hq⟩
  | error _ _ => exact False.elim

/-- A triple holds from each world its precondition admits. -/
theorem Runs.from_world {P : World → Prop} {k : Agent α} {Q : α → World → Prop} {E : World → Prop}
    (h : Runs P k Q E) {w : World} (hw : P w) : Runs (fun v => v = w) k Q E :=
  Runs.mono h (fun _ hv => hv ▸ hw) (fun _ _ h => h) (fun _ h => h)

/-- A triple carries over to a program with the same run, from a world where it is known. -/
theorem Runs.of_run_eq {k k' : Agent α} {w w' : World} {Q : α → World → Prop} {E : World → Prop}
    (h : k.run w = k'.run w') (hk : Runs (fun v => v = w') k' Q E) : Runs (fun v => v = w) k Q E := by
  intro v hv
  subst hv
  rw [h]
  exact hk w' rfl

/-- A program whose run from `w` is known. -/
theorem Runs.run_eq {k : Agent α} {w w' : World} {a : α}
    (h : Runs (fun v => v = w) k (fun b v => b = a ∧ v = w') (fun _ => False)) :
    k.run w = .ok a w' := by
  obtain ⟨b, v, hrun, rfl, rfl⟩ := Runs.exists_ok h
  exact hrun

end Agree

/-! ## The two reads of a gate -/

section Reads

variable {S A : Nat → Prop} {names : List (String × Nat)} {s : String} {id : Nat}
  {p : ExecutionPolicy} {dl : Interceptor} {inv : Invocation} {o : Outcome}

/-- A registered scope name reads its id and changes nothing. -/
theorem scopeId_run {w : World} (hid : w.scopeNames.lookup s = some id) : (scopeId s).run w = .ok id w :=
  Runs.run_eq (Runs.mono scopeId_runs (fun _ hv => ⟨hv ▸ hid, rfl, hv⟩) (fun _ _ h => h) (fun _ h => h))

/-- An entry on a live chain counts itself and answers as the policy does at the depth it found. -/
theorem scopeEnter_run {w : World} (hup : w.chainUp = true) (p : ExecutionPolicy) :
    (scopeEnter id p).run w = .ok (p.allowsEnter (w.depth id)) (w.entered id) :=
  Runs.run_eq (Runs.mono (scopeEnter_runs id p) (fun _ hv => ⟨hv ▸ hup, hv ▸ ⟨rfl, rfl⟩⟩)
    (fun _ _ h => h) (fun _ h => h))

/-- Whether a leave may record is read off the depth before the leave, and changes nothing. -/
theorem scopeCanLeave_run {w : World} (hup : w.chainUp = true) (p : ExecutionPolicy) :
    (scopeCanLeave id p).run w = .ok (p.allowsLeave (w.depth id)) w :=
  Runs.run_eq (Runs.bind (R := fun n v => n = w.depth id ∧ v = w)
    (Runs.mono (scopeDepth_runs id) (fun v hv => ⟨hv ▸ hup, by rw [hv], hv⟩) (fun _ _ h => h)
      (fun _ h => h)) fun n => Runs.pure _ fun v hv => by rw [hv.1, hv.2]; exact ⟨rfl, rfl⟩)

/-- The `before` of a gate counts the entry, then runs the delegate's `before` exactly when the
policy allows the depth the entry found. -/
theorem gatedBefore_run {w : World} (hup : w.chainUp = true) (hid : w.scopeNames.lookup s = some id) :
    (hookBefore (.gated s p dl) inv).run w =
      (do
        gateHook (p.allowsEnter (w.depth id)) (hookBefore dl inv) "ScopedInterceptor.Before.Skipped"
        pure (.ok ()) : Agent (Except HookError Unit)).run (w.entered id) := by
  simp only [hookBefore]
  rw [run_bind_ok (scopeId_run hid), run_bind_ok (scopeEnter_run hup p)]
  cases p.allowsEnter (w.depth id) <;> simp [gateHook]

/-- The `after` of a gate reads the depth before it leaves; at `d + 1` it runs the delegate's
`after` exactly when the policy allowed the entry at `d`. -/
theorem gatedAfter_run {w : World} {d : Nat} (hup : w.chainUp = true)
    (hid : w.scopeNames.lookup s = some id) (hd : w.depth id = d + 1) :
    (hookAfter (.gated s p dl) inv o).run w =
      (guarded
        (do
          gateHook (p.allowsEnter d) (hookAfter dl inv o) "ScopedInterceptor.After.Skipped"
          pure (.ok ()))
        (do dropMaybe (← scopeLeave id))).run w := by
  have hleave : (scopeCanLeave id p).run w = .ok (p.allowsEnter d) w := by
    rw [scopeCanLeave_run hup, hd, ExecutionPolicy.allowsLeave_succ]
  simp only [hookAfter]
  rw [run_bind_ok (scopeId_run hid)]
  unfold guarded
  refine run_tryCatch_congr ?_
  rw [bind_assoc, bind_assoc, run_bind_ok hleave]
  cases p.allowsEnter d <;> simp [gateHook]

/-- A pair runs as the gate decided once, at the depth its entry found. -/
theorem pair_run_eq {inner : GateRun} (hS : S id) (hid : names.lookup s = some id)
    (hb : KeepsScopes S A (hookBefore dl inv))
    (hinner : ∀ w₀, w₀.Ready names →
      Runs (ScopesKept S A w₀) inner.run (fun _ => ScopesKept S A w₀) (fun _ => False))
    {w : World} (hw : w.Ready names) :
    (GateRun.pair s p dl inv o inner).run.run w =
      (gatedPair id (p.allowsEnter (w.depth id)) dl inv o inner.run).run w := by
  have hid' : w.scopeNames.lookup s = some id := hw.lookup hid
  -- the entry, the delegate's `before` if the gate lets it run, and the inner run
  have henter : (scopeEnter id .always).run w = .ok true (w.entered id) :=
    Runs.run_eq (Runs.mono (scopeEnter_runs id _) (fun v hv => ⟨hv ▸ hw.1, hv ▸ ⟨rfl, rfl⟩⟩)
      (fun _ _ h => h) (fun _ h => h))
  obtain ⟨_, w₁, hrun₁, hk₁⟩ := Runs.exists_ok (Runs.from_world
    (gateHook_runs (p.allowsEnter (w.depth id)) hb "ScopedInterceptor.Before.Skipped" (w.entered id))
    (ScopesKept.refl _))
  obtain ⟨_, w₂, hrun₂, hk₂⟩ := Runs.exists_ok (Runs.from_world
    (hinner w₁ (hk₁.ready (hw.entered id))) (ScopesKept.refl _))
  -- the `after` finds the entry still counted
  have hk : ScopesKept S A (w.entered id) w₂ := hk₁.trans hk₂
  have hd : w₂.depth id = w.depth id + 1 := by
    rw [hk.depth id hS, World.depth_entered, if_pos rfl]
  have hbefore : (contain (hookBefore (.gated s p dl) inv)).run w = .ok (.ok ()) w₁ :=
    run_tryCatch_ok (by rw [gatedBefore_run hw.1 hid', run_bind_ok hrun₁]; rfl)
  simp only [GateRun.run, gatedPair]
  rw [run_bind_ok hbefore, run_bind_ok (rfl : (report (.ok ())).run w₁ = .ok () w₁),
    run_bind_ok henter, run_bind_ok hrun₁, run_bind_ok hrun₂, run_bind_ok hrun₂]
  exact run_bind_congr (run_tryCatch_congr (gatedAfter_run ((hk.ready (hw.entered id)).1)
    (hk.lookup (by rw [World.scopeNames_entered]; exact hid')) hd))

end Reads

/-! ## Handler actions -/

section Actions

variable {P : World → Prop}

/-- A note, then a return: whatever notes keep, this keeps. -/
theorem note_pure_runs {α : Type} (hnote : ∀ w line, P w → P { w with journal := w.journal.push line })
    (line : String) (x : α) : Runs P (do note line; pure x) (fun _ => P) P :=
  Runs.bind (note_runs line (Q := fun _ => P) |>.mono (fun w hw => hnote w line hw)
    (fun _ _ h => h) (fun _ h => h)) fun _ => Runs.pure _ fun _ h => h

/-- Actions run one after another until one fails: what each action keeps, the run keeps. -/
theorem runActions_runs (tag : String) (tg : Target) (inv : Invocation) (outcome : Option Outcome)
    {as : List Action} (h : ∀ a ∈ as, Runs P (runAction tag tg inv outcome a) (fun _ => P) P) :
    Runs P (runActions tag tg inv outcome as) (fun _ => P) P := by
  induction as with
  | nil => exact Runs.pure _ fun _ h => h
  | cons a rest ih =>
    refine Runs.bind (h a List.mem_cons_self) fun x => ?_
    cases x with
    | ok _ => exact ih fun b hb => h b (List.mem_cons_of_mem _ hb)
    | error _ => exact Runs.pure _ fun _ h => h

end Actions

/-! ## Journal delegates -/

section Journal

variable {S A : Nat → Prop}

/-- A journal's action writes nowhere: it notes a line, returns or panics. -/
theorem runAction_nowhere_keepsScopes (tag : String) (inv : Invocation) (outcome : Option Outcome)
    (a : Action) : KeepsScopes S A (runAction tag .nowhere inv outcome a) := by
  -- writing nowhere, an action notes a line, returns or panics
  have hnote : ∀ line (r : Except HookError Unit), KeepsScopes S A (do note line; pure r) :=
    fun line _ => KeepsScopes.bind (note_keepsScopes line) fun _ => KeepsScopes.pure _
  cases a <;> simp only [runAction, Target.recordAttr]
  case journal | debug => exact hnote _ _
  case attrArg i =>
    split
    · exact KeepsScopes.bind (KeepsScopes.pure _) fun _ => KeepsScopes.pure _
    · exact KeepsScopes.pure _
  case attr => exact KeepsScopes.bind (KeepsScopes.pure _) fun _ => KeepsScopes.pure _
  case outcome =>
    split
    · exact hnote _ _
    · exact KeepsScopes.pure _
  case panic | panicStatic | panicAny => exact KeepsScopes.throw _
  all_goals exact KeepsScopes.pure _

theorem runActions_nowhere_keepsScopes (tag : String) (inv : Invocation) (outcome : Option Outcome)
    (as : List Action) : KeepsScopes S A (runActions tag .nowhere inv outcome as) :=
  fun w₀ => runActions_runs tag .nowhere inv outcome fun a _ =>
    runAction_nowhere_keepsScopes tag inv outcome a w₀

/-- A journal's hooks keep every scope. -/
theorem journal_keepsScopes (tag : String) (before after : List Action) (inv : Invocation)
    (o : Outcome) :
    KeepsScopes S A (hookBefore (.journal tag before after) inv) ∧
      KeepsScopes S A (hookAfter (.journal tag before after) inv o) := by
  constructor
  · exact KeepsScopes.bind (note_keepsScopes _) fun _ => runActions_nowhere_keepsScopes _ _ _ _
  · exact KeepsScopes.bind (note_keepsScopes _) fun _ => runActions_nowhere_keepsScopes _ _ _ _

end Journal

/-! ## One slot for every level -/

/-- An entry into or a leave of one scope on the calling chain, as the halves of nested pairs
make them. -/
inductive ScopeMove where
  | enter (policy : ExecutionPolicy)
  | leave

namespace ScopeMove

/-- The move on scope `id`; a leave drops what it hands back, as a gate does. -/
def run (id : Nat) : ScopeMove → Agent Unit
  | enter p => do let _ ← scopeEnter id p
  | leave => do dropMaybe (← scopeLeave id)

/-- The moves on scope `id`, one after another. -/
def runAll (id : Nat) : List ScopeMove → Agent Unit
  | [] => pure ()
  | m :: ms => do m.run id; runAll id ms

/-- The depth after the move, from depth `d`. -/
def next : ScopeMove → Nat → Nat
  | enter _, d => d + 1
  | leave, d => d - 1

/-- The depth after the moves, from depth `d`. -/
def after : Nat → List ScopeMove → Nat
  | d, [] => d
  | d, m :: ms => after (m.next d) ms

/-- Whether the scope stays entered all along the moves from depth `d`. -/
def staysIn : Nat → List ScopeMove → Bool
  | _, [] => true
  | d, m :: ms => 0 < m.next d && staysIn (m.next d) ms

end ScopeMove

section Levels

variable {id d : Nat} {x : Attachment} {w : World} {E : World → Prop}

/-- Scope `id` is entered at depth `d` on the available calling chain, and its slot holds `x`. -/
structure Attached (id : Nat) (x : Attachment) (d : Nat) (w : World) : Prop where
  up : w.chainUp = true
  depth : w.depth id = d
  attachment : w.attachment id = some x

/-- A move that leaves the scope entered keeps its attachment: an entry always, and a leave that
is not the last. -/
theorem ScopeMove.run_attached (m : ScopeMove) (hm : 0 < m.next d) :
    Runs (Attached id x d) (m.run id) (fun _ => Attached id x (m.next d)) E := by
  cases m with
  | enter p =>
    refine Runs.bind (Runs.mono (scopeEnter_runs id p) (fun w hw => ⟨hw.up, ?_⟩) (fun _ _ h => h)
      (fun _ h => h)) fun _ => Runs.pure _ fun _ h => h
    exact ⟨by rw [World.chainUp_entered, hw.up], by rw [World.depth_entered, if_pos rfl, hw.depth]; rfl,
      by rw [World.attachment_entered, hw.attachment]⟩
  | leave =>
    -- not the last leave: the slot stays, and nothing is handed back to drop
    refine Runs.bind (R := fun r v => r = none ∧ Attached id x (d - 1) v)
      (Runs.mono (scopeLeave_runs id) (fun w hw => ?_) (fun _ _ h => h) (fun _ h => h)) fun r => ?_
    · have h1 : 1 < w.depth id := by rw [hw.depth]; exact Nat.lt_of_sub_pos hm
      refine ⟨hw.up, World.slot_ne_none_of_depth (Nat.lt_of_succ_lt h1), ?_⟩
      rw [if_neg (Nat.not_le.2 h1)]
      exact ⟨rfl, by rw [World.chainUp_left, hw.up], by rw [World.depth_left_self, hw.depth],
        by rw [World.attachment_left_self h1, hw.attachment]⟩
    · intro v hv
      obtain ⟨rfl, hv⟩ := hv
      exact hv

/-- Moves that keep the scope entered all along keep its attachment. -/
theorem ScopeMove.runAll_attached (ms : List ScopeMove) (hms : ScopeMove.staysIn d ms = true) :
    Runs (Attached id x d) (ScopeMove.runAll id ms) (fun _ => Attached id x (ScopeMove.after d ms)) E := by
  induction ms generalizing d with
  | nil => exact Runs.pure _ fun _ h => h
  | cons m ms ih =>
    simp only [ScopeMove.staysIn, Bool.and_eq_true, decide_eq_true_eq] at hms
    exact Runs.bind (m.run_attached hms.1) fun _ => ih hms.2

/-- Moves that keep the scope entered end with it entered. -/
theorem ScopeMove.after_pos (ms : List ScopeMove) (hd : 0 < d) (hms : ScopeMove.staysIn d ms = true) :
    0 < ScopeMove.after d ms := by
  induction ms generalizing d with
  | nil => exact hd
  | cons m ms ih =>
    simp only [ScopeMove.staysIn, Bool.and_eq_true, decide_eq_true_eq] at hms
    exact ih hms.1 hms.2

/-- A value stored in the slot of an entered scope is the scope's attachment, whatever the depth. -/
theorem setAttachment_attached (hup : w.chainUp = true) (hd : 0 < w.depth id) (x : Attachment) :
    Runs (· = w) (setAttachment id x) (fun _ => Attached id x (w.depth id)) E :=
  Runs.mono (setAttachment_runs id x) (fun v hv => by
    subst hv
    exact ⟨hup, World.slot_ne_none_of_depth hd, by rw [World.chainUp_attached, hup],
      World.depth_attached x, World.attachment_attached_self x⟩) (fun _ _ h => h) (fun _ h => h)

/-- Reading the attachment of a scope reads the value its slot holds. -/
theorem attachment_run_attached (hw : Attached id x d w) : (attachment id).run w = .ok (some x) w :=
  Runs.run_eq (Runs.mono (attachment_runs id) (fun v hv => by
    subst hv
    exact ⟨hw.up, hw.attachment, rfl⟩) (fun _ _ h => h) (fun _ h => h))

/-- On an entered scope whose slot holds a value, getting the attachment answers that value and
changes nothing: the initializer does not run. -/
theorem getOrCreateAttachment_run_attached (hw : Attached id x d w) (hd : 0 < d) (init : Agent Attachment) :
    (getOrCreateAttachment id init).run w = .ok (some x) w := by
  have hdepth : (scopeDepth id).run w = .ok d w :=
    Runs.run_eq (Runs.mono (scopeDepth_runs id) (fun v hv => by
      subst hv
      exact ⟨hw.up, hw.depth, rfl⟩) (fun _ _ h => h) (fun _ h => h))
  unfold getOrCreateAttachment
  rw [run_bind_ok hdepth, if_neg (by simpa using Nat.pos_iff_ne_zero.1 hd), run_bind_ok (attachment_run_attached hw)]
  exact attachment_run_attached hw

/-- The slot is one for all levels: a value stored at any level of an entered scope is what the
attachment, and a get with any initializer, answer at every level the moves reach while the scope
stays entered. -/
theorem attachment_at_every_level (hup : w.chainUp = true) (hd : 0 < w.depth id) (x : Attachment)
    (ms : List ScopeMove) (hms : ScopeMove.staysIn (w.depth id) ms = true) :
    ∃ w', (setAttachment id x >>= fun _ => ScopeMove.runAll id ms).run w = .ok () w' ∧
      (attachment id).run w' = .ok (some x) w' ∧
      ∀ init, (getOrCreateAttachment id init).run w' = .ok (some x) w' := by
  obtain ⟨⟨⟩, w', hrun, hw'⟩ := Runs.exists_ok
    (Runs.bind (setAttachment_attached hup hd x) fun _ => ScopeMove.runAll_attached (E := fun _ => False) ms hms)
  exact ⟨w', hrun, attachment_run_attached hw',
    getOrCreateAttachment_run_attached hw' (ScopeMove.after_pos ms hd hms)⟩

end Levels

/-! ## Runs of pairs -/

section Gate

variable {S A : Nat → Prop} {names : List (String × Nat)}

/-- Every run of gated pairs from a world whose chain is up never panics and keeps the scopes. -/
theorem GateRun.run_runs {g : GateRun} (hg : g.Gates S A names) (w₀ : World)
    (hw : w₀.Ready names) :
    Runs (ScopesKept S A w₀) g.run (fun _ => ScopesKept S A w₀) (fun _ => False) := by
  induction g generalizing w₀ with
  | skip => exact Runs.pure _ fun _ h => h
  | seq a b iha ihb => exact Runs.bind (iha hg.1 w₀ hw) fun _ => ihb hg.2 w₀ hw
  | pair s p dl inv o inner ih =>
    obtain ⟨⟨id, hid, hS⟩, hb, ha, hinner⟩ := hg
    -- a pair started anywhere along the way runs as the gate decided at its entry
    intro v hv
    have hv' : v.Ready names := hv.ready hw
    have hpair := Runs.of_run_eq (pair_run_eq hS hid hb (ih hinner) hv')
      (gatedPair_runs hS (p.allowsEnter (v.depth id)) hb ha (ih hinner) hv')
    exact Runs.mono hpair (fun _ h => h) (fun _ u hu => hv.trans hu.1) (fun _ h => h) v rfl

end Gate

/-! ## Two gates of one scope -/

section SameScope

variable {s tag : String} {id : Nat} {inv : Invocation} {o : Outcome}

/-- A gate whose delegate gates the same scope: the delegate's entry is still counted when the
outer `after` asks its policy, one level deeper than its `before` did. At the boundary the outer
gate then skips its delegate's `after`, so the inner gate never leaves and the scope stays
entered. -/
theorem sameScope_gates_unbalanced {w : World} (hw : w.Ready [(s, id)]) (h0 : w.depth id = 0) :
    ∃ w', (GateRun.pair s .boundary (.gated s .always (.journal tag [] [])) inv o .skip).run.run w =
        .ok () w' ∧ w'.depth id = 1 ∧
      w'.journal = w.journal.push (tag ++ ":before " ++ inv.textTarget?.getD "?") := by
  have hnames : [(s, id)].lookup s = some id := by simp
  have hw₁ : (w.entered id).Ready [(s, id)] := hw.entered id
  -- both gates let their delegates in, the outer at depth 0 and the inner always
  let W := (w.entered id).entered id
  let W₁ : World := { W with journal := W.journal.push (tag ++ ":before " ++ inv.textTarget?.getD "?") }
  have hinner : (hookBefore (.gated s .always (.journal tag [] [])) inv).run (w.entered id) =
      .ok (.ok ()) W₁ := by
    rw [gatedBefore_run hw₁.1 (hw₁.lookup hnames)]
    rfl
  have hbefore : (contain (hookBefore (.gated s .boundary (.gated s .always (.journal tag [] [])))
      inv)).run w = .ok (.ok ()) W₁ := by
    refine run_tryCatch_ok ?_
    rw [gatedBefore_run hw.1 (hw.lookup hnames), h0]
    have hgate : (gateHook (ExecutionPolicy.boundary.allowsEnter 0)
        (hookBefore (.gated s .always (.journal tag [] [])) inv)
        "ScopedInterceptor.Before.Skipped").run (w.entered id) = .ok () W₁ :=
      run_bind_ok (run_tryCatch_ok hinner)
    rw [run_bind_ok hgate]
    rfl
  -- the outer `after` finds both entries and asks at depth 1, where the boundary says no
  have hd : W₁.depth id = 1 + 1 := by
    show W.depth id = 1 + 1
    simp [W, World.depth_entered, h0]
  have hready : W₁.Ready [(s, id)] := (hw₁.entered id)
  let W₂ : World := { W₁ with logs := W₁.logs ++ [LogEvent.dbg "ScopedInterceptor.After.Skipped"].toArray }
  -- the outer gate leaves once; the inner entry stays counted
  have hleave : (do dropMaybe (← scopeLeave id)).run W₂ = .ok () (W₂.left id) := by
    have hd₂ : W₂.depth id = 1 + 1 := hd
    have hslot : W₂.slot id ≠ none := fun h => by simp [World.depth, h] at hd₂
    have hl : (scopeLeave id).run W₂ = .ok none (W₂.left id) :=
      Runs.run_eq (Runs.mono (scopeLeave_runs id)
        (fun v hv => ⟨hv ▸ hready.1, hv ▸ hslot, by rw [hv, hd₂]; exact ⟨rfl, rfl⟩⟩)
        (fun _ _ h => h) (fun _ h => h))
    rw [run_bind_ok hl]
    rfl
  have hafter : (contain (hookAfter (.gated s .boundary (.gated s .always (.journal tag [] [])))
      inv o)).run W₁ = .ok (.ok ()) (W₂.left id) := by
    refine run_tryCatch_ok ?_
    rw [gatedAfter_run hready.1 (hready.lookup hnames) hd]
    unfold guarded
    refine run_tryCatch_ok ?_
    have hwork : (do
        gateHook (ExecutionPolicy.boundary.allowsEnter 1) (hookAfter (.gated s .always
          (.journal tag [] [])) inv o) "ScopedInterceptor.After.Skipped"
        pure (.ok ()) : Agent (Except HookError Unit)).run W₁ = .ok (.ok ()) W₂ := rfl
    rw [run_bind_ok hwork, run_bind_ok hleave]
    rfl
  refine ⟨W₂.left id, ?_, ?_, ?_⟩
  · simp only [GateRun.run]
    rw [run_bind_ok hbefore, run_bind_ok (rfl : (report (.ok ())).run W₁ = .ok () W₁)]
    exact run_bind_ok hafter
  · rw [World.depth_left_self]
    show W.depth id - 1 = 1
    simp [W, World.depth_entered, h0]
  · rw [World.left_eq]
    show W.journal.push _ = _
    simp only [W]
    rw [World.entered_eq, World.entered_eq]

end SameScope

end Agent
end TraceAgent
