import TraceAgent.Agent.Spans

/-!
# Hoare triples for the tracer's monad

The tracer's operations are programs in `Agent`, a state monad over `World` whose errors are
panics; a panic keeps the world reached so far, as unwinding does. Facts about runs of these
programs are stated as triples:

* `Runs P k Q E` — started in a world satisfying `P`, the program `k` either returns `a` in a world
  satisfying `Q a`, or panics in a world satisfying `E`.

Separate postconditions for the two exits matter here: a span handed to an exporter may panic in
the middle of an operation, and what holds at that point is not what holds at the end.

The rules follow the shape of the programs: `Runs.bind`, `Runs.tryCatch`, `Runs.forIn` and
`Runs.mono`. Each primitive of the world gets one triple in weakest-precondition form
(`span_runs`, `setSpan_runs`, `handOver_runs`, …): its precondition is the postcondition at the
world it leaves, so that a proof about an operation reads its code from top to bottom and never
unfolds a primitive.
-/

namespace TraceAgent
namespace Agent

/-- The world a run of `k` from `w` ends in, whether it returns or panics. -/
def finalWorld {α : Type} (k : Agent α) (w : World) : World :=
  match k.run w with
  | .ok _ w' => w'
  | .error _ w' => w'

/-- `Runs P k Q E`: from a world satisfying `P`, `k` returns `a` in a world satisfying `Q a` or
panics in a world satisfying `E`. -/
def Runs {α : Type} (P : World → Prop) (k : Agent α) (Q : α → World → Prop) (E : World → Prop) :
    Prop :=
  ∀ w, P w → match k.run w with
    | .ok a w' => Q a w'
    | .error _ w' => E w'

section Rules

variable {α β : Type} {P P' : World → Prop} {Q Q' : α → World → Prop} {E E' : World → Prop}

/-- What holds after both exits holds of the world a run ends in. -/
theorem Runs.finalWorld {k : Agent α} {R : World → Prop} (h : Runs P k (fun _ => R) R) {w : World}
    (hw : P w) : R (finalWorld k w) := by
  have hrun := h w hw
  unfold Agent.finalWorld
  revert hrun
  cases k.run w with
  | ok _ w' => exact id
  | error _ w' => exact id

/-- Strengthening the precondition and weakening both postconditions. -/
theorem Runs.mono {k : Agent α} (h : Runs P k Q E) (hP : ∀ w, P' w → P w)
    (hQ : ∀ a w, Q a w → Q' a w) (hE : ∀ w, E w → E' w) : Runs P' k Q' E' := by
  intro w hw
  have hrun := h w (hP w hw)
  revert hrun
  cases k.run w with
  | ok a w' => exact hQ a w'
  | error _ w' => exact hE w'

/-- A triple whose precondition holds of no world. -/
theorem Runs.of_false {k : Agent α} (h : ∀ w, ¬ P w) : Runs P k Q E :=
  fun w hw => absurd hw (h w)

/-- A value returned at once. -/
theorem Runs.pure (a : α) (h : ∀ w, P w → Q a w) : Runs P (Pure.pure a) Q E := h

/-- A program known to return from each world of the precondition. -/
theorem Runs.of_ok {k : Agent α} (h : ∀ w, P w → ∃ a w', k.run w = .ok a w' ∧ Q a w') : Runs P k Q E := by
  intro w hw
  obtain ⟨a, w', hrun, hq⟩ := h w hw
  rw [hrun]
  exact hq

/-- A panic raised at once. -/
theorem Runs.throw (e : String) (h : ∀ w, P w → E w) : Runs P (throw e : Agent α) Q E := h

/-- The world itself, read. -/
theorem Runs.get {Q : World → World → Prop} (h : ∀ w, P w → Q w w) :
    Runs P (MonadState.get : Agent World) Q E := h

/-- The world replaced. -/
theorem Runs.set (w' : World) {Q : PUnit → World → Prop} (h : ∀ w, P w → Q ⟨⟩ w') :
    Runs P (MonadState.set w' : Agent PUnit) Q E := h

/-- The world changed by a function. -/
theorem Runs.modify (f : World → World) {Q : PUnit → World → Prop} (h : ∀ w, P w → Q ⟨⟩ (f w)) :
    Runs P (modify f : Agent PUnit) Q E := h

/-- Sequencing: the postcondition of the first program is the precondition of the rest; a panic
of the first ends the run. -/
theorem Runs.bind {k : Agent α} {f : α → Agent β} {R : α → World → Prop} {Q : β → World → Prop}
    (hk : Runs P k R E) (hf : ∀ a, Runs (R a) (f a) Q E) : Runs P (k >>= f) Q E := by
  intro w hw
  have hrun := hk w hw
  rw [EStateM.run_bind]
  revert hrun
  cases k.run w with
  | ok a w' => exact hf a w'
  | error _ w' => exact id

/-- A program that returns a known value, then the rest for that value. -/
theorem Runs.bind_eq {k : Agent α} {f : α → Agent β} {x : α} {R : World → Prop} {Q : β → World → Prop}
    (hk : Runs P k (fun a w => a = x ∧ R w) E) (hf : Runs R (f x) Q E) : Runs P (k >>= f) Q E :=
  Runs.bind hk fun a w hw => by
    obtain ⟨rfl, hw⟩ := hw
    exact hf w hw

/-- A handler runs from the world the panic left. -/
theorem Runs.tryCatch {k : Agent α} {h : String → Agent α} {F : World → Prop} (hk : Runs P k Q F)
    (hh : ∀ e, Runs F (h e) Q E) : Runs P (tryCatch k h) Q E := by
  intro w hw
  have hrun := hk w hw
  change match EStateM.tryCatch k h w with | .ok a w' => Q a w' | .error _ w' => E w'
  unfold EStateM.tryCatch
  revert hrun
  change (match k w with | .ok a w' => Q a w' | .error _ w' => F w') → _
  cases k w with
  | ok _ _ => exact id
  | error e w' => exact hh e w'

/-- A loop over a list with an invariant indexed by the items still to come. -/
theorem Runs.forIn {γ : Type} (xs : List γ) (f : γ → PUnit → Agent (ForInStep PUnit))
    (I : List γ → World → Prop)
    (hstep : ∀ x rest, Runs (I (x :: rest)) (f x ⟨⟩) (fun r w => match r with
      | .yield _ => I rest w
      | .done _ => I [] w) E) :
    Runs (I xs) (ForIn.forIn xs ⟨⟩ f) (fun _ => I []) E := by
  induction xs with
  | nil => exact fun _ hw => hw
  | cons x rest ih =>
    rw [List.forIn_cons]
    refine Runs.bind (hstep x rest) fun r => ?_
    cases r with
    | done _ => exact fun _ hw => hw
    | yield _ => exact ih

end Rules

/-! ## The primitives of the world -/

section Primitives

variable {α : Type} {E : World → Prop}

theorem span_runs (s : SpanRef) {Q : SpanState → World → Prop} :
    Runs (fun w => Q (w.spans[s]?.getD default) w) (span s) Q E := fun _ hw => hw

theorem setSpan_runs (s : SpanRef) (v : SpanState) {Q : Unit → World → Prop} :
    Runs (fun w => Q () { w with spans := w.spans.set! s v }) (setSpan s v) Q E := fun _ hw => hw

theorem trace_runs (t : TraceRef) {Q : TraceObj → World → Prop} :
    Runs (fun w => Q (w.traces[t]?.getD default) w) (trace t) Q E := fun _ hw => hw

theorem setTrace_runs (t : TraceRef) (v : TraceObj) {Q : Unit → World → Prop} :
    Runs (fun w => Q () { w with traces := w.traces.set! t v }) (setTrace t v) Q E :=
  fun _ hw => hw

theorem asyncObj_runs (a : AsyncRef) {Q : AsyncObj → World → Prop} :
    Runs (fun w => Q (w.asyncs[a]?.getD default) w) (asyncObj a) Q E := fun _ hw => hw

theorem setAsync_runs (a : AsyncRef) (v : AsyncObj) {Q : Unit → World → Prop} :
    Runs (fun w => Q () { w with asyncs := w.asyncs.set! a v }) (setAsync a v) Q E :=
  fun _ hw => hw

theorem newSpan_runs (v : SpanState) {Q : SpanRef → World → Prop} :
    Runs (fun w => Q w.spans.size { w with spans := w.spans.push v }) (newSpan v) Q E :=
  fun _ hw => hw

theorem newTrace_runs (v : TraceObj) {Q : TraceRef → World → Prop} :
    Runs (fun w => Q w.traces.size { w with traces := w.traces.push v }) (newTrace v) Q E :=
  fun _ hw => hw

theorem newAsync_runs (v : AsyncKind) {Q : AsyncRef → World → Prop} :
    Runs (fun w => Q w.asyncs.size { w with asyncs := w.asyncs.push ⟨v, 1⟩ }) (newAsync v) Q E :=
  fun _ hw => hw

theorem settings_runs {Q : Settings → World → Prop} :
    Runs (fun w => Q w.settings w) settings Q E := fun _ hw => hw

theorem emit_runs (es : List LogEvent) {Q : Unit → World → Prop} :
    Runs (fun w => Q () { w with logs := w.logs ++ es.toArray }) (emit es) Q E := fun _ hw => hw

theorem log_runs (e : LogEvent) {Q : Unit → World → Prop} :
    Runs (fun w => Q () { w with logs := w.logs ++ [e].toArray }) (log e) Q E := fun _ hw => hw

theorem note_runs (line : String) {Q : Unit → World → Prop} :
    Runs (fun w => Q () { w with journal := w.journal.push line }) (note line) Q E := fun _ hw => hw

/-- Handing a span to the pipeline changes only the pipeline and the log, and panics when an
exporter does. -/
theorem handOver_runs (fs : FinishedSpan) {Q : Unit → World → Prop} :
    Runs (fun w =>
        let (logs, panicked, pl) := w.pipeline.onEnd fs
        let w' := { w with pipeline := pl, logs := w.logs ++ logs.toArray }
        match panicked with
        | some _ => E w'
        | none => Q () w')
      (handOver fs) Q E := by
  intro w hw
  rcases hp : w.pipeline.onEnd fs with ⟨logs, panicked, pl⟩
  rw [hp] at hw
  cases panicked with
  | none =>
    simp only [handOver, EStateM.run_bind, EStateM.run_get, EStateM.run_set, hp, emit,
      EStateM.run_modify, EStateM.run_pure]
    exact hw
  | some text =>
    simp only [handOver, EStateM.run_bind, EStateM.run_get, EStateM.run_set, hp, emit,
      EStateM.run_modify, panicWith, EStateM.run_throw]
    exact hw

/-- Running on another thread and coming back, also when the work panics. -/
theorem onThread_runs {k : Agent α} {P : World → Prop} {Q : α → World → Prop}
    (th : Thread) (h : ∀ back, Runs (fun w => P { w with here := back } ∧ w.here = th) k
      (fun a w => Q a { w with here := back }) (fun w => E { w with here := back })) :
    Runs P (onThread th k) Q E := by
  unfold onThread
  refine Runs.bind (R := fun v w => P w ∧ v = w) (Runs.get fun w hw => ⟨hw, rfl⟩) fun v => ?_
  refine Runs.bind (R := fun _ w => P { w with here := v.here } ∧ w.here = th)
    (Runs.modify _ ?_) fun _ => ?_
  · rintro w ⟨hw, rfl⟩
    exact ⟨hw, rfl⟩
  refine Runs.tryCatch (F := fun w => E { w with here := v.here }) ?_ fun e => ?_
  · refine Runs.bind (h v.here) fun a => ?_
    exact Runs.bind (R := fun _ w => Q a w) (Runs.modify _ fun _ hw => hw)
      fun _ => Runs.pure a fun _ hw => hw
  · exact Runs.bind (R := fun _ w => E w) (Runs.modify _ fun _ hw => hw)
      fun _ => Runs.throw e fun _ hw => hw

end Primitives

end Agent
end TraceAgent
