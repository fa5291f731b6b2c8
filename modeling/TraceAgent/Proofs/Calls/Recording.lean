import Mathlib
import TraceAgent.Proofs.Calls.Writing
import TraceAgent.Proofs.Traces.EntryPoint

/-!
# Recording a tree of calls

While a tree of calls runs on a chain bound to a recording trace, each call dispatched to a span
event behind its gates opens a frame in its `before` and seals it in its `after`, and the rest of
the tree runs in between. This module follows the invariant `Writing` of `Proofs.Calls.Writing`
through the hooks, the registry's `around` and whole runs of calls, and shows that a run seals
exactly the frames `Calls.frames` reads off the tree, in some order.

* `Frames.Fits base v fs`: the frames `fs` fit after `v`: within the depth a trace records, the
  events a span keeps and the numbers its counter hands out.
* `World.Recorded`: a world reached from `v` once the frames `fs` were sealed, in some order.

Main statements:

* `hookBefore_writes` and `hookAfter_writes` — the hooks of a span event behind gates open the
  frame `Interceptor.opens` says, at the depths it says, and seal it again;
* `Calls.run_records` — a run of calls seals the frames of the tree, whether it returns or a panic
  ends it, and leaves the chain's scopes as it found them.
-/

namespace TraceAgent
namespace Agent

namespace Frames

variable (v : Frames)

@[simp] theorem withSealed_opened (post : List SpanEvent) : (v.withSealed post).opened = v.opened := rfl

@[simp] theorem withSealed_taken (post : List SpanEvent) :
    (v.withSealed post).taken = v.taken + post.length := rfl

@[simp] theorem withSealed_sealed (post : List SpanEvent) :
    (v.withSealed post).sealed = v.sealed ++ post := rfl

@[simp] theorem withSealed_nil : v.withSealed [] = v := by
  simp [withSealed]

theorem withSealed_append (post post' : List SpanEvent) :
    (v.withSealed post).withSealed post' = v.withSealed (post ++ post') := by
  simp only [withSealed, List.append_assoc, List.length_append, Nat.add_assoc]

@[simp] theorem opening_none : v.opening none = v := rfl

@[simp] theorem opening_some (r : MethodDescriptor × ServiceType) : v.opening (some r) = v.push r.2 := rfl

@[simp] theorem push_opened (st : ServiceType) :
    (v.push st).opened = openFrame st v.opened.length v.taken :: v.opened := rfl

@[simp] theorem push_taken (st : ServiceType) : (v.push st).taken = v.taken + 1 := rfl

@[simp] theorem push_sealed (st : ServiceType) : (v.push st).sealed = v.sealed := rfl

@[simp] theorem closing_none (x : Option ExceptionInfo) : v.closing x none = v := rfl

/-- A frame opened, frames sealed above it, and the frame sealed: the frames sealed after `v` are
those above it and then the frame itself. -/
theorem closing_withSealed (r : MethodDescriptor × ServiceType) (post : List SpanEvent)
    (x : Option ExceptionInfo) :
    ((v.opening (some r)).withSealed post).closing x (some r) =
      v.withSealed (post ++ [sealedFrame r.1 r.2 v.opened.length v.taken x]) := by
  simp only [opening, push, withSealed, closing, mapTop, sealTop, sealedFrame, List.append_assoc,
    List.length_append, List.length_singleton, Frames.mk.injEq, true_and, and_true]
  omega

/-- Room for the frames `fs` after `v`: each within the depth a trace records, all of them within
the events the span keeps, and their numbers within the span's counter. -/
structure Fits (base : World) (v : Frames) (fs : List SpanEvent) : Prop where
  depth : ∀ e ∈ fs, e.depth ≤ base.settings.maxCallStackDepth
  events : v.sealed.length + fs.length ≤ base.settings.maxSpanEvents
  sequence : v.taken + fs.length ≤ UInt32.size

end Frames

/-! ## The hooks of a span event -/

/-- A run through two steps, taken as one, and then the rest. -/
theorem run_bind_bind_ok {α β γ : Type} {x : Agent α} {g : α → Agent β} {f : β → Agent γ} {w w' : World}
    {b : β} (h : (x >>= g).run w = .ok b w') : (x >>= fun a => g a >>= f).run w = (f b).run w' := by
  rw [← bind_assoc, run_bind_ok h]

section Hooks

variable {t : TraceRef} {sp : SpanRef} {base : World} {δ : Nat → Nat}

namespace Writing

variable {e : SpanEvent} {rest sealed : List SpanEvent} {n : Nat} {w : World}

/-- A write into the top frame through the trace's recorder, its answer dropped. -/
theorem withTop_unit_step (h : Writing t sp base ⟨e :: rest, n, sealed⟩ δ w) (f : SpanEvent → SpanEvent) :
    ∃ w', (do let _ ← EventRecorder.withTop ⟨t, true⟩ f : Agent Unit).run w = .ok () w' ∧
      Writing t sp base ⟨f e :: rest, n, sealed⟩ δ w' := by
  obtain ⟨w', hrun, hw'⟩ := h.withTop_step f
  exact ⟨w', by rw [run_bind_ok hrun]; rfl, hw'⟩

/-- The error of a call, if any, recorded into a frame that has none yet. -/
theorem recordException_step (h : Writing t sp base ⟨e :: rest, n, sealed⟩ δ w)
    (he : e.exception = none) (x : Option ExceptionInfo) :
    ∃ w', (EventRecorder.recordException ⟨t, true⟩ x).run w = .ok () w' ∧
      Writing t sp base ⟨{ e with exception := x } :: rest, n, sealed⟩ δ w' := by
  cases x with
  | none =>
    have hsame : { e with exception := none } = e := by
      rw [← he]
    exact ⟨w, rfl, by rw [hsame]; exact h⟩
  | some x =>
    have hnote : e.noteException x = { e with exception := some x } := by
      simp [SpanEvent.noteException, he]
    obtain ⟨w', hrun, hw'⟩ := h.withTop_unit_step fun e => e.noteException x
    rw [hnote] at hw'
    exact ⟨w', hrun, hw'⟩

/-- A logged event keeps the invariant. -/
theorem runs_log {v : Frames} {E : World → Prop} (e : LogEvent) :
    Runs (Writing t sp base v δ) (Agent.log e) (fun _ => Writing t sp base v δ) E :=
  Runs.mono (log_runs e) (fun _ hw => Writing.log hw [e]) (fun _ _ h => h) (fun _ h => h)

/-- The leave that closes an entry of scope `id` counted on top of the depths `δ`: the scope is back
at `δ`, and a last leave had no attachment to drop, `base` having none at depth zero. -/
theorem leave_runs {u : Frames} {E : World → Prop} {id : Nat} (hf : base.depth id ≤ δ id) :
    Runs (Writing t sp base u (Function.update δ id (δ id + 1))) (do dropMaybe (← scopeLeave id))
      (fun _ => Writing t sp base u δ) E := by
  intro w hw
  have hd : w.depth id = δ id + 1 := by rw [hw.depth, Function.update_self]
  have hs : w.slot id ≠ none := fun hn => by simp [World.depth, hn] at hd
  have hnone : (if w.depth id ≤ 1 then w.attachment id else none) = none := by
    split
    · next hle =>
      have h0 : base.depth id = 0 := by omega
      rw [hw.attachment, hw.empty id h0]
    · rfl
  have hback : Function.update (Function.update δ id (δ id + 1)) id
      ((Function.update δ id (δ id + 1)) id - 1) = δ := by
    simp
  rw [run_bind_ok (scopeLeave_run hw.chainUp hs), hnone]
  have hleft := hw.left (show 1 ≤ Function.update δ id (δ id + 1) id by simp) (by simpa using hf)
  rw [hback] at hleft
  exact hleft

end Writing

variable {api : MethodDescriptor} {st : ServiceType} {h : Handler}

/-- A span event's `before` opens a frame of its service type on top of the frames open. -/
theorem spanEventBefore_writes (hs : h.silent = true) (inv : Invocation) {v : Frames}
    (hroom : v.opened.length < base.settings.maxCallStackDepth) (hseq : v.taken < UInt32.size) :
    Runs (Writing t sp base v δ) (hookBefore (.spanEvent api st h) inv)
      (fun _ => Writing t sp base (v.push st) δ) (Writing t sp base (v.push st) δ) := by
  intro w hw
  obtain ⟨w₁, hrun₁, hw₁⟩ := hw.blockBegin_step hroom hseq
  obtain ⟨w₂, hrun₂, hw₂⟩ := Writing.withTop_unit_step hw₁ fun e => { e with serviceType := st }
  have hrun₂' : (EventRecorder.recordServiceType ⟨t, true⟩ st).run w₁ = .ok () w₂ := hrun₂
  simp only [hookBefore]
  rw [run_bind_ok (currentSampled_run hw.chainUp hw.bound hw.stack)]
  dsimp only
  rw [run_bind_ok hrun₁, run_bind_ok hrun₂']
  exact handlerActions_silent (fun _ line hx => hx.note line) hs ⟨t, true⟩ inv none (Or.inl rfl) w₂ hw₂

/-- A span event's `after` records the method and the call's error into the top frame and seals
it, whatever the handler does. -/
theorem spanEventAfter_writes (hs : h.silent = true) (inv : Invocation) (outcome : Outcome)
    {e : SpanEvent} {rest sealed : List SpanEvent} {n : Nat} {E : World → Prop}
    (he : e.exception = none) (hroom : sealed.length < base.settings.maxSpanEvents) :
    Runs (Writing t sp base ⟨e :: rest, n, sealed⟩ δ) (hookAfter (.spanEvent api st h) inv outcome)
      (fun _ => Writing t sp base
        ⟨rest, n, sealed ++ [{ e with api := some api, exception := outcome.error? }]⟩ δ) E := by
  intro w hw
  obtain ⟨w₁, hrun₁, hw₁⟩ := Writing.withTop_unit_step hw fun e => { e with api := some api }
  have hrun₁' : (EventRecorder.recordApi ⟨t, true⟩ api).run w = .ok () w₁ := hrun₁
  -- the handler writes nothing, and a panic of it is contained
  obtain ⟨⟨⟩, w₂, hrun₂, hw₂⟩ := Runs.exists_ok (Runs.from_world (Runs.dispatched
    (handlerActions_silent (fun _ line hx => hx.note line) hs ⟨t, true⟩ inv (some outcome) (Or.inr rfl))
    fun _ hx => hx.log _) hw₁)
  obtain ⟨w₃, hrun₃, hw₃⟩ := hw₂.recordException_step he outcome.error?
  obtain ⟨w₄, hrun₄, hw₄⟩ := hw₃.blockEnd_step hroom
  simp only [hookAfter]
  rw [run_bind_ok (currentSampled_run hw.chainUp hw.bound hw.stack)]
  dsimp only
  rw [run_bind_ok (currentRecorder_run hw.stack), run_bind_ok hrun₁', run_bind_bind_ok hrun₂,
    run_bind_ok hrun₃, run_bind_ok hrun₄]
  exact hw₄

/-! ### Behind gates -/

variable {names : List (String × Nat)}

/-- The `before` of a span event behind gates that each count in their own scope: it opens the
frame `Interceptor.opens` says, if every gate lets it in, and counts the entries it says. -/
theorem hookBefore_writes (hn : base.scopeNames = names) (inv : Invocation) (i : Interceptor)
    (hi : i.SilentSpans names) (v : Frames) (δ : Nat → Nat)
    (hroom : (i.opens names δ).1.isSome →
      v.opened.length < base.settings.maxCallStackDepth ∧ v.taken < UInt32.size) :
    Runs (Writing t sp base v δ) (hookBefore i inv)
      (fun _ => Writing t sp base (v.opening (i.opens names δ).1) (i.opens names δ).2)
      (Writing t sp base (v.opening (i.opens names δ).1) (i.opens names δ).2) := by
  induction i generalizing δ with
  | spanEvent api st h =>
    obtain ⟨hdepth, hseq⟩ := hroom rfl
    exact spanEventBefore_writes hi inv hdepth hseq
  | gated s p i ih =>
    obtain ⟨⟨id, hid, -⟩, hi⟩ := hi
    rw [Interceptor.opens_gated hid] at hroom ⊢
    simp only [hookBefore]
    -- the gate finds its scope, then enters it and decides at the depth the entry found
    refine Runs.bind (R := fun a x => a = id ∧ Writing t sp base v δ x) ?_ fun a =>
      Runs.of_pre (fun _ hx => hx.1) fun ha => ?_
    · intro w hw
      rw [scopeId_run (by rw [hw.names, hn]; exact hid)]
      exact ⟨rfl, hw⟩
    rw [ha]
    refine Runs.bind (R := fun b x => b = p.allowsEnter (δ id) ∧
      Writing t sp base v (Function.update δ id (δ id + 1)) x) ?_ fun b =>
        Runs.of_pre (fun _ hx => hx.1) fun hb => Runs.mono ?_ (fun _ hx => hx.2) (fun _ _ h => h) (fun _ h => h)
    · intro w hw
      rw [scopeEnter_run hw.2.chainUp p, hw.2.depth id]
      exact ⟨rfl, hw.2.entered id⟩
    subst hb
    by_cases hp : p.allowsEnter (δ id) = true
    · simp only [hp, Bool.not_true, Bool.false_eq_true, if_false, if_true] at hroom ⊢
      rw [← bind_assoc]
      exact Runs.bind (Runs.dispatched (ih hi _ hroom) fun _ hx => hx.log _) fun _ =>
        Runs.pure _ fun _ hx => hx
    · simp only [hp, Bool.not_false, Bool.false_eq_true, if_true, if_false] at hroom ⊢
      exact Runs.bind (Writing.runs_log _) fun _ => Runs.pure _ fun _ hx => hx
  | entryPoint | asyncEndPoint | journal => exact hi.elim

/-- The `after` of a span event behind gates, at the depths its `before` left: it seals the frame
the `before` opened, with the method and the call's error, and leaves the gates' scopes back at
the depths the `before` found. -/
theorem hookAfter_writes (hn : base.scopeNames = names) (inv : Invocation) (outcome : Outcome)
    (i : Interceptor) (hi : i.SilentSpans names) (u : Frames) (δ : Nat → Nat)
    (hfloor : ∀ j, base.depth j ≤ δ j)
    (hroom : ∀ r, (i.opens names δ).1 = some r → ∃ e rest, u.opened = e :: rest ∧
      e.exception = none ∧ u.sealed.length < base.settings.maxSpanEvents) :
    Runs (Writing t sp base u (i.opens names δ).2) (hookAfter i inv outcome)
      (fun _ => Writing t sp base (u.closing outcome.error? (i.opens names δ).1) δ)
      (Writing t sp base (u.closing outcome.error? (i.opens names δ).1) δ) := by
  induction i generalizing δ with
  | spanEvent api st h =>
    obtain ⟨e, rest, hu, he, hroom⟩ := hroom _ rfl
    obtain ⟨opened, n, sealed⟩ := u
    subst hu
    exact spanEventAfter_writes hi inv outcome he hroom
  | gated s p i ih =>
    obtain ⟨⟨id, hid, hnot⟩, hi⟩ := hi
    rw [Interceptor.opens_gated hid] at hroom ⊢
    have hfloor' : ∀ j, base.depth j ≤ Function.update δ id (δ id + 1) j := fun j => by
      rw [Function.update_apply]
      split
      · next hj => subst hj; exact Nat.le_succ_of_le (hfloor j)
      · exact hfloor j
    -- the delegate's gates leave the gate's own scope one above where the `before` found it
    have hdepth : (i.opens names (Function.update δ id (δ id + 1))).2 id = δ id + 1 := by
      rw [Interceptor.opens_snd_of_not_mem i hnot, Function.update_self]
    simp only [hookAfter]
    refine Runs.bind (R := fun a x => a = id ∧
      Writing t sp base u (if p.allowsEnter (δ id) = true then
        i.opens names (Function.update δ id (δ id + 1))
        else (none, Function.update δ id (δ id + 1))).2 x) ?_ fun a =>
      Runs.of_pre (fun _ hx => hx.1) fun ha => Runs.mono ?_ (fun _ hx => hx.2) (fun _ _ h => h)
        (fun _ h => h)
    · intro w hw
      rw [scopeId_run (by rw [hw.names, hn]; exact hid)]
      exact ⟨rfl, hw⟩
    rw [ha]
    by_cases hp : p.allowsEnter (δ id) = true
    · simp only [hp, if_true] at hroom ⊢
      refine Runs.guarded (Runs.bind (R := fun b x => b = true ∧
          Writing t sp base u (i.opens names (Function.update δ id (δ id + 1))).2 x) ?_ fun b =>
        Runs.of_pre (fun _ hx => hx.1) fun hb => Runs.mono ?_ (fun _ hx => hx.2) (fun _ _ h => h)
          (fun _ h => h)) (fun _ => Writing.leave_runs (hfloor id)) (Writing.leave_runs (hfloor id))
      · intro w hw
        rw [scopeCanLeave_run hw.chainUp p, hw.depth id, hdepth, ExecutionPolicy.allowsLeave_succ, hp]
        exact ⟨rfl, hw⟩
      rw [hb]
      simp only [Bool.not_true, Bool.false_eq_true, if_false]
      rw [← bind_assoc]
      exact Runs.bind (Runs.dispatched (ih hi _ hfloor' hroom) fun _ hx => hx.log _) fun _ =>
        Runs.pure _ fun _ hx => hx
    · simp only [hp, Bool.false_eq_true, if_false, Frames.closing_none] at hroom ⊢
      refine Runs.guarded (Runs.bind (R := fun b x => b = false ∧
          Writing t sp base u (Function.update δ id (δ id + 1)) x) ?_ fun b =>
        Runs.of_pre (fun _ hx => hx.1) fun hb => Runs.mono ?_ (fun _ hx => hx.2) (fun _ _ h => h)
          (fun _ h => h)) (fun _ => Writing.leave_runs (hfloor id)) (Writing.leave_runs (hfloor id))
      · intro w hw
        rw [scopeCanLeave_run hw.chainUp p, hw.depth id, Function.update_self,
          ExecutionPolicy.allowsLeave_succ]
        exact ⟨by simpa using hp, hw⟩
      rw [hb]
      simp only [Bool.not_false, if_true]
      exact Runs.bind (Writing.runs_log _) fun _ => Runs.pure _ fun _ hx => hx
  | entryPoint | asyncEndPoint | journal => exact hi.elim

end Hooks

/-! ## Runs of calls -/

section Calls

variable {t : TraceRef} {sp : SpanRef} {base : World} {names : List (String × Nat)}

/-- A world reached from the frames `v` once the frames `fs` were sealed, in some order, with the
chain's scopes at the depths `δ`. -/
def Recorded (t : TraceRef) (sp : SpanRef) (base : World) (v : Frames) (fs : List SpanEvent)
    (δ : Nat → Nat) (w : World) : Prop :=
  ∃ post, post.Perm fs ∧ Writing t sp base (v.withSealed post) δ w

namespace Recorded

variable {v : Frames} {fs : List SpanEvent} {δ : Nat → Nat} {w : World}

theorem of_writing (h : Writing t sp base v δ w) : Recorded t sp base v [] δ w :=
  ⟨[], .nil, by rw [Frames.withSealed_nil]; exact h⟩

theorem log (h : Recorded t sp base v fs δ w) (es : List LogEvent) :
    Recorded t sp base v fs δ { w with logs := w.logs ++ es.toArray } := by
  obtain ⟨post, hp, hw⟩ := h
  exact ⟨post, hp, hw.log es⟩

/-- Frames `gs` sealed after frames `fs`. -/
theorem append {post : List SpanEvent} (hp : post.Perm fs)
    {gs : List SpanEvent} (h : Recorded t sp base (v.withSealed post) gs δ w) :
    Recorded t sp base v (fs ++ gs) δ w := by
  obtain ⟨post', hp', hw⟩ := h
  rw [Frames.withSealed_append] at hw
  exact ⟨post ++ post', hp.append hp', hw⟩

end Recorded

namespace Frames

variable {v : Frames} {fs gs : List SpanEvent}

theorem Fits.left (h : Fits base v (fs ++ gs)) : Fits base v fs :=
  ⟨fun e he => h.depth e (List.mem_append_left gs he),
    by have := h.events; simp only [List.length_append] at this; omega,
    by have := h.sequence; simp only [List.length_append] at this; omega⟩

/-- What fits after frames sealed fits after `v` with them. -/
theorem Fits.withSealed {post : List SpanEvent} (h : Fits base v (fs ++ gs)) (hp : post.Perm fs) :
    Fits base (v.withSealed post) gs := by
  have hl := hp.length_eq
  refine ⟨fun e he => h.depth e (List.mem_append_right fs he), ?_, ?_⟩
  · have := h.events
    simp only [withSealed_sealed, List.length_append] at this ⊢
    omega
  · have := h.sequence
    simp only [withSealed_taken, List.length_append] at this ⊢
    omega

/-- A call's own frame fits: the stack has room to open it, its number is within the counter, and
the span has room to keep it after the frames of the body. -/
theorem Fits.room {o : Option (MethodDescriptor × ServiceType)} {x : Option ExceptionInfo}
    (h : Fits base v ((o.map fun r => sealedFrame r.1 r.2 v.opened.length v.taken x).toList ++ fs)) :
    o.isSome → v.opened.length < base.settings.maxCallStackDepth ∧ v.taken < UInt32.size ∧
      v.sealed.length + fs.length < base.settings.maxSpanEvents := by
  intro hs
  obtain ⟨r, rfl⟩ := Option.isSome_iff_exists.1 hs
  have hdepth := h.depth _ (List.mem_append_left fs (List.mem_singleton_self _))
  have hevents := h.events
  have hseq := h.sequence
  simp only [sealedFrame, openFrame, Option.map_some, Option.toList_some, List.length_append,
    List.length_singleton] at hdepth hevents hseq
  omega

/-- What fits after a frame opened by `o` and sealed fits after the opening. -/
theorem Fits.opening {o : Option (MethodDescriptor × ServiceType)} {f : MethodDescriptor × ServiceType → SpanEvent}
    (h : Fits base v ((o.map f).toList ++ fs)) : Fits base (v.opening o) fs := by
  cases o with
  | none => simpa using h
  | some r =>
    refine ⟨fun e he => h.depth e (List.mem_append_right _ he), ?_, ?_⟩
    · have := h.events
      simp only [Option.map_some, Option.toList_some, List.length_append, List.length_singleton] at this
      simp only [opening_some, push_sealed]
      omega
    · have := h.sequence
      simp only [Option.map_some, Option.toList_some, List.length_append, List.length_singleton] at this
      simp only [opening_some, push_taken]
      omega

end Frames

/-- Closing the frame a call's `before` opened, after the frames `post` of its body: the frames
sealed after `v` are those of the body and the call's own. -/
theorem Recorded.of_closing {v : Frames} {o : Option (MethodDescriptor × ServiceType)}
    {post fs : List SpanEvent} {x : Option ExceptionInfo} {δ : Nat → Nat} {w : World}
    (hp : post.Perm fs) (hw : Writing t sp base (((v.opening o).withSealed post).closing x o) δ w) :
    Recorded t sp base v
      ((o.map fun r => sealedFrame r.1 r.2 v.opened.length v.taken x).toList ++ fs) δ w := by
  cases o with
  | none => exact ⟨post, hp, hw⟩
  | some r =>
    rw [Frames.closing_withSealed] at hw
    exact ⟨post ++ [_], (hp.append_right _).trans List.perm_append_comm, hw⟩

/-- The calls `c` run from the frames `v` at the depths `δ`, with room for the frames of their
tree: they seal those frames, in some order, with the scopes back at `δ`, and panic exactly when
the tree says a panic ends them. -/
def Calls.Records (t : TraceRef) (sp : SpanRef) (base : World) (names : List (String × Nat))
    (c : Calls) : Prop :=
  ∀ (v : Frames) (δ : Nat → Nat),
    Frames.Fits base v (c.frames base.registry names δ v.opened.length v.taken).1 →
    Runs (Writing t sp base v δ) c.run
      (fun _ w => (c.frames base.registry names δ v.opened.length v.taken).2 = false ∧
        Recorded t sp base v (c.frames base.registry names δ v.opened.length v.taken).1 δ w)
      (fun w => (c.frames base.registry names δ v.opened.length v.taken).2 = true ∧
        Recorded t sp base v (c.frames base.registry names δ v.opened.length v.taken).1 δ w)

variable {v : Frames} {δ : Nat → Nat} {E : World → Prop}

/-- The registry's lookup of a call's interceptor. -/
theorem lookupInterceptor_runs (id : Nat) :
    Runs (Writing t sp base v δ) (lookupInterceptor id)
      (fun r w => r = base.registry[id]? ∧ Writing t sp base v δ w) E := by
  unfold lookupInterceptor
  refine Runs.bind (R := fun x w => x = w ∧ Writing t sp base v δ w) (Runs.get fun _ hw => ⟨rfl, hw⟩)
    fun x => Runs.of_pre (fun _ hx => hx.1 ▸ hx.2.registry) fun hreg => ?_
  rw [hreg]
  split
  · next i hi => exact Runs.pure _ fun _ hx => ⟨hi.symm, hx.2⟩
  · next hi =>
    exact Runs.bind (Runs.mono (Writing.runs_log _) (fun _ hx => hx.2) (fun _ _ h => h) (fun _ h => h))
      fun _ => Runs.pure _ fun _ hx => ⟨hi.symm, hx⟩

/-- The `before` of a call's interceptor, as the registry dispatches it. -/
theorem before_records (hn : base.scopeNames = names) (inv : Invocation) {i : Interceptor}
    (hi : i.SilentSpans names)
    (hroom : (i.opens names δ).1.isSome →
      v.opened.length < base.settings.maxCallStackDepth ∧ v.taken < UInt32.size) :
    Runs (Writing t sp base v δ) (do report (← contain (hookBefore i inv)))
      (fun _ => Writing t sp base (v.opening (i.opens names δ).1) (i.opens names δ).2) E :=
  Runs.dispatched (hookBefore_writes hn inv i hi v δ hroom) fun _ hx => hx.log _

/-- The `after` of a call's interceptor, as the registry dispatches it: it seals the frame its
`before` opened, after the frames `fs` of the body. -/
theorem after_records (hn : base.scopeNames = names) (inv : Invocation) (outcome : Outcome)
    {i : Interceptor} (hi : i.SilentSpans names) {fs : List SpanEvent}
    (hfloor : ∀ j, base.depth j ≤ δ j)
    (hroom : (i.opens names δ).1.isSome → v.sealed.length + fs.length < base.settings.maxSpanEvents) :
    Runs (Recorded t sp base (v.opening (i.opens names δ).1) fs (i.opens names δ).2)
      (do report (← contain (hookAfter i inv outcome)))
      (fun _ => Recorded t sp base v (((i.opens names δ).1.map fun r =>
        sealedFrame r.1 r.2 v.opened.length v.taken outcome.error?).toList ++ fs) δ) E := by
  rintro w ⟨post, hp, hw⟩
  -- the frame on top is the one the `before` opened, and the span has room for it
  have hk : Runs (Writing t sp base ((v.opening (i.opens names δ).1).withSealed post) (i.opens names δ).2)
      (hookAfter i inv outcome)
      (fun _ => Writing t sp base
        (((v.opening (i.opens names δ).1).withSealed post).closing outcome.error? (i.opens names δ).1) δ)
      (Writing t sp base
        (((v.opening (i.opens names δ).1).withSealed post).closing outcome.error? (i.opens names δ).1) δ) :=
    hookAfter_writes hn inv outcome i hi _ δ hfloor fun r hr => by
      rw [hr] at hroom ⊢
      have := hroom rfl
      refine ⟨_, _, rfl, rfl, ?_⟩
      simp only [Frames.withSealed_sealed, Frames.opening_some, Frames.push_sealed, List.length_append,
        hp.length_eq]
      exact this
  exact (Runs.dispatched (Runs.mono hk (fun _ h => h) (fun _ _ hx => Recorded.of_closing hp hx)
    (fun _ hx => Recorded.of_closing hp hx)) fun _ hx => hx.log _) w hw

/-- A call's body and then its ending: the frames of the body are sealed, and the call returns
its ending unless the body or the ending panics. -/
theorem body_records {body : Calls} (hbody : body.Records t sp base names) (ending : CallEnd)
    (hfits : Frames.Fits base v (body.frames base.registry names δ v.opened.length v.taken).1) :
    Runs (Writing t sp base v δ) (do body.run; ending.finish)
      (fun r w => r = ending ∧
        ((body.frames base.registry names δ v.opened.length v.taken).2 || ending.panics) = false ∧
        Recorded t sp base v (body.frames base.registry names δ v.opened.length v.taken).1 δ w)
      (fun w => ((body.frames base.registry names δ v.opened.length v.taken).2 || ending.panics) = true ∧
        Recorded t sp base v (body.frames base.registry names δ v.opened.length v.taken).1 δ w) := by
  refine Runs.bind (Runs.mono (hbody v δ hfits) (fun _ h => h) (fun _ _ h => h)
    (fun _ hx => ⟨by rw [hx.1, Bool.true_or], hx.2⟩)) fun _ =>
      Runs.of_pre (fun _ hx => hx.1) fun h2 => ?_
  cases ending with
  | panicked text => exact Runs.throw _ fun _ hx => ⟨by simp [CallEnd.panics], hx.2⟩
  | returned _ => exact Runs.pure _ fun _ hx => ⟨rfl, by simp [h2, CallEnd.panics], hx.2⟩
  | failed _ => exact Runs.pure _ fun _ hx => ⟨rfl, by simp [h2, CallEnd.panics], hx.2⟩

/-- A hook dispatched by the registry, then the rest. -/
theorem Runs.dispatched_bind {α : Type} {P : World → Prop} {k : Agent (Except HookError Unit)}
    {f : Agent α} {R : World → Prop} {Q : α → World → Prop}
    (hk : Runs P (do report (← contain k)) (fun _ => R) E) (hf : Runs R f Q E) :
    Runs P (do let y ← contain k; report y; f) Q E := by
  have h := Runs.bind hk fun _ => hf
  rwa [bind_assoc] at h

/-- The calls after a call, run once the call sealed the frames `fs` after `v`. -/
theorem Calls.Records.after_sealed {next : Calls} (hnext : next.Records t sp base names)
    {fs : List SpanEvent}
    (hfits : Frames.Fits base v
      (fs ++ (next.frames base.registry names δ v.opened.length (v.taken + fs.length)).1)) :
    Runs (Recorded t sp base v fs δ) next.run
      (fun _ w => (next.frames base.registry names δ v.opened.length (v.taken + fs.length)).2 = false ∧
        Recorded t sp base v
          (fs ++ (next.frames base.registry names δ v.opened.length (v.taken + fs.length)).1) δ w)
      (fun w => (next.frames base.registry names δ v.opened.length (v.taken + fs.length)).2 = true ∧
        Recorded t sp base v
          (fs ++ (next.frames base.registry names δ v.opened.length (v.taken + fs.length)).1) δ w) := by
  rintro w ⟨post, hp, hw⟩
  have ht : (v.withSealed post).taken = v.taken + fs.length := by
    rw [Frames.withSealed_taken, hp.length_eq]
  have h := hnext (v.withSealed post) δ (by
    rw [Frames.withSealed_opened, ht]
    exact hfits.withSealed hp)
  rw [Frames.withSealed_opened, ht] at h
  exact Runs.mono h (fun _ h => h) (fun _ _ hx => ⟨hx.1, Recorded.append hp hx.2⟩)
    (fun _ hx => ⟨hx.1, Recorded.append hp hx.2⟩) w hw

/-- A call run through the registry's `around`: its interceptor's `before` opens the frame
`dispatchOpens` says, the body seals its frames `inner`, and the `after` seals the call's own frame
with the call's error, none when a panic unwound it; the panic then goes on. -/
theorem around_records (hn : base.scopeNames = names) {id : Nat} {inv : Invocation} {body : Calls}
    {ending : CallEnd} (hd : ∀ i, base.registry[id]? = some i → i.SilentSpans names)
    (hbody : body.Records t sp base names) {o : Option (MethodDescriptor × ServiceType) × (Nat → Nat)}
    (ho : dispatchOpens base.registry names id δ = o) {inner : List SpanEvent × Bool}
    (hinner : body.frames base.registry names o.2 (v.opening o.1).opened.length (v.opening o.1).taken =
      inner)
    (hfits : Frames.Fits base (v.opening o.1) inner.1)
    (hroom : o.1.isSome → v.opened.length < base.settings.maxCallStackDepth ∧ v.taken < UInt32.size ∧
      v.sealed.length + inner.1.length < base.settings.maxSpanEvents) :
    Runs (Writing t sp base v δ) (around id inv (do body.run; ending.finish) CallEnd.outcome)
      (fun r w => r = ending ∧ (inner.2 || ending.panics) = false ∧ Recorded t sp base v
        ((o.1.map fun r => sealedFrame r.1 r.2 v.opened.length v.taken ending.outcome.error?).toList ++
          inner.1) δ w)
      (fun w => (inner.2 || ending.panics) = true ∧ Recorded t sp base v
        ((o.1.map fun r => sealedFrame r.1 r.2 v.opened.length v.taken none).toList ++ inner.1) δ w) := by
  have hb := body_records hbody ending (δ := o.2) (by rw [hinner]; exact hfits)
  rw [hinner] at hb
  unfold around
  refine Runs.of_pre (fun _ hw => hw.floor) fun hfloor => ?_
  refine Runs.bind (lookupInterceptor_runs id) fun r => Runs.of_pre (fun _ hx => hx.1) fun hr =>
    Runs.mono ?_ (fun _ hx => hx.2) (fun _ _ h => h) (fun _ h => h)
  rw [hr]
  cases hi : base.registry[id]? with
  | none =>
    -- no interceptor: the call runs bare and opens no frame
    have ho' : o = (none, δ) := by rw [← ho, dispatchOpens, hi]
    subst ho'
    simpa using hb
  | some i =>
    have ho' : o = i.opens names δ := by rw [← ho, dispatchOpens, hi]
    subst ho'
    dsimp only
    refine Runs.dispatched_bind (before_records hn inv (hd i hi) fun h => ⟨(hroom h).1, (hroom h).2.1⟩) ?_
    refine Runs.bind (Runs.tryCatch hb fun text => ?_) fun r => Runs.of_pre (fun _ hx => hx.1) fun hr => ?_
    · -- the `after` sees the call unwound, then the panic goes on
      refine Runs.of_pre (fun _ hx => hx.1) fun hpan => Runs.dispatched_bind
        (Runs.mono (after_records hn inv .unwound (hd i hi) hfloor fun h => (hroom h).2.2)
          (fun _ hx => hx.2) (fun _ _ h => h) (fun _ h => h))
        (Runs.throw _ fun _ hx => ⟨hpan, hx⟩)
    · -- the call returned its ending: the `after` sees its error
      subst hr
      refine Runs.of_pre (fun _ hx => hx.2.1) fun hpan => Runs.dispatched_bind
        (Runs.mono (after_records hn inv r.outcome (hd i hi) hfloor fun h => (hroom h).2.2)
          (fun _ hx => hx.2.2) (fun _ _ h => h) (fun _ h => h))
        (Runs.pure _ fun _ hx => ⟨rfl, hpan, hx⟩)

/-- A call, its body and the calls after it, as the registry runs them. -/
theorem Calls.records_call (hn : base.scopeNames = names) {id : Nat} {inv : Invocation}
    {body : Calls} {ending : CallEnd} {next : Calls}
    (hd : ∀ i, base.registry[id]? = some i → i.SilentSpans names)
    (hbody : body.Records t sp base names) (hnext : next.Records t sp base names) :
    (Calls.call id inv body ending next).Records t sp base names := by
  intro v δ hfits
  obtain ⟨o, ho⟩ : ∃ o, dispatchOpens base.registry names id δ = o := ⟨_, rfl⟩
  obtain ⟨inner, hinner⟩ : ∃ inner, body.frames base.registry names o.2 (v.opening o.1).opened.length
      (v.opening o.1).taken = inner := ⟨_, rfl⟩
  -- the frames of the body are numbered after the call's own
  have hk : (v.opening o.1).opened.length = v.opened.length + (if o.1.isSome = true then 1 else 0) ∧
      (v.opening o.1).taken = v.taken + (if o.1.isSome = true then 1 else 0) := by
    cases o.1 <;> simp
  have hinner' := hinner
  rw [hk.1, hk.2] at hinner'
  simp only [Calls.frames, ho, hinner'] at hfits ⊢
  simp only [Calls.run]
  cases hpan : (inner.2 || ending.panics)
  · -- the call returned, and the calls after it run
    simp only [hpan, Bool.false_eq_true, if_false] at hfits ⊢
    have hown := hfits.left
    have htaken : v.taken + ((o.1.map fun r => sealedFrame r.1 r.2 v.opened.length v.taken
        ending.outcome.error?).toList ++ inner.1).length =
        v.taken + (if o.1.isSome = true then 1 else 0) + inner.1.length := by
      cases o.1 <;> simp [Nat.add_assoc, Nat.add_comm 1]
    have hrest := Calls.Records.after_sealed (v := v) (δ := δ) hnext (by rw [htaken]; exact hfits)
    rw [htaken] at hrest
    exact Runs.bind (Runs.mono (around_records hn hd hbody ho hinner hown.opening hown.room)
      (fun _ h => h) (fun _ _ hx => hx.2.2) (fun _ hx => absurd (hx.1.symm.trans hpan) (by simp)))
      fun _ => hrest
  · -- a panic ends the call and the calls after it
    simp only [hpan, if_true] at hfits ⊢
    exact Runs.bind (R := fun _ _ => False) (Runs.mono
      (around_records hn hd hbody ho hinner hfits.opening hfits.room) (fun _ h => h)
      (fun _ _ hx => absurd (hx.2.1.symm.trans hpan) (by simp)) (fun _ hx => ⟨trivial, hx.2⟩))
      fun _ => Runs.of_false fun _ h => h

/-- A run of calls, each dispatched to a silent span event behind gates of scopes of its own, or to
no interceptor, seals the frames of its tree, in some order, whether it returns or a panic ends
it; it panics exactly when the tree says so, and leaves the chain's scopes as it found them. -/
theorem Calls.run_records (hn : base.scopeNames = names) (c : Calls)
    (hc : c.Dispatched base.registry names) : c.Records t sp base names := by
  induction c with
  | done => exact fun _ _ _ => Runs.pure _ fun _ hw => ⟨rfl, Recorded.of_writing hw⟩
  | call id inv body ending next ihb ihn =>
    exact Calls.records_call hn hc.1 (ihb hc.2.1) (ihn hc.2.2)

end Calls

end Agent
end TraceAgent
