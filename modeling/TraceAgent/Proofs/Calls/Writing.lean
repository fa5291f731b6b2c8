import Mathlib
import TraceAgent.Proofs.Calls.Tree
import TraceAgent.Proofs.Scopes.Gates

/-!
# Writing frames through one chain

While the calls of a tree run, their chain stays bound to one recording trace, and that trace
alone writes into its span. `Writing t sp base v δ w` says so of a world `w`: the chain is bound
to `t`, `t` writes into `sp` with the frames `v.opened` open, `sp` holds the frames `v.sealed`
and has handed out `v.taken` sequence numbers, and the chain's scopes are at depths `δ`; what the
calls leave alone is as in `base`.

Each step a span event's hooks take has its lemma here, as a run from a world where the invariant
holds to one where it holds again: `blockBegin` opens a frame numbered `v.taken`
(`Writing.blockBegin_step`), a recorder changes the top frame (`Writing.withTop_step`),
`blockEnd` seals it (`Writing.blockEnd_step`), and entering or leaving a scope moves one depth
(`Writing.entered`, `Writing.left`). A handler that writes nothing into a frame keeps the
invariant whatever it does, panics included (`handlerActions_silent`).
-/

namespace TraceAgent
namespace Agent

/-- The trace object of a recording trace of span `sp` that is no async branch, with the frames
`opened` open below at most `maxDepth`. -/
def recordingObj (sp : SpanRef) (opened : List SpanEvent) (maxDepth : Nat) : TraceObj :=
  { kind := .recording sp none { frames := opened, maxDepth := maxDepth } }

section Runs

variable {w : World} {t : TraceRef} {sp : SpanRef} {opened : List SpanEvent} {M : Nat}

theorem chain_trace_eq (w : World) : (localOf w w.here).bind (·.trace) = w.chain.trace := by
  unfold World.chain
  cases localOf w w.here <;> rfl

theorem currentRaw_run (hup : w.chainUp = true) : currentRaw.run w = .ok w.chain.trace w := by
  have hread : (readChain fun c => c.bind (·.trace)).run w = .ok (.ok w.chain.trace) w :=
    Runs.run_eq (Runs.mono (readChain_runs _) (fun v hv => by subst hv; exact ⟨hup, by
      rw [chain_trace_eq], rfl⟩) (fun _ _ h => h) (fun _ h => h))
  simp only [currentRaw]
  rw [run_bind_ok hread]
  rfl

theorem currentSampled_run (hup : w.chainUp = true) (hb : w.chain.trace = some t)
    (ho : w.traces[t]? = some (recordingObj sp opened M)) : currentSampled.run w = .ok (some t) w := by
  simp only [currentSampled]
  rw [run_bind_ok (currentRaw_run hup), hb]
  simp [trace, ho, recordingObj, TraceObj.canSample, TraceObj.span?]

theorem currentRecorder_run (ho : w.traces[t]? = some (recordingObj sp opened M)) :
    (currentRecorder t).run w = .ok ⟨t, true⟩ w := by
  change EStateM.Result.ok ({ owner := t, active := (w.traces[t]?.getD default).canSample } : EventRecorder) w = _
  rw [ho]
  rfl

theorem blockBegin_run (ho : w.traces[t]? = some (recordingObj sp opened M)) (hroom : opened.length < M) :
    (blockBegin t).run w = .ok ⟨t, true⟩
      { w with
        spans := w.spans.set! sp ((w.spans[sp]?.getD default).takeSequence).2
        traces := w.traces.set! t (recordingObj sp
          ({ sequence := ((w.spans[sp]?.getD default).takeSequence).1, depth := opened.length + 1 } :: opened) M) } := by
  have hfull : ({ frames := opened, maxDepth := M } : CallStack).isFull = false := by
    simp [CallStack.isFull, Nat.not_le.2 hroom]
  simp [blockBegin, trace, span, setSpan, setTrace, ho, recordingObj, hfull, CallStack.push, CallStack.depth]

theorem withTop_run {e : SpanEvent} {f : SpanEvent → SpanEvent}
    (ho : w.traces[t]? = some (recordingObj sp (e :: opened) M)) :
    (EventRecorder.withTop ⟨t, true⟩ f).run w =
      .ok true { w with traces := w.traces.set! t (recordingObj sp (f e :: opened) M) } := by
  simp [EventRecorder.withTop, trace, setTrace, ho, recordingObj, CallStack.top?, CallStack.updateTop]

theorem blockEnd_run {e : SpanEvent} {s : SpanState}
    (ho : w.traces[t]? = some (recordingObj sp (e :: opened) M)) (hs : w.spans[sp]? = some s)
    (hopen : s.status = .recording) (hroom : s.events.length < s.maxEvents) :
    (blockEnd t).run w = .ok (.ok ())
      { w with
        traces := w.traces.set! t (recordingObj sp opened M)
        spans := w.spans.set! sp { s with events := s.events ++ [e] } } := by
  simp [blockEnd, trace, setTrace, span, pushEvent, setSpan, emit, ho, hs, recordingObj, CallStack.pop,
    SpanState.pushEvent, SpanState.isOpen, hopen, Nat.not_le.2 hroom]

end Runs

/-! ## The invariant -/

/-- The frames of a trace while calls run: those open, innermost first; how many sequence numbers
the span handed out; and those sealed into the span, in the order sealed. -/
structure Frames where
  opened : List SpanEvent
  taken : Nat
  sealed : List SpanEvent

namespace Frames

/-- A frame of service type `st` opened with the next sequence number. -/
def push (v : Frames) (st : ServiceType) : Frames :=
  ⟨openFrame st v.opened.length v.taken :: v.opened, v.taken + 1, v.sealed⟩

/-- The top frame changed by `f`. -/
def mapTop (v : Frames) (f : SpanEvent → SpanEvent) : Frames :=
  match v.opened with
  | e :: rest => ⟨f e :: rest, v.taken, v.sealed⟩
  | [] => v

/-- The top frame sealed into the span. -/
def sealTop (v : Frames) : Frames :=
  match v.opened with
  | e :: rest => ⟨rest, v.taken, v.sealed ++ [e]⟩
  | [] => v

/-- The frames `post`, opened and sealed by calls that ran to their end. -/
def withSealed (v : Frames) (post : List SpanEvent) : Frames :=
  ⟨v.opened, v.taken + post.length, v.sealed ++ post⟩

/-- The frames after a `before` that opens a frame of method and service type `r`, if any. -/
def opening (v : Frames) : Option (MethodDescriptor × ServiceType) → Frames
  | none => v
  | some r => v.push r.2

/-- The frames after the matching `after`: the top frame records the method and the error `x`,
and is sealed. -/
def closing (u : Frames) (x : Option ExceptionInfo) : Option (MethodDescriptor × ServiceType) → Frames
  | none => u
  | some r => (u.mapTop fun e => { e with api := some r.1, exception := x }).sealTop

end Frames

/-- A span that one trace alone writes: open, with one hold, `taken` numbers handed out and the
frames `sealed`, none dropped, with room for `maxEvents`. -/
structure SpanWritten (taken : Nat) (sealed : List SpanEvent) (maxEvents : Nat) (s : SpanState) :
    Prop where
  status : s.status = .recording
  pending : s.pending = 1
  sequence : s.nextSequence = UInt32.ofNat taken
  events : s.events = sealed
  dropped : s.dropped = 0
  room : s.maxEvents = maxEvents

/-- A world while calls run on a chain bound to the recording trace `t` of span `sp`: the frames
are `v` and the chain's scopes at depths `δ`, never below those of `base`; what calls leave alone
is as in `base`. -/
structure Writing (t : TraceRef) (sp : SpanRef) (base : World) (v : Frames) (δ : Nat → Nat)
    (w : World) : Prop where
  here : w.here = base.here
  gone : w.gone = base.gone
  names : w.scopeNames = base.scopeNames
  registry : w.registry = base.registry
  settings : w.settings = base.settings
  pipeline : w.pipeline = base.pipeline
  bound : w.chain.trace = some t
  stack : w.traces[t]? = some (recordingObj sp v.opened base.settings.maxCallStackDepth)
  span : ∃ s, w.spans[sp]? = some s ∧ SpanWritten v.taken v.sealed base.settings.maxSpanEvents s
  count : v.taken = v.sealed.length + v.opened.length
  depth : ∀ j, w.depth j = δ j
  attachment : ∀ j, w.attachment j = base.attachment j
  up : base.chainUp = true
  floor : ∀ j, base.depth j ≤ δ j
  empty : ∀ j, base.depth j = 0 → base.attachment j = none

namespace Writing

variable {t : TraceRef} {sp : SpanRef} {base w : World} {v : Frames} {δ : Nat → Nat}

theorem chainUp (h : Writing t sp base v δ w) : w.chainUp = true := by
  rw [World.chainUp, h.here, h.gone]
  exact h.up

theorem note (h : Writing t sp base v δ w) (line : String) :
    Writing t sp base v δ { w with journal := w.journal.push line } :=
  { h with }

theorem log (h : Writing t sp base v δ w) (es : List LogEvent) :
    Writing t sp base v δ { w with logs := w.logs ++ es.toArray } :=
  { h with }

/-- Chain states changed and nothing else: the frames stay as they were. -/
theorem of_locals (h : Writing t sp base v δ w) {w' : World} {δ' : Nat → Nat}
    (hw : w' = { w with locals := w'.locals }) (hb : w'.chain.trace = some t)
    (hd : ∀ j, w'.depth j = δ' j) (ha : ∀ j, w'.attachment j = base.attachment j)
    (hf : ∀ j, base.depth j ≤ δ' j) : Writing t sp base v δ' w' := by
  rw [hw] at hb hd ha ⊢
  exact { h with bound := hb, depth := hd, attachment := ha, floor := hf }

/-- Traces and spans changed and nothing else: the chain and its scopes stay as they were. -/
theorem of_frames (h : Writing t sp base v δ w) {w' : World} {v' : Frames}
    (hw : w' = { w with traces := w'.traces, spans := w'.spans })
    (hst : w'.traces[t]? = some (recordingObj sp v'.opened base.settings.maxCallStackDepth))
    (hsp : ∃ s, w'.spans[sp]? = some s ∧ SpanWritten v'.taken v'.sealed base.settings.maxSpanEvents s)
    (hc : v'.taken = v'.sealed.length + v'.opened.length) : Writing t sp base v' δ w' := by
  rw [hw] at hst hsp ⊢
  exact { h with stack := hst, span := hsp, count := hc }

/-- An entry into scope `id` counts one more entry there. -/
theorem entered (h : Writing t sp base v δ w) (id : Nat) :
    Writing t sp base v (Function.update δ id (δ id + 1)) (w.entered id) := by
  refine h.of_locals World.entered_eq (by rw [World.trace_chain_entered, h.bound]) (fun j => ?_)
    (fun j => by rw [World.attachment_entered, h.attachment]) (fun j => ?_)
  · rw [World.depth_entered, Function.update_apply]
    split <;> simp_all [h.depth]
  · rw [Function.update_apply]
    split
    · subst j
      exact Nat.le_succ_of_le (h.floor _)
    · exact h.floor j

/-- A leave of scope `id` counts one entry out, down to no lower than `base` has it. -/
theorem left (h : Writing t sp base v δ w) {id : Nat} (hd : 1 ≤ δ id)
    (hf : base.depth id ≤ δ id - 1) : Writing t sp base v (Function.update δ id (δ id - 1)) (w.left id) := by
  refine h.of_locals World.left_eq (by rw [World.trace_chain_left, h.bound]) (fun j => ?_)
    (fun j => ?_) (fun j => ?_)
  · rw [Function.update_apply]
    split
    · subst j
      rw [World.depth_left_self, h.depth]
    · rw [World.depth_left_ne ‹_›, h.depth]
  · by_cases hj : j = id
    · subst j
      by_cases hlast : δ id ≤ 1
      -- the last leave takes the slot and its attachment away; `base` had none there
      · have hslot : (w.left id).slot id = none := World.slot_left_last (by rw [h.depth]; exact hlast)
        have hnone : (w.left id).attachment id = none := by rw [World.attachment, hslot]; rfl
        rw [hnone, h.empty _ (by omega)]
      · rw [World.attachment_left_self (by rw [h.depth]; omega), h.attachment]
    · rw [World.attachment_left_ne hj, h.attachment]
  · rw [Function.update_apply]
    split
    · subst j
      exact hf
    · exact h.floor j

theorem trace_set (h : Writing t sp base v δ w) (o : TraceObj) :
    (w.traces.set! t o)[t]? = some o := by
  rw [Array.set!_eq_setIfInBounds,
    Array.getElem?_setIfInBounds_self_of_lt (Array.getElem?_eq_some_iff.1 h.stack).1]

/-- Opening a frame: the span hands out the next number, and the frame goes on top. -/
theorem blockBegin_step (h : Writing t sp base v δ w)
    (hroom : v.opened.length < base.settings.maxCallStackDepth) (hseq : v.taken < UInt32.size) :
    ∃ w', (blockBegin t).run w = .ok ⟨t, true⟩ w' ∧ Writing t sp base (v.push .undefined) δ w' := by
  obtain ⟨s, hs, hsw⟩ := h.span
  have hsp : sp < w.spans.size := (Array.getElem?_eq_some_iff.1 hs).1
  refine ⟨_, blockBegin_run h.stack hroom, h.of_frames rfl ?_
    ⟨((w.spans[sp]?.getD default).takeSequence).2, ?_, ?_⟩ ?_⟩
  · rw [h.trace_set]
    simp [hs, SpanState.takeSequence, hsw.sequence, UInt32.toNat_ofNat_of_lt' hseq, Frames.push,
      openFrame]
  · rw [Array.set!_eq_setIfInBounds, Array.getElem?_setIfInBounds_self_of_lt hsp]
  · simp only [hs, Option.getD_some, SpanState.takeSequence]
    exact ⟨hsw.status, hsw.pending, by rw [hsw.sequence]; simp [Frames.push], hsw.events,
      hsw.dropped, hsw.room⟩
  · simp only [Frames.push, List.length_cons, h.count]
    omega

/-- A recorder of the top frame changes it. -/
theorem withTop_step {e : SpanEvent} {rest sealed : List SpanEvent} {n : Nat}
    (h : Writing t sp base ⟨e :: rest, n, sealed⟩ δ w) (f : SpanEvent → SpanEvent) :
    ∃ w', (EventRecorder.withTop ⟨t, true⟩ f).run w = .ok true w' ∧
      Writing t sp base ⟨f e :: rest, n, sealed⟩ δ w' :=
  ⟨_, withTop_run h.stack, h.of_frames rfl (h.trace_set _) h.span h.count⟩

/-- Sealing the top frame into the span, while it has room. -/
theorem blockEnd_step {e : SpanEvent} {rest sealed : List SpanEvent} {n : Nat}
    (h : Writing t sp base ⟨e :: rest, n, sealed⟩ δ w)
    (hroom : sealed.length < base.settings.maxSpanEvents) :
    ∃ w', (blockEnd t).run w = .ok (.ok ()) w' ∧ Writing t sp base ⟨rest, n, sealed ++ [e]⟩ δ w' := by
  obtain ⟨s, hs, hsw⟩ := h.span
  have hsp : sp < w.spans.size := (Array.getElem?_eq_some_iff.1 hs).1
  have hroom' : s.events.length < s.maxEvents := by rw [hsw.events, hsw.room]; exact hroom
  refine ⟨_, blockEnd_run h.stack hs hsw.status hroom', h.of_frames rfl (h.trace_set _)
    ⟨{ s with events := s.events ++ [e] }, ?_, ?_⟩ ?_⟩
  · rw [Array.set!_eq_setIfInBounds, Array.getElem?_setIfInBounds_self_of_lt hsp]
  · exact ⟨hsw.status, hsw.pending, hsw.sequence, by rw [hsw.events], hsw.dropped, hsw.room⟩
  · have hc := h.count
    simp only [List.length_append, List.length_cons, List.length_nil] at hc ⊢
    omega

end Writing

/-! ## Handlers that write nothing into a frame -/

section Silent

variable {P : World → Prop} (hnote : ∀ w line, P w → P { w with journal := w.journal.push line })
include hnote

/-- A silent action notes a line, returns or panics; the world is otherwise as it was. -/
theorem runAction_silent (tag : String) (r : EventRecorder) (inv : Invocation)
    (outcome : Option Outcome) {a : Action} (ha : a.silent = true) :
    Runs P (runAction tag (.event r) inv outcome a) (fun _ => P) P := by
  cases a <;> simp only [Action.silent, Bool.false_eq_true] at ha <;> simp only [runAction]
  case journal | debug => exact note_pure_runs hnote _ _
  case outcome =>
    split
    · exact note_pure_runs hnote _ _
    · exact Runs.pure _ fun _ h => h
  case panic | panicStatic | panicAny => exact Runs.throw _ fun _ h => h
  all_goals exact Runs.pure _ fun _ h => h

theorem runActions_silent (tag : String) (r : EventRecorder) (inv : Invocation)
    (outcome : Option Outcome) {as : List Action} (has : as.all Action.silent = true) :
    Runs P (runActions tag (.event r) inv outcome as) (fun _ => P) P :=
  runActions_runs tag (.event r) inv outcome fun a ha =>
    runAction_silent hnote tag r inv outcome (List.all_eq_true.1 has a ha)

/-- The hooks of a silent handler keep whatever notes leave alone. -/
theorem handlerActions_silent {h : Handler} (hs : h.silent = true) (r : EventRecorder) (inv : Invocation)
    (outcome : Option Outcome) {as : List Action} (has : as = h.before ∨ as = h.after) :
    Runs P (handlerActions h (.event r) inv outcome as) (fun _ => P) P := by
  unfold handlerActions
  split
  · exact Runs.pure _ fun _ h => h
  · next hp =>
    simp only [Handler.silent, hp, Bool.false_or, Bool.and_eq_true] at hs
    exact runActions_silent hnote _ r inv outcome (by rcases has with rfl | rfl <;> simp [hs])

end Silent

end Agent
end TraceAgent
