import Mathlib.Logic.Function.Basic
import Mathlib.Data.List.Pairwise
import TraceAgent.Intercept.Run

/-!
# Trees of intercepted calls

A call intercepted through the registry runs its body between the hooks of its interceptor, and
the body may make intercepted calls of its own: one chain runs a tree of calls. `Calls` is such
a forest, each call with the calls of its body and the calls made after it; `Calls.run` runs it
through `around`. A panic ends the body it is raised in and every call above it, each `after`
running on the way out.

What a run records is read off the tree without running it (`Calls.frames`). A span event opens
a frame when every gate around it lets it in, at the depths its scopes have there; frames are
numbered in the order they open, each one deeper than the recording frames open around it, and a
frame keeps the error its call returned, none when a panic unwound the call.

Main statements:

* `Calls.sequence_frames` — the frames are numbered one after another, in preorder.
-/

namespace TraceAgent

/-- An action of a handler that writes nothing into a frame. -/
def Action.silent : Action → Bool
  | .journal _ | .outcome | .rpc _ | .remoteAddress _ | .debug | .fail _ | .failStatic
  | .panic _ | .panicStatic | .panicAny | .nothing => true
  | _ => false

/-- A handler that writes nothing into a frame in either hook. -/
def Handler.silent (h : Handler) : Bool :=
  h.plain || (h.before.all Action.silent && h.after.all Action.silent)

namespace Interceptor

/-- What the `before` of an interceptor does at scope depths `δ`: the method and service type of
the frame it opens, if every gate lets the span event in, and the depths the gates leave for the
rest of the call. Scope names are read in `names`. -/
def opens (names : List (String × Nat)) : Interceptor → (Nat → Nat) →
    Option (MethodDescriptor × ServiceType) × (Nat → Nat)
  | .spanEvent api st _, δ => (some (api, st), δ)
  | .gated s p i, δ =>
    match names.lookup s with
    | some id =>
      let δ' := Function.update δ id (δ id + 1)
      if p.allowsEnter (δ id) then i.opens names δ' else (none, δ')
    | none => (none, δ)
  | _, δ => (none, δ)

/-- The scopes the gates of an interceptor count in. -/
def gateIds (names : List (String × Nat)) : Interceptor → List Nat
  | .gated s _ i => (names.lookup s).toList ++ i.gateIds names
  | _ => []

/-- A span event with a silent handler behind gates of named scopes, no two gates counting in the
same scope. -/
def SilentSpans (names : List (String × Nat)) : Interceptor → Prop
  | .spanEvent _ _ h => h.silent = true
  | .gated s _ i => (∃ id, names.lookup s = some id ∧ id ∉ i.gateIds names) ∧ i.SilentSpans names
  | _ => False

theorem opens_gated {names : List (String × Nat)} {s : String} {p : ExecutionPolicy}
    {i : Interceptor} {id : Nat} (hid : names.lookup s = some id) (δ : Nat → Nat) :
    (gated s p i).opens names δ =
      if p.allowsEnter (δ id) then i.opens names (Function.update δ id (δ id + 1))
      else (none, Function.update δ id (δ id + 1)) := by
  simp only [opens, hid]

/-- The gates of an interceptor move the depths of their own scopes only. -/
theorem opens_snd_of_not_mem {names : List (String × Nat)} {j : Nat} (i : Interceptor)
    (hj : j ∉ i.gateIds names) (δ : Nat → Nat) : (i.opens names δ).2 j = δ j := by
  induction i generalizing δ with
  | gated s p i ih =>
    simp only [gateIds, List.mem_append, not_or] at hj
    unfold opens
    cases hid : names.lookup s with
    | none => rfl
    | some id =>
      have hne : j ≠ id := fun h => hj.1 (by simp [hid, h])
      simp only
      split
      · rw [ih hj.2, Function.update_of_ne hne]
      · exact Function.update_of_ne hne _ _
  | _ => rfl

end Interceptor

namespace Agent

/-- How a call's body ends: with what it was scripted to return, or by panicking. -/
def CallEnd.finish : CallEnd → Agent CallEnd
  | .panicked text => throw text
  | e => pure e

/-- Whether the body ends by panicking. -/
def CallEnd.panics : CallEnd → Bool
  | .panicked _ => true
  | _ => false

/-- Intercepted calls made one after another, each with the calls its body makes. -/
inductive Calls where
  | done
  | call (id : Nat) (inv : Invocation) (body : Calls) (ending : CallEnd) (next : Calls)
  deriving Inhabited

namespace Calls

/-- Runs the calls through the registry, each body's calls inside its hooks. -/
def run : Calls → Agent Unit
  | done => pure ()
  | call id inv body ending next => do
    let _ ← around id inv (do body.run; ending.finish) CallEnd.outcome
    next.run

end Calls

/-- What the `before` of interceptor `id` of a registry does at scope depths `δ`; an unknown id
does nothing. -/
def dispatchOpens (reg : List Interceptor) (names : List (String × Nat)) (id : Nat) (δ : Nat → Nat) :
    Option (MethodDescriptor × ServiceType) × (Nat → Nat) :=
  match reg[id]? with
  | some i => i.opens names δ
  | none => (none, δ)

/-- A frame of service type `st` as opened with `k` recording frames around it, the `n`-th of
its span. -/
def openFrame (st : ServiceType) (k n : Nat) : SpanEvent :=
  { sequence := n, depth := k + 1, serviceType := st }

/-- The same frame as sealed by a call of method `api` that ended with error `x`. -/
def sealedFrame (api : MethodDescriptor) (st : ServiceType) (k n : Nat) (x : Option ExceptionInfo) :
    SpanEvent :=
  { openFrame st k n with api := some api, exception := x }

namespace Calls

/-- Every call is dispatched to a silent span event, or to no interceptor at all. -/
def Dispatched (reg : List Interceptor) (names : List (String × Nat)) : Calls → Prop
  | done => True
  | call id _ body _ next =>
    (∀ i, reg[id]? = some i → i.SilentSpans names) ∧ body.Dispatched reg names ∧
      next.Dispatched reg names

/-- The frames the calls record, in the order they open, from scope depths `δ`, with `k`
recording frames open around them and `n` frames numbered before; and whether a panic ends the
run. -/
def frames (reg : List Interceptor) (names : List (String × Nat)) :
    Calls → (Nat → Nat) → Nat → Nat → List SpanEvent × Bool
  | done, _, _, _ => ([], false)
  | call id _ body ending next, δ, k, n =>
    let o := dispatchOpens reg names id δ
    let c := if o.1.isSome then 1 else 0
    let inner := body.frames reg names o.2 (k + c) (n + c)
    let panics := inner.2 || ending.panics
    let own := (o.1.map fun r =>
      sealedFrame r.1 r.2 k n (if panics then none else ending.outcome.error?)).toList
    if panics then (own ++ inner.1, true)
    else
      let rest := next.frames reg names δ k (n + c + inner.1.length)
      (own ++ inner.1 ++ rest.1, rest.2)

variable {reg : List Interceptor} {names : List (String × Nat)}

/-- The frames are numbered one after another from `n`, in the order they open. -/
theorem sequence_frames (c : Calls) (δ : Nat → Nat) (k n : Nat) :
    (c.frames reg names δ k n).1.map SpanEvent.sequence =
      List.range' n (c.frames reg names δ k n).1.length := by
  induction c generalizing δ k n with
  | done => rfl
  | call id inv body ending next ihb ihn =>
    -- the frame the call opens, if any, is numbered `n`; the frames of its body follow, then
    -- those of the calls after it
    simp only [frames]
    cases ho : (dispatchOpens reg names id δ).1 with
    | none =>
      simp only [Option.isSome_none, Bool.false_eq_true, if_false, Nat.add_zero, Option.map_none,
        Option.toList_none, List.nil_append]
      split
      · exact ihb _ _ _
      · rw [List.map_append, ihb, ihn, List.length_append, List.range'_append_1]
    | some r =>
      simp only [Option.isSome_some, if_true, Option.map_some, Option.toList_some,
        List.cons_append, List.nil_append]
      split
      · rw [List.map_cons, ihb, List.length_cons, List.range'_succ]
        rfl
      · rw [List.map_cons, List.map_append, ihb, ihn, List.length_cons, List.length_append,
          List.range'_append_1, List.range'_succ]
        rfl

end Calls

end Agent
end TraceAgent
