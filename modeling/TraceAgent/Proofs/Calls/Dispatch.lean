import Mathlib
import TraceAgent.Proofs.Chains.Detached
import TraceAgent.Proofs.Calls.RootSpan

/-!
# Dispatch leaves the intercepted call alone

The registry runs an intercepted call between the two hooks of the interceptor registered under
the call site's id. Whatever a hook does, returning, failing or panicking, it cannot reach the
call: the registry turns a hook's panic into a failure and reports a failure as one warning, so a
hook the registry runs always returns, in the world the hook left (`dispatchedWorld`,
`dispatch_run`).

`dispatchedRun` says what a dispatched call amounts to in terms of the runs of its parts. An
unknown id runs the call alone, after a debug event. A registered interceptor's `before` hook runs
once, from the world the dispatch started in; the call runs from the world the hook left; the
`after` hook runs once, from the world the call left, and sees the outcome of the call's value or,
when the call panicked, none. The dispatch then ends with the call's own value or resumes its own
panic (`afterCall`).

Main statement: `around_runs_call_between_hooks`.
-/

namespace TraceAgent
namespace Agent

variable {α β : Type}

/-- Whether a hook run from `w` fails or panics. -/
def hookFails (k : Agent (Except HookError Unit)) (w : World) : Bool :=
  match k.run w with
  | .ok (.ok ()) _ => false
  | _ => true

/-- The world a hook leaves when the registry runs it: the world the hook itself leaves, whether
it returns or panics, with one warning more when it failed or panicked. -/
def dispatchedWorld (k : Agent (Except HookError Unit)) (w : World) : World :=
  if hookFails k w then
    { finalWorld k w with logs := (finalWorld k w).logs ++ [LogEvent.warn "Interceptor.Hook.Failed"].toArray }
  else finalWorld k w

/-- How a dispatched call ends, given how the call itself ended: with the call's own value or its
own panic, once the `after` hook has run from the world the call left, seeing the outcome of the
value or, after a panic, none. -/
def afterCall (after : Outcome → Agent (Except HookError Unit)) (outcome : β → Outcome) :
    EStateM.Result String World β → EStateM.Result String World β
  | .ok v w => .ok v (dispatchedWorld (after (outcome v)) w)
  | .error p w => .error p (dispatchedWorld (after .unwound) w)

/-- A call dispatched through the registry, as its parts run: an unknown id runs the call alone,
after a debug event; for a registered interceptor the `before` hook runs first, the call from the
world the hook left, and the `after` hook last. -/
def dispatchedRun (id : Nat) (inv : Invocation) (call : Agent β) (outcome : β → Outcome) (w : World) :
    EStateM.Result String World β :=
  match w.registry[id]? with
  | none => call.run { w with logs := w.logs ++ [LogEvent.dbg "InterceptorRegistry.UnknownId"].toArray }
  | some i => afterCall (hookAfter i inv) outcome (call.run (dispatchedWorld (hookBefore i inv) w))

/-- A hook the registry runs never panics: a panic becomes the failure
`interceptor panicked: …`, and a failure is reported as one warning. -/
theorem dispatch_run (k : Agent (Except HookError Unit)) (w : World) :
    (do report (← contain k)).run w = .ok () (dispatchedWorld k w) := by
  cases hk : k.run w with
  | ok r w' =>
    rw [run_bind_ok (contain_run_ok hk)]
    cases r with
    | ok u => simp [report, dispatchedWorld, hookFails, finalWorld, hk]
    | error e => simp [report, dispatchedWorld, hookFails, finalWorld, hk, log, emit]
  | error p w' =>
    have hc : (contain k).run w = .ok (.error (.other ("interceptor panicked: " ++ p))) w' :=
      run_tryCatch_error hk
    rw [run_bind_ok hc]
    simp [report, dispatchedWorld, hookFails, finalWorld, hk, log, emit]

/-- A hook the registry runs, then the rest: the rest starts from the world the hook left. -/
theorem run_dispatched_bind (k : Agent (Except HookError Unit)) (f : Agent α) (w : World) :
    (do let y ← contain k; report y; f).run w = f.run (dispatchedWorld k w) := by
  rw [← bind_assoc]
  exact run_bind_ok (dispatch_run k w)

theorem run_bind_error {x : Agent α} {f : α → Agent β} {w w' : World} {p : String}
    (h : x.run w = .error p w') : (x >>= f).run w = .error p w' := by
  rw [EStateM.run_bind, h]

/-- The call and the `after` hook of a dispatch, from the world the `before` hook left. -/
theorem run_call_then_after (i : Interceptor) (inv : Invocation) (call : Agent β)
    (outcome : β → Outcome) (w : World) :
    (do
      let r ← tryCatch call fun text => do
        report (← contain (hookAfter i inv .unwound))
        throw text
      report (← contain (hookAfter i inv (outcome r)))
      pure r).run w = afterCall (hookAfter i inv) outcome (call.run w) := by
  cases hc : call.run w with
  | ok v w₁ =>
    rw [run_bind_ok (run_tryCatch_ok hc), run_dispatched_bind]
    rfl
  | error p w₁ =>
    -- the panic runs the `after` hook on its way out, then goes on
    refine run_bind_error ((run_tryCatch_error hc).trans ?_)
    rw [run_dispatched_bind]
    rfl

/-- The registry runs an intercepted call between its interceptor's hooks and leaves the call
alone. For an id that is not registered it runs the call alone, after a debug event. For a
registered interceptor, whatever its hooks do, return, fail or panic, and however the call ends:
the `before` hook runs once, then the call from the world the hook left, then the `after` hook
once, from the world the call left, seeing the outcome of the call's value or none when the call
panicked; the dispatch returns the call's own value or resumes the call's own panic. A hook's
failure or panic goes no further than a warning. -/
theorem around_runs_call_between_hooks (id : Nat) (inv : Invocation) (call : Agent β)
    (outcome : β → Outcome) (w : World) :
    (∀ (k : Agent (Except HookError Unit)) (v : World),
        (do report (← contain k)).run v = .ok () (dispatchedWorld k v)) ∧
      (around id inv call outcome).run w = dispatchedRun id inv call outcome w := by
  refine ⟨dispatch_run, ?_⟩
  unfold around dispatchedRun
  cases hi : w.registry[id]? with
  | none =>
    have hl : (lookupInterceptor id).run w =
        .ok none { w with logs := w.logs ++ [LogEvent.dbg "InterceptorRegistry.UnknownId"].toArray } := by
      simp [lookupInterceptor, hi, log, emit]
    rw [run_bind_ok hl]
  | some i =>
    rw [run_bind_ok (lookupInterceptor_run_some hi)]
    exact (run_dispatched_bind _ _ w).trans (run_call_then_after i inv call outcome _)

end Agent
end TraceAgent
