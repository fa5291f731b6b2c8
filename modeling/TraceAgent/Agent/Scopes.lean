import TraceAgent.Agent.Context

/-!
# Interceptor scopes on a chain

Interceptors that share a scope count their nesting per call chain, so that only the level an
execution policy selects records. Each scope has, on each chain, a depth and one attachment slot;
both exist from the first entry until the depth is back at zero, when the slot and its attachment
are removed.

* `scopeEnter` counts an entry and says whether the policy lets it record.
* `scopeLeave` counts an entry out and returns the attachment removed with the last one, for the
  caller to drop; a leave without entry is ignored with a warning.
* `setAttachment` stores a value while the scope is entered and returns the value it replaced;
  a value that could not be stored is returned too, with a warning.

On a thread whose chain storage is being torn down, entering says `false` and leaving does
nothing, each with a debug event.

Main statement: `ScopeSlot.leave_depth` — a leave takes one off the depth.
-/

namespace TraceAgent

/-- The slot after one leave: the depth one less (not below zero), and whether it is now empty. -/
def ScopeSlot.leave (s : ScopeSlot) : ScopeSlot × Bool :=
  let d := s.depth - 1
  ({ s with depth := d }, d == 0)

theorem ScopeSlot.leave_depth (s : ScopeSlot) : s.leave.1.depth = s.depth - 1 := rfl

namespace Agent

/-- Counts one entry into a scope and says whether `policy` lets it record. -/
def scopeEnter (scope : Nat) (policy : ExecutionPolicy) : Agent Bool := do
  let r ← withChain fun c =>
    let s := (c.slot? scope).getD {}
    (s.depth, c.setSlot scope { s with depth := s.depth + 1 })
  match r with
  | .ok before => pure (policy.allowsEnter before)
  | .error _ =>
    log (.dbg "InterceptorScope.TryEnter.ChainUnavailable")
    pure false

/-- Entries of a scope not yet left on the calling chain. -/
def scopeDepth (scope : Nat) : Agent Nat := do
  match ← readChain (fun c => (c.bind (·.slot? scope)).map (·.depth)) with
  | .ok (some d) => pure d
  | _ => pure 0

/-- Whether the matching leave may record under `policy`. -/
def scopeCanLeave (scope : Nat) (policy : ExecutionPolicy) : Agent Bool := do
  pure (policy.allowsLeave (← scopeDepth scope))

/-- Counts one entry out; returns the attachment removed with the last entry. -/
def scopeLeave (scope : Nat) : Agent (Option Attachment) := do
  let r ← withChain fun c =>
    match c.slot? scope with
    | none => ((false, none), c)
    | some s =>
      let (s, empty) := s.leave
      if empty then ((true, s.attachment), c.eraseSlot scope) else ((true, none), c.setSlot scope s)
  match r with
  | .ok (true, att) => pure att
  | .ok (false, _) =>
    log (.warn "InterceptorScope.Leave.Underflow")
    pure none
  | .error _ =>
    log (.dbg "InterceptorScope.Leave.ChainUnavailable")
    pure none

/-- Stores a value in the scope's slot: the value it replaced, and the value itself when it could
not be stored. -/
def setAttachment (scope : Nat) (v : Attachment) : Agent (Option Attachment × Option Attachment) := do
  let r ← withChain fun c =>
    match c.slot? scope with
    | none => ((none, false), c)
    | some s => ((s.attachment, true), c.setSlot scope { s with attachment := some v })
  match r with
  | .ok (prev, true) => pure (prev, none)
  | _ =>
    log (.warn "InterceptorScope.SetAttachment.NotActive")
    pure (none, some v)

/-- The attachment stored in the scope's slot. -/
def attachment (scope : Nat) : Agent (Option Attachment) := do
  match ← readChain (fun c => (c.bind (·.slot? scope)).bind (·.attachment)) with
  | .ok a => pure a
  | .error _ => pure none

/-- Takes the attachment out of the scope's slot. -/
def removeAttachment (scope : Nat) : Agent (Option Attachment) := do
  let r ← withChain fun c =>
    match c.slot? scope with
    | none => (none, c)
    | some s => (s.attachment, c.setSlot scope { s with attachment := none })
  match r with
  | .ok a => pure a
  | .error _ => pure none

end Agent
end TraceAgent
