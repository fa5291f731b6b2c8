import TraceAgent.Agent.Context

/-!
# Async contexts

An async context resumes the trace that created it on other call chains; every resumed branch
writes into the same span.

* `continueAsync` binds a new branch to the calling chain, taking a hold on the span. On a chain
  already working on a branch of the same span that branch is returned; on a chain busy with any
  other trace, or when the span is unreachable or no longer open, nothing is resumed. A disabled
  context resumes disabled branches.
* `finishAsync` reports one resumed branch finished; the first report also gives back the hold
  taken when the context was created. It is `false` when no unfinished branch is left.
* `dropAsyncRef` drops one clone; when the last clone goes, the holds still owed are given back,
  with a warning for unfinished branches.

Main statement: `Holds.settled_fresh` — a new context owes its creation hold.
-/

namespace TraceAgent

theorem Holds.settled_fresh : (({} : Holds).settled) = false := rfl

namespace Agent

/-- Whether a trace is a branch writing into the span. -/
def ownsBranch (sp : SpanRef) (t : TraceRef) : Agent Bool := do
  let o ← trace t
  pure (o.isAsync && o.span? == some sp)

/-- Binds a branch of the context to the calling chain and returns it. -/
def continueAsync (a : AsyncRef) : Agent (Option TraceRef) := do
  let obj ← asyncObj a
  match obj.kind with
  | .disabled =>
    match ← currentRaw with
    | some t =>
      let o ← trace t
      if !o.canSample && o.isAsync then pure (some t)
      else
        log (.dbg "AsyncContext.Continue.ChainBusy")
        pure none
    | none =>
      let t ← newTrace { kind := .disabled true }
      match ← bindTrace t with
      | .ok () => pure (some t)
      | .error _ => pure none
  | .recording sp tid aid branches holds =>
    match ← currentRaw with
    | some t =>
      if ← ownsBranch sp t then pure (some t)
      else
        log (.dbg "AsyncContext.Continue.ChainBusy")
        pure none
    | none =>
      let acquired ← (do
        if !(← spanReachable sp) then return false
        match (← span sp).acquire with
        | some s => setSpan sp s; pure true
        | none => pure false)
      if !acquired then
        log (.dbg "AsyncContext.Continue.SpanClosed")
        return none
      let holds := { holds with started := holds.started + 1, pinned := true }
      let branch := branches + 1
      setAsync a { obj with kind := .recording sp tid aid branch holds }
      let s ← settings
      let t ← newTrace { kind := .recording sp (some ⟨aid, branch⟩) { maxDepth := s.maxCallStackDepth } }
      match ← bindTrace t with
      | .ok () => pure (some t)
      | .error _ =>
        log (.dbg "AsyncContext.Continue.BindFailed")
        let obj ← asyncObj a
        match obj.kind with
        | .recording sp tid aid branch holds =>
          let holds := { holds with started := holds.started - 1 }
          let holds := if holds.settled then { holds with pinned := false } else holds
          setAsync a { obj with kind := .recording sp tid aid branch holds }
        | .disabled => pure ()
        releaseSpan sp
        pure none

/-- The branch of this context bound to the calling chain. -/
def currentAsync (a : AsyncRef) : Agent (Option TraceRef) := do
  let obj ← asyncObj a
  match ← currentRaw with
  | none => pure none
  | some t =>
    let o ← trace t
    match obj.kind with
    | .recording sp _ _ _ _ => if ← ownsBranch sp t then pure (some t) else pure none
    | .disabled => if o.isAsync && !o.canSample then pure (some t) else pure none

/-- Reports one resumed branch finished. -/
def finishAsync (a : AsyncRef) : Agent Bool := do
  let obj ← asyncObj a
  match obj.kind with
  | .disabled => pure false
  | .recording sp tid aid branch holds =>
    if holds.finished ≥ holds.started then
      log (.warn "AsyncContext.Finish.Unbalanced")
      return false
    let creation := holds.creation
    let holds := { holds with finished := holds.finished + 1, creation := false }
    let pinned := holds.pinned
    let holds := if holds.settled then { holds with pinned := false } else holds
    setAsync a { obj with kind := .recording sp tid aid branch holds }
    if pinned then
      releaseSpan sp
      if creation then releaseSpan sp
    pure true

/-- Adds a clone of an async context. -/
def cloneAsync (a : AsyncRef) : Agent Unit := do
  let obj ← asyncObj a
  setAsync a { obj with refs := obj.refs + 1 }

/-- Drops a clone of an async context; the last one gives back what the context still owes. -/
def dropAsyncRef (a : AsyncRef) : Agent Unit := do
  let obj ← asyncObj a
  let obj := { obj with refs := obj.refs - 1 }
  setAsync a obj
  if obj.refs != 0 then return
  match obj.kind with
  | .disabled => pure ()
  | .recording sp tid aid branch holds =>
    if !holds.pinned then return
    setAsync a { obj with kind := .recording sp tid aid branch { holds with pinned := false, creation := false } }
    let unfinished := holds.started - holds.finished
    if unfinished > 0 then log (.warn "AsyncContext.Drop.UnfinishedBranches")
    if holds.creation then releaseSpan sp
    for _ in List.range unfinished do releaseSpan sp

end Agent
end TraceAgent
