import TraceAgent.Agent.Async
import TraceAgent.Agent.Scopes

/-!
# Dropping attachments and chain states

Most values leave no trace when dropped. Two do:

* an async context clone (`dropAsyncRef`): the last one gives its holds back;
* a hook attachment: on the thread where it is dropped it enters and leaves its scope, looks for
  the bound trace, starts and removes a trace, looks for a bound trace on a fresh chain, tries to
  resume its async context (removing any branch it gets), and writes one journal line:

  `drop_hook s: enter=b depth=n current=b new_trace=ok|Kind polled_bound=b resumed=b|-`

  then drops its async context clone. On a thread whose chain storage is being torn down every
  chain operation fails, so the line reads `enter=false`, `new_trace=ChainUnavailable` and
  `resumed=false`.

`getOrCreateAttachment` reads a scope's attachment, stored first from an initializer when the slot
is empty, and drops what the store replaced or could not store.

`withDetached` runs work on the calling thread with a detached chain state swapped in, and
returns the chain state as the work left it. A chain state is dropped trace first, then its
attachments in scope order.

Dropping recurses only through a hook's own scope leave, which never removes an attachment in
practice; `fuel` bounds it.
-/

namespace TraceAgent
namespace Agent

/-- Runs `k` with `c` as the calling thread's chain state, then restores the thread's own state
and returns the state `k` left for the detached chain. When the thread's storage is gone, `k`
runs without the swap. -/
def withDetached {α : Type} (c : Option ChainLocal) (k : Agent α) : Agent (α × Option ChainLocal) := do
  if !(← storageAvailable) then
    let a ← k
    return (a, c)
  let w ← get
  let here := w.here
  let own := localOf w here
  putLocal here c
  let restore : Agent (Option ChainLocal) := do
    let after := localOf (← get) here
    putLocal here own
    pure after
  let a ← tryCatch k fun e => do
    let _ ← restore
    throw e
  let after ← restore
  pure (a, after)

/-- Takes the calling thread's chain state away, leaving the thread with nothing bound. -/
def detachLocal : Agent (Option ChainLocal) := do
  match ← withChain (fun c => (c, {})) with
  | .ok c => pure (if c.isEmpty then none else some c)
  | .error _ => pure none

/-- The journal text of a boolean. -/
def flagText (b : Bool) : String := if b then "true" else "false"

mutual

/-- Drops an attachment on the calling thread. -/
def dropAttachment : Nat → Attachment → Agent Unit
  | 0, _ => pure ()
  | fuel + 1, .hook s a => do
    let id ← scopeId s
    let enter ← scopeEnter id .always
    if let some x ← scopeLeave id then dropAttachment fuel x
    let depth ← scopeDepth id
    let current := (← currentRaw).isSome
    let created ← match ← newTraceObject with
      | .ok _ =>
        let _ ← removeTraceObject
        pure "ok"
      | .error e => pure e.kind
    let (polled, after) ← withDetached none (do pure (← currentRaw).isSome)
    dropChainLocal fuel after
    let resumed ← match a with
      | some r =>
        match ← continueAsync r with
        | some _ =>
          let _ ← removeTraceObject
          pure "true"
        | none => pure "false"
      | none => pure "-"
    note ("drop_hook " ++ s ++ ": enter=" ++ flagText enter ++ " depth=" ++ toString depth ++
      " current=" ++ flagText current ++ " new_trace=" ++ created ++ " polled_bound=" ++
      flagText polled ++ " resumed=" ++ resumed)
    if let some r := a then dropAsyncRef r
  | _ + 1, _ => pure ()

/-- Drops a chain state on the calling thread: its trace, then its attachments. -/
def dropChainLocal : Nat → Option ChainLocal → Agent Unit
  | 0, _ => pure ()
  | _, none => pure ()
  | fuel + 1, some c => dropAttachments fuel (c.slots.filterMap (·.2.attachment))

/-- Drops attachments in order. -/
def dropAttachments : Nat → List Attachment → Agent Unit
  | _, [] => pure ()
  | fuel, x :: rest => do
    dropAttachment fuel x
    dropAttachments fuel rest

end

/-- The fuel for dropping: a hook drops at most a few levels of values. -/
def dropFuel : Nat := 4

/-- Drops an optional attachment. -/
def dropMaybe : Option Attachment → Agent Unit
  | some x => dropAttachment dropFuel x
  | none => pure ()

/-- The attachment of a scope, stored first from `init` when the slot is empty; none while no
entry is open. `init` runs outside the chain's state, so it may use scopes itself; a value the
store replaces, or could not store, is dropped. -/
def getOrCreateAttachment (scope : Nat) (init : Agent Attachment) : Agent (Option Attachment) := do
  if (← scopeDepth scope) == 0 then return none
  if (← attachment scope).isNone then
    let (prev, unstored) ← setAttachment scope (← init)
    dropMaybe prev
    dropMaybe unstored
  attachment scope

/-- Stops a chain's thread: its storage goes, then its state is dropped there. -/
def stopThread (th : Thread) : Agent Unit :=
  onThread th do
    let c := localOf (← get) th
    putLocal th none
    modify fun w => { w with gone := w.gone ++ [th] }
    dropChainLocal dropFuel c

/-- Drops what a handle refers to. -/
def dropHandleValue : Handle → Agent Unit
  | .async a => dropAsyncRef a
  | _ => pure ()

/-- Stores a handle under a name; the value it replaces is dropped. -/
def storeHandle (name : String) (h : Handle) : Agent Unit := do
  let w ← get
  let old := w.handles.lookup name
  let kept := w.handles.filter (fun (p : String × Handle) => p.1 != name)
  set { w with handles := kept ++ [(name, h)] }
  if let some o := old then dropHandleValue o

/-- Stores a detached chain state under a name; the state it replaces is dropped. -/
def storeDetached (name : String) (c : Option ChainLocal) : Agent Unit := do
  let w ← get
  let old := w.detached.lookup name
  let kept := w.detached.filter (fun (p : String × Option ChainLocal) => p.1 != name)
  set { w with detached := kept ++ [(name, c)] }
  if let some o := old then dropChainLocal dropFuel o

end Agent
end TraceAgent
