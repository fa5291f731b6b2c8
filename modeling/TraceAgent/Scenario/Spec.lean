import TraceAgent.Intercept.Spec
import TraceAgent.Protocol.Probe

/-!
# Interceptor specs of a scripted run

A run registers interceptors described by documents:

* `{"kind": "entry_point", "api", "service_type"?, "handler"}` (service type `STAND_ALONE` by
  default), `{"kind": "span_event", ...}` (`INTERNAL_METHOD` by default) and
  `{"kind": "async_end_point", "api", "handler"}`;
* `{"kind": "scoped", "scope", "policy", "delegate", "describe"?}` around another spec;
* `{"kind": "journal", "before"?, "after"?}`.

A handler is `{"plain": true}` or `{"create"?, "before"?, "after"?, "context_arg"?}`. Every action
object is looked at for its keys in a fixed order and runs the first it has; an object with none
of them does nothing.

Every interceptor is tagged with its registered name, a scoped one's delegate too. A scoped spec
with `"describe": true` gives a journal line naming its scope and delegate.
-/

namespace TraceAgent
namespace Scenario

open Protocol

/-- Reads one handler action. -/
def readAction (d : Doc) : Read Action := do
  if let some (.str s) := d.field? "journal" then return .journal s
  if let some v := d.field? "attr_arg" then
    return .attrArg (← intIn 0 (Int.pow 2 32 - 1) "attr_arg" v).toNat
  if let some v := d.field? "attr" then
    match v with
    | .arr [.str k, x] => return .attr ⟨k, ← readAttrValue x⟩
    | _ => return ← refuse "attr"
  if d.has "outcome" then return .outcome
  if let some (.str s) := d.field? "rpc" then return .rpc s
  if let some (.str s) := d.field? "remote_address" then return .remoteAddress s
  if let some (.str s) := d.field? "destination_id" then return .destinationId s
  if let some (.str s) := d.field? "end_point" then return .endPoint s
  if let some v := d.field? "api" then return .api (← readDescriptor "api" v)
  if let some (.str s) := d.field? "async_as" then return .asyncAs s
  if d.has "debug" then return .debug
  if let some (.str s) := d.field? "fail" then return .fail s
  if d.has "fail_static" then return .failStatic
  if let some (.str s) := d.field? "panic" then return .panic s
  if d.has "panic_static" then return .panicStatic
  if d.has "panic_any" then return .panicAny
  pure .nothing

/-- Reads a list of handler actions. -/
def readActions (d : Doc) (key : String) : Read (List Action) := do
  (← optList d key).mapM readAction

/-- Reads how an entry point starts its trace. -/
def readCreateMode : Option String → Read CreateMode
  | none => pure .fresh
  | some "from_headers" => pure .fromHeaders
  | some "disabled" => pure .disabled
  | some "fail" => pure .fail
  | some "fail_static" => pure .failStatic
  | some _ => refuse "create"

/-- Reads a handler; `plain` says whether the kind takes a plain handler. -/
def readHandler (tag : String) (d : Doc) : Read Handler := do
  let h := (optField d "handler").getD (.obj [])
  if ← flag h "plain" then return { tag, plain := true }
  let create ← readCreateMode (← optString h "create")
  let before ← readActions h "before"
  let after ← readActions h "after"
  let contextArg ← optNat h "context_arg" (Nat.pow 2 32)
  pure { tag, create, before, after, contextArg }

/-- Reads an optional service type with a default. -/
def readServiceTypeOr (d : Doc) (default : ServiceType) : Read ServiceType :=
  match optField d "service_type" with
  | some v => readServiceType v
  | none => pure default

/-- Reads an interceptor spec, with the journal lines its building gives. -/
def readInterceptor (tag : String) : Nat → Doc → Read (Interceptor × List String)
  | 0, _ => refuse "interceptor"
  | fuel + 1, d => do
    let kind ← reqString d "kind"
    let plainRefused : Read Unit := do
      if let some h := optField d "handler" then
        if ← flag h "plain" then refuse "handler"
    match kind with
    | "entry_point" => do
      let api ← readDescriptor "api" ((optField d "api").getD .null)
      let st ← readServiceTypeOr d .standAlone
      pure (.entryPoint api st (← readHandler tag d), [])
    | "span_event" => do
      let api ← readDescriptor "api" ((optField d "api").getD .null)
      let st ← readServiceTypeOr d .internalMethod
      pure (.spanEvent api st (← readHandler tag d), [])
    | "async_end_point" => do
      let api ← readDescriptor "api" ((optField d "api").getD .null)
      pure (.asyncEndPoint api (← readHandler tag d), [])
    | "scoped" => do
      plainRefused
      let scope ← reqString d "scope"
      let policy ← readPolicy d "policy"
      let (delegate, lines) ← readInterceptor tag fuel ((optField d "delegate").getD .null)
      let describe ← flag d "describe"
      let line := tag ++ ":scoped scope=" ++ scope ++ " delegate=" ++ delegate.debug
      pure (.gated scope policy delegate, if describe then lines ++ [line] else lines)
    | "journal" => do
      plainRefused
      pure (.journal tag (← readActions d "before") (← readActions d "after"), [])
    | other => .error (.unknownInterceptor other)

end Scenario
end TraceAgent
