import TraceAgent.Protocol.Labels
import TraceAgent.Record
import TraceAgent.Propagation
import TraceAgent.Sampler
import TraceAgent.Policy

/-!
# Common shapes of requests and answers

The value shapes shared by many operations, each with its reader and its writer:

* error spec: a message string, or `{"message", "causes"}`;
* attribute value: `{"bool": b}`, `{"i64": n}`, `{"f64": x}` or `{"str": s}`, written back with its
  display text;
* service type: one of the six names, or `{"code", "name"}` with a 16-bit code;
* method descriptor: a name, or `{"name", "api_id"?, "line"?}`;
* sampler: `"always_on"`, `"always_off"`, `{"counting": n}` or `{"percent": x}`; a percentage
  strictly between 0 and 100 is refused as random, and one within `1e-12` of an end is moved onto it;
* trace id: `{"txid", "span_id", "parent_span_id"?, "flags"?}`, where the transaction id is text or
  `{"agent_id", "agent_start_time", "sequence"}`;
* header list: `[[key, value], …]`, each pair set with a lowercased key, or kept as given with a
  third item `"raw"`.
-/

namespace TraceAgent
namespace Protocol

/-- Reads an error spec. -/
def readErrorSpec (key : String) : Doc → Read ExceptionInfo
  | .str s => pure ⟨s, []⟩
  | d@(.obj _) => do
    let message ← reqString d "message"
    let causes ← stringList key (← optList d "causes")
    pure ⟨message, causes⟩
  | _ => refuse key

/-- Writes an exception. -/
def exceptionDoc (e : ExceptionInfo) : Doc :=
  .obj [("causes", .arr (e.causes.map .str)), ("message", .str e.message)]

/-- Reads an attribute value. -/
def readAttrValue : Doc → Read AttrValue
  | d =>
    match d.field? "bool", d.field? "i64", d.field? "f64", d.field? "str" with
    | some (.bool b), _, _, _ => pure (.bool b)
    | _, some v, _, _ => do
      let n ← intIn (-Int.pow 2 63) (Int.pow 2 63 - 1) "i64" v
      pure (.int (Int64.ofInt n))
    | _, _, some v, _ =>
      match floatOf? v with
      | some x => pure (.float x)
      | none => refuse "f64"
    | _, _, _, some (.str s) => pure (.text s)
    | _, _, _, _ => .error (.badInput "unknown annotation value")

/-- Writes an attribute value with its display text. -/
def attrValueDoc (v : AttrValue) : Doc :=
  let display := ("display", Doc.str v.display)
  match v with
  | .bool b => .obj [("bool", .bool b), display]
  | .int n => .obj [display, ("i64", .int n.toInt)]
  | .float x => .obj [display, ("f64", .float x)]
  | .text s => .obj [display, ("str", .str s)]

/-- Writes an attribute. -/
def attrDoc (a : Attr) : Doc := .obj [("key", .str a.key), ("value", attrValueDoc a.value)]

/-- Reads a service type. -/
def readServiceType : Doc → Read ServiceType
  | .str s =>
    match ServiceType.named.find? (fun t => t.name == s) with
    | some t => pure t
    | none => .error (.badInput "unknown service type")
  | d@(.obj _) => do
    let code ← match d.field? "code" with
      | some (.int n) =>
        if -Int.pow 2 15 ≤ n ∧ n < Int.pow 2 15 then pure n
        else .error (.badInput "service type code must be i16")
      | _ => .error (.badInput "service type code must be i16")
    let name ← reqString d "name"
    pure ⟨Int16.ofInt code, name⟩
  | _ => .error (.badInput "unknown service type")

/-- Writes a service type. -/
def serviceTypeDoc (s : ServiceType) : Doc := .obj [("code", .int s.code.toInt), ("name", .str s.name)]

/-- Reads a method descriptor. -/
def readDescriptor (key : String) : Doc → Read MethodDescriptor
  | .str s => pure (MethodDescriptor.named s)
  | d@(.obj _) => do
    let name ← reqString d "name"
    let api ← optInt d "api_id" (-Int.pow 2 31) (Int.pow 2 31 - 1)
    let line ← optInt d "line" (-Int.pow 2 31) (Int.pow 2 31 - 1)
    pure ⟨name, Int32.ofInt (api.getD 0), Int32.ofInt (line.getD (-1))⟩
  | _ => refuse key

/-- Writes a method descriptor. -/
def descriptorDoc (m : MethodDescriptor) : Doc :=
  .obj [("api_id", .int m.apiId.toInt), ("line", .int m.line.toInt), ("name", .str m.fullName)]

/-- A percentage moved onto 0 or 100 when within `1e-12` of it. -/
def snapPercent (x : Float) : Float :=
  if 0.0 < x && x ≤ 1e-12 then 0.0
  else if 100.0 - 1e-12 ≤ x && x < 100.0 then 100.0
  else x

/-- Reads a sampler; a random percentage is refused. -/
def readSampler (key : String) : Doc → Read Sampler
  | .str "always_on" => pure .alwaysOn
  | .str "always_off" => pure .alwaysOff
  | d@(.obj _) =>
    match d.field? "counting", d.field? "percent" with
    | some v, _ => do
      let r ← intIn 0 (Int.pow 2 64 - 1) "counting" v
      pure (.counting r.toNat.toUInt64)
    | _, some v =>
      match floatOf? v with
      | some x =>
        let s := Sampler.percent (snapPercent x)
        if s.isDeterministic then pure s else .error .nondeterministic
      | none => refuse "percent"
    | _, _ => refuse key
  | _ => refuse key

/-- Reads a transaction id: text to parse, or its three parts. -/
def readTransaction (key : String) : Doc → Except (Sum Refusal TraceError) TransactionId
  | .str s =>
    match TransactionId.ofString? s with
    | .ok t => .ok t
    | .error e => .error (.inr e)
  | d@(.obj _) =>
    match reqString d "agent_id", reqNat d "agent_start_time" (Nat.pow 2 64), reqNat d "sequence" (Nat.pow 2 64) with
    | .ok a, .ok st, .ok sq => .ok ⟨a, st.toUInt64, sq.toUInt64⟩
    | .error e, _, _ => .error (.inl e)
    | _, .error e, _ => .error (.inl e)
    | _, _, .error e => .error (.inl e)
  | _ => .error (.inl (.badInput key))

/-- Reads a trace id; an unreadable transaction id text gives its trace error. -/
def readTraceId (m : Masks) (d : Doc) : Except (Sum Refusal TraceError) TraceId := do
  let tx ← match d.field? "txid" with
    | some v => readTransaction "txid" v
    | none => .error (.inl (.badInput "txid"))
  let lift {α : Type} (r : Read α) : Except (Sum Refusal TraceError) α := r.mapError .inl
  let span ← lift (match d.field? "span_id" with
    | some v => m.readSpanId "span_id" v
    | none => refuse "span_id")
  let parent ← lift (match optField d "parent_span_id" with
    | some v => m.readSpanId "parent_span_id" v
    | none => pure SpanId.none)
  let flags ← lift (optNat d "flags" (Nat.pow 2 16))
  pure ⟨tx, span, parent, (flags.getD 0).toUInt16⟩

/-- Writes a trace id. -/
def traceIdDoc (m : Masks) (t : TraceId) : Doc :=
  .obj [("flags", .int t.flags.toNat), ("is_root", .bool t.isRoot), ("parent_span_id", m.spanDoc t.parent),
    ("span_id", m.spanDoc t.span), ("txid", .str (m.txidText t.transaction))]

/-- Writes a remote trace. -/
def remoteDoc (m : Masks) : RemoteTrace → Doc
  | .absent => .str "absent"
  | .notSampled => .str "not_sampled"
  | .resume id app host =>
    .obj [("continue", .obj [("host", Doc.ofOption .str host),
      ("parent_application_name", Doc.ofOption .str app), ("trace_id", traceIdDoc m id)])]

/-- Applies a header list to a carrier. -/
def applyHeaderList (h : HeaderMap) (key : String) (items : List Doc) : Read HeaderMap :=
  items.foldlM (fun acc item =>
    match item with
    | .arr [.str k, .str v] => pure (acc.set k v)
    | .arr [.str k, .str v, .str "raw"] => pure (acc.insertRaw k v)
    | _ => refuse key) h

/-- Writes a carrier as an object, values masked. -/
def headersDoc (m : Masks) (h : HeaderMap) : Doc :=
  .obj (h.entries.map fun e => (e.1, .str (m.headerText e.2)))

end Protocol
end TraceAgent
