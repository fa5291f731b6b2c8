import Mathlib
import TraceAgent.Proofs.Chains.Store
import TraceAgent.Proofs.Calls.Writing
import TraceAgent.Proofs.Headers.RoundTrip

/-!
# Starting a trace on a chain

A start call (`newTraceObject`, `continueTraceObject`, `disableSampling` or `traceFor`) checks
that the calling chain has no bound trace, builds its trace object, and binds it. The steps read
the chain store at different times, so what a failure leaves behind depends on where it happens:

* on a bound chain the call fails with `alreadyBound` and changes nothing but the log
  (`StartCall.run_bound`);
* on a thread whose storage is torn down the bound check passes, as nothing can be read, and the
  bind fails with `chainUnavailable`: no chain changes, but a root start has already asked the
  sampler and drawn its ids (`StartCall.run_down`);
* on a live unbound chain the call binds the next trace and changes no other chain
  (`StartCall.run_up`).

Only root starts, a new trace or the trace for a caller that sent none, ask the sampler: once, and
when it samples they take the next transaction sequence and one root span id
(`World.rootDraws`). So with no chain torn down, the sampled roots of any run of start, unbind and
discard calls count on from the transaction counter (`runStarts_counts`).

Main statement: `start_calls_fail_atomically_and_draw_once`.
-/

namespace TraceAgent

namespace World

/-- The trace the calling chain is bound to, as the chain store reads it: none while the
thread's storage is torn down. -/
def boundTrace (w : World) : Option TraceRef := if w.chainUp then w.chain.trace else none

/-- What a start call may use up: the sampler's counter, the id counters and the random span
ids. -/
def draws (w : World) : Sampler.State × IdSource × RandomSpans := (w.sampling, w.ids, w.rand)

/-- The world outside the chain store as start calls see it: the calling thread, the torn-down
threads, the settings and the draws. -/
def outside (w : World) : Thread × List Thread × Settings × (Sampler.State × IdSource × RandomSpans) :=
  (w.here, w.gone, w.settings, w.draws)

/-- The draws after one root start: one sampler decision and, when it samples, the next
transaction sequence and one root span id, counted or drawn at random. -/
def rootDraws (w : World) : Sampler.State × IdSource × RandomSpans :=
  let d := w.settings.sampler.decide w.sampling
  if d.1 then
    match w.ids.kind with
    | .increment => (d.2, w.ids.nextSequence.2.nextCountedSpan.2, w.rand)
    | .random => (d.2, w.ids.nextSequence.2, (w.rand.random).2)
  else (d.2, w.ids, w.rand)

/-- The transaction a root start opens: none when the sampler declines, otherwise this agent's
next one. -/
def rootTransaction (w : World) : Option TransactionId :=
  if (w.settings.sampler.decide w.sampling).1 then
    some ⟨w.settings.agentId, w.settings.startTime, w.ids.sequence + 1⟩
  else none

/-- The trace id of trace `t`, if it records. -/
def idOf (w : World) (t : TraceRef) : Option TraceId :=
  (w.traces[t]?.getD default).span?.map fun sp => (w.spans[sp]?.getD default).traceId

variable {w u : World} {d : Sampler.State × IdSource × RandomSpans}

theorem boundTrace_of_up (hup : w.chainUp = true) : w.boundTrace = w.chain.trace := by
  simp [boundTrace, hup]

theorem boundTrace_of_down (hup : w.chainUp = false) : w.boundTrace = none := by
  simp [boundTrace, hup]

/-- Two worlds with the same chain store, calling thread and torn-down threads read the same
binding. -/
theorem chain_eq_of_locals (hl : u.locals = w.locals) (hh : u.here = w.here) : u.chain = w.chain := by
  simp only [chain, Agent.localOf, hl, hh]

theorem chainUp_eq_of (hh : u.here = w.here) (hg : u.gone = w.gone) : u.chainUp = w.chainUp := by
  simp only [chainUp, hh, hg]

/-- A sampled root start on a random id source uses up one sequence and one random draw. -/
theorem rootDraws_of_random (hd : (w.settings.sampler.decide w.sampling).1 = true)
    (hk : w.ids.kind = .random) {d : SpanId × RandomSpans} (hdraw : w.rand.random = d) :
    w.rootDraws = ((w.settings.sampler.decide w.sampling).2, w.ids.nextSequence.2, d.2) := by
  unfold rootDraws
  simp only [hd, hk, ↓reduceIte, hdraw]

/-- The transaction sequence a root start records under: the next one, when it samples. -/
theorem rootTransaction_sequence :
    w.rootTransaction.map (·.sequence) =
      if (w.settings.sampler.decide w.sampling).1 then some (w.ids.sequence + 1) else none := by
  unfold rootTransaction
  cases (w.settings.sampler.decide w.sampling).1 <;> rfl

/-- A root start uses up one transaction sequence exactly when it samples. -/
theorem rootDraws_sequence :
    w.rootDraws.2.1.sequence =
      if (w.settings.sampler.decide w.sampling).1 then w.ids.sequence + 1 else w.ids.sequence := by
  unfold rootDraws
  cases hd : (w.settings.sampler.decide w.sampling).1
  · simp only [hd, Bool.false_eq_true, ↓reduceIte]
  · cases hk : w.ids.kind <;>
      simp only [hd, hk, ↓reduceIte, IdSource.nextSequence, IdSource.nextCountedSpan]

theorem gone_of_outside {th : Thread} {g : List Thread} {st : Settings} (h : u.outside = (th, g, st, d)) :
    u.gone = g := congrArg (·.2.1) h

theorem sampling_of_outside {th : Thread} {g : List Thread} {st : Settings}
    (h : u.outside = (th, g, st, d)) : u.sampling = d.1 := congrArg (·.2.2.2.1) h

theorem ids_of_outside {th : Thread} {g : List Thread} {st : Settings} (h : u.outside = (th, g, st, d)) :
    u.ids = d.2.1 := congrArg (·.2.2.2.2.1) h

/-- `u` is `w` past a start call's object stage: the same chain store, calling thread,
torn-down threads and settings, and the draws `d`. -/
structure Beside (w : World) (d : Sampler.State × IdSource × RandomSpans) (u : World) : Prop where
  locals : u.locals = w.locals
  outside : u.outside = (w.here, w.gone, w.settings, d)

theorem Beside.here (h : w.Beside d u) : u.here = w.here := congrArg (·.1) h.outside

theorem Beside.gone (h : w.Beside d u) : u.gone = w.gone := gone_of_outside h.outside

theorem Beside.chainUp (h : w.Beside d u) : u.chainUp = w.chainUp := chainUp_eq_of h.here h.gone

theorem Beside.chain (h : w.Beside d u) : u.chain = w.chain := chain_eq_of_locals h.locals h.here

/-- Binding a new trace on the calling chain: its state bound to `t`, the rest of the world as it
was. -/
theorem withLocal_bound (w : World) (c : ChainLocal) (t : TraceRef) :
    let u := w.withLocal w.here (some { c with trace := some t })
    u.chain = { c with trace := some t } ∧ (∀ th, th ≠ w.here → Agent.localOf u th = Agent.localOf w th) ∧
      u.outside = w.outside ∧ ∀ t', u.idOf t' = w.idOf t' := by
  refine ⟨?_, fun th hth => localOf_withLocal_ne w _ hth, ?_, fun t' => ?_⟩
  · rw [chain_eq_chainAt, here_withLocal, chainAt_withLocal_self]
    rfl
  · rw [withLocal_eq]
    rfl
  · rw [withLocal_eq]
    rfl

end World

namespace Agent

variable {w u : World} {d : Sampler.State × IdSource × RandomSpans}

/-! ## The steps of a start call -/

theorem currentRaw_run_bound (w : World) : currentRaw.run w = .ok w.boundTrace w := by
  cases hup : w.chainUp
  · have hread : (readChain fun c => c.bind (·.trace)).run w = .ok (.error .chainUnavailable) w := by
      unfold readChain
      rw [run_bind_ok (storageAvailable_run w), hup]
      rfl
    unfold currentRaw
    rw [run_bind_ok hread]
    simp [World.boundTrace, hup]
  · rw [currentRaw_run hup]
    simp [World.boundTrace, hup]

theorem ensureUnbound_run_some {t : TraceRef} (hb : w.boundTrace = some t) :
    ensureUnbound.run w =
      .ok (.error .alreadyBound) { w with logs := w.logs ++ [LogEvent.err "TraceContext.AlreadyBound"].toArray } := by
  unfold ensureUnbound
  rw [run_bind_ok (currentRaw_run_bound w), hb]
  rfl

theorem ensureUnbound_run_none (hb : w.boundTrace = none) : ensureUnbound.run w = .ok (.ok ()) w := by
  unfold ensureUnbound
  rw [run_bind_ok (currentRaw_run_bound w), hb]
  rfl

theorem isSampled_run (w : World) :
    isSampled.run w = .ok (w.settings.sampler.decide w.sampling).1
      { w with sampling := (w.settings.sampler.decide w.sampling).2 } := rfl

theorem nextSequence_run (w : World) :
    nextSequence.run w = .ok (w.ids.sequence + 1) { w with ids := w.ids.nextSequence.2 } := rfl

theorem newSpanId_run_increment (hk : w.ids.kind = .increment) :
    newSpanId.run w = .ok w.ids.nextCountedSpan.1 { w with ids := w.ids.nextCountedSpan.2 } := by
  unfold newSpanId
  rw [run_bind_ok (get_run w)]
  simp only [hk]
  rfl

/-- A random id source draws from the stream the world holds. The draw is named, so that no
proof has to evaluate it on an unknown stream. -/
theorem newSpanId_run_random (d : SpanId × RandomSpans) (hk : w.ids.kind = .random)
    (hd : w.rand.random = d) : newSpanId.run w = .ok d.1 { w with rand := d.2 } := by
  subst hd
  unfold newSpanId
  rw [run_bind_ok (get_run w)]
  simp only [hk]
  rfl

theorem recordingTrace_run (tid : TraceId) (w : World) :
    (recordingTrace tid).run w = .ok w.traces.size
      { w with
        spans := w.spans.push { traceId := tid, maxEvents := w.settings.maxSpanEvents }
        traces := w.traces.push
          { kind := .recording w.spans.size none { maxDepth := w.settings.maxCallStackDepth } } } := rfl

theorem withChain_run_down {α : Type} (f : ChainLocal → α × ChainLocal) (hup : w.chainUp = false) :
    (withChain f).run w = .ok (.error .chainUnavailable) w := by
  unfold withChain
  rw [run_bind_ok (storageAvailable_run w), hup]
  rfl

theorem bindTrace_run_unbound (hup : w.chainUp = true) (hb : w.chain.trace = none) (t : TraceRef) :
    (bindTrace t).run w = .ok (.ok ()) (w.withLocal w.here (some { w.chain with trace := some t })) := by
  unfold bindTrace
  rw [run_bind_ok (withChain_run _ w hup)]
  simp only [ChainLocal.bindTrace, hb]
  rfl

theorem bindTrace_run_down (hup : w.chainUp = false) (t : TraceRef) :
    (bindTrace t).run w = .ok (.error .chainUnavailable) w := by
  unfold bindTrace
  rw [run_bind_ok (withChain_run_down _ hup)]
  rfl

theorem bindNew_run_unbound (hup : w.chainUp = true) (hb : w.chain.trace = none) (t : TraceRef) :
    (bindNew t).run w = .ok (.ok t) (w.withLocal w.here (some { w.chain with trace := some t })) := by
  unfold bindNew
  rw [run_bind_ok (bindTrace_run_unbound hup hb t)]
  rfl

theorem bindNew_run_down (hup : w.chainUp = false) (t : TraceRef) :
    (bindNew t).run w = .ok (.error .chainUnavailable) w := by
  unfold bindNew
  rw [run_bind_ok (bindTrace_run_down hup t)]
  rfl

theorem settings_run (w : World) : settings.run w = .ok w.settings w := rfl

theorem newTrace_run (v : TraceObj) (w : World) :
    (newTrace v).run w = .ok w.traces.size { w with traces := w.traces.push v } := rfl

theorem newTraceObject_run_unbound (hb : w.boundTrace = none) :
    ∃ u, newTraceObject.run w = (bindNew w.traces.size).run u ∧ u.locals = w.locals ∧
      u.outside = (w.here, w.gone, w.settings, w.rootDraws) ∧
      (u.idOf w.traces.size).map (·.transaction) = w.rootTransaction ∧ u.scopeNames = w.scopeNames ∧
      ∃ o, u.traces = w.traces.push o ∧ o.closed = false ∧ o.branch? = none := by
  unfold newTraceObject
  rw [run_bind_ok (ensureUnbound_run_none hb)]
  dsimp only
  rw [run_bind_ok (isSampled_run w)]
  cases hd : (w.settings.sampler.decide w.sampling).1
  · -- declined: a disabled trace, and nothing drawn
    simp only [Bool.false_eq_true, ↓reduceIte]
    rw [run_bind_ok (newTrace_run _ _)]
    refine ⟨_, rfl, rfl, ?_, ?_, rfl, _, rfl, rfl, rfl⟩
    · simp only [World.outside, World.draws, World.rootDraws, hd, Bool.false_eq_true, ↓reduceIte]
    · simp [World.idOf, World.rootTransaction, hd, TraceObj.span?]
  · -- sampled: the next sequence and a root span id, for a recording trace
    simp only [↓reduceIte]
    rw [run_bind_ok (settings_run _), run_bind_ok (nextSequence_run _)]
    cases hk : w.ids.kind
    · rw [run_bind_ok (newSpanId_run_increment ?_), run_bind_ok (recordingTrace_run _ _)]
      · refine ⟨_, rfl, rfl, ?_, ?_, rfl, _, rfl, rfl, rfl⟩
        · simp only [World.outside, World.draws, World.rootDraws, hd, hk, ↓reduceIte]
        · simp [World.idOf, World.rootTransaction, hd, TraceObj.span?,
            TraceId.root]
      · exact hk
    · obtain ⟨d, hdraw⟩ : ∃ d, w.rand.random = d := ⟨_, rfl⟩
      rw [run_bind_ok (newSpanId_run_random d ?_ ?_), run_bind_ok (recordingTrace_run _ _),
        World.rootDraws_of_random hd hk hdraw]
      · refine ⟨_, rfl, rfl, rfl, ?_, rfl, _, rfl, rfl, rfl⟩
        simp [World.idOf, World.rootTransaction, hd, TraceObj.span?,
          TraceId.root]
      · exact hk
      · exact hdraw

theorem continueTraceObject_run_unbound (hb : w.boundTrace = none) (tid : TraceId) :
    (continueTraceObject tid).run w = (bindNew w.traces.size).run
      { w with
        spans := w.spans.push { traceId := tid, maxEvents := w.settings.maxSpanEvents }
        traces := w.traces.push
          { kind := .recording w.spans.size none { maxDepth := w.settings.maxCallStackDepth } } } := by
  unfold continueTraceObject
  rw [run_bind_ok (ensureUnbound_run_none hb)]
  dsimp only
  rw [run_bind_ok (recordingTrace_run tid w)]

theorem disableSampling_run_unbound (hb : w.boundTrace = none) :
    disableSampling.run w =
      (bindNew w.traces.size).run { w with traces := w.traces.push { kind := .disabled false } } := by
  unfold disableSampling
  rw [run_bind_ok (ensureUnbound_run_none hb)]
  dsimp only
  rw [run_bind_ok (newTrace_run _ w)]

/-- Writing a root record changes spans alone. -/
theorem recordRoot_run (t : TraceRef) (f : RootRecord → RootRecord) (w : World) :
    ∃ sp, (recordRoot t f).run w = .ok () { w with spans := sp } := by
  rcases hk : (w.traces[t]?.getD default).kind with ⟨sp, _ | br, st⟩ | a
  · exact ⟨w.spans.set! sp ((w.spans[sp]?.getD default).updateRoot f),
      by simp [recordRoot, rootSpan?, trace, span, setSpan, hk]⟩
  · exact ⟨w.spans, by simp [recordRoot, rootSpan?, trace, hk]⟩
  · exact ⟨w.spans, by simp [recordRoot, rootSpan?, trace, hk]⟩

theorem traceId?_run (t : TraceRef) (w : World) : (traceId? t).run w = .ok (w.idOf t) w := by
  cases hsp : (w.traces[t]?.getD default).span? with
  | none => rw [traceId?_disabled hsp]; simp [World.idOf, hsp]
  | some sp => rw [traceId?_recording hsp]; simp [World.idOf, hsp]

theorem bindNew_run_beside_up (hs : w.Beside d u) (hup : w.chainUp = true) (hb : w.chain.trace = none)
    (t : TraceRef) :
    (bindNew t).run u = .ok (.ok t) (u.withLocal u.here (some { w.chain with trace := some t })) := by
  rw [bindNew_run_unbound (w := u) (by rw [hs.chainUp, hup]) (by rw [hs.chain, hb]) t, hs.chain]

theorem bindNew_run_beside_down (hs : w.Beside d u) (hup : w.chainUp = false) (t : TraceRef) :
    (bindNew t).run u = .ok (.error .chainUnavailable) u :=
  bindNew_run_down (by rw [hs.chainUp, hup]) t

/-- A bound chain is where every start call stops: the bound check fails, and only the log
changes. -/
theorem newTraceObject_run_bound {t : TraceRef} (hb : w.boundTrace = some t) :
    newTraceObject.run w =
      .ok (.error .alreadyBound) { w with logs := w.logs ++ [LogEvent.err "TraceContext.AlreadyBound"].toArray } := by
  unfold newTraceObject
  rw [run_bind_ok (ensureUnbound_run_some hb)]
  rfl

theorem continueTraceObject_run_bound {t : TraceRef} (hb : w.boundTrace = some t) (tid : TraceId) :
    (continueTraceObject tid).run w =
      .ok (.error .alreadyBound) { w with logs := w.logs ++ [LogEvent.err "TraceContext.AlreadyBound"].toArray } := by
  unfold continueTraceObject
  rw [run_bind_ok (ensureUnbound_run_some hb)]
  rfl

theorem disableSampling_run_bound {t : TraceRef} (hb : w.boundTrace = some t) :
    disableSampling.run w =
      .ok (.error .alreadyBound) { w with logs := w.logs ++ [LogEvent.err "TraceContext.AlreadyBound"].toArray } := by
  unfold disableSampling
  rw [run_bind_ok (ensureUnbound_run_some hb)]
  rfl

/-! ## Start calls -/

/-- The calls that start a trace on the calling chain. -/
inductive StartCall where
  | newTrace
  | continueTrace (tid : TraceId)
  | disableSampling
  | traceFor (remote : RemoteTrace)

namespace StartCall

/-- The call, as the agent runs it. -/
def run : StartCall → Agent (Except TraceError TraceRef)
  | newTrace => newTraceObject
  | continueTrace tid => continueTraceObject tid
  | disableSampling => Agent.disableSampling
  | traceFor r => Agent.traceFor r

/-- Whether the call starts a transaction of its own, and so asks the sampler: a new trace, or
the trace for a caller that sent none. -/
def startsRoot : StartCall → Bool
  | newTrace => true
  | traceFor .absent => true
  | _ => false

/-- The draws a call leaves from an unbound chain of `w`: a root start's, or none. -/
def drawsFrom (c : StartCall) (w : World) : Sampler.State × IdSource × RandomSpans :=
  if c.startsRoot then w.rootDraws else w.draws

theorem run_bound (c : StartCall) {t : TraceRef} (hb : w.boundTrace = some t) :
    c.run.run w =
      .ok (.error .alreadyBound) { w with logs := w.logs ++ [LogEvent.err "TraceContext.AlreadyBound"].toArray } := by
  cases c with
  | newTrace => exact newTraceObject_run_bound hb
  | continueTrace tid => exact continueTraceObject_run_bound hb tid
  | disableSampling => exact disableSampling_run_bound hb
  | traceFor r =>
    cases r with
    | absent => exact newTraceObject_run_bound hb
    | notSampled => exact disableSampling_run_bound hb
    | resume tid app host =>
      show (Agent.traceFor (.resume tid app host)).run w = _
      unfold Agent.traceFor
      rw [run_bind_ok (continueTraceObject_run_bound hb tid)]
      rfl

/-- How a start call ends on a live, unbound chain of `w`: the calling chain bound to the next
trace with its scopes as they were, every other chain as it was, the calling and torn-down threads
and the settings as they were, the call's draws made, and a root start's trace in the transaction
the draws name. -/
structure Started (c : StartCall) (w u : World) : Prop where
  chain : u.chain = { w.chain with trace := some w.traces.size }
  others : ∀ th, th ≠ w.here → localOf u th = localOf w th
  outside : u.outside = (w.here, w.gone, w.settings, c.drawsFrom w)
  root : c.startsRoot → (u.idOf w.traces.size).map (·.transaction) = w.rootTransaction

end StartCall

theorem localOf_eq_of_locals (h : u.locals = w.locals) (th : Thread) : localOf u th = localOf w th := by
  unfold localOf
  rw [h]

/-- A call whose object stage ends beside `w` ends as its bind does: bound on a live chain. -/
theorem started_of_build {k : Agent (Except TraceError TraceRef)} (hs : w.Beside d u)
    (hup : w.chainUp = true) (hb : w.chain.trace = none) (hrun : k.run w = (bindNew w.traces.size).run u) :
    ∃ v, k.run w = .ok (.ok w.traces.size) v ∧ v.chain = { w.chain with trace := some w.traces.size } ∧
      (∀ th, th ≠ w.here → localOf v th = localOf w th) ∧ v.outside = (w.here, w.gone, w.settings, d) ∧
      ∀ t', v.idOf t' = u.idOf t' := by
  rw [hrun, bindNew_run_beside_up hs hup hb]
  obtain ⟨hchain, hothers, houtside, hid⟩ := World.withLocal_bound u w.chain w.traces.size
  refine ⟨_, rfl, hchain, fun th hth => ?_, houtside.trans hs.outside, hid⟩
  rw [hothers th (by rwa [hs.here]), localOf_eq_of_locals hs.locals]

/-- Writing a root record keeps a world as it was but for its spans. -/
theorem recordRoot_runs_spans (v : World) (t : TraceRef) (f : RootRecord → RootRecord) {E : World → Prop} :
    Runs (fun x => ∃ sp, x = { v with spans := sp }) (recordRoot t f)
      (fun _ x => ∃ sp, x = { v with spans := sp }) E := by
  rintro x ⟨sp, rfl⟩
  obtain ⟨sp', h⟩ := recordRoot_run t f { v with spans := sp }
  rw [h]
  exact ⟨sp', rfl⟩

/-- A continued trace, once bound in `v`, writes the caller's application and the host it
addressed into its root record, which changes spans alone. -/
theorem traceFor_resume_runs {tid : TraceId} (app host : Option String) {v : World}
    (hv : (continueTraceObject tid).run w = .ok (.ok w.traces.size) v) :
    Runs (fun x => x = w) (traceFor (.resume tid app host))
      (fun r x => r = .ok w.traces.size ∧ ∃ sp, x = { v with spans := sp }) (fun _ => False) := by
  unfold traceFor
  refine Runs.bind (R := fun r x => r = .ok w.traces.size ∧ x = v) ?_ fun r => ?_
  · intro x hx
    subst hx
    rw [hv]
    exact ⟨rfl, rfl⟩
  refine Runs.of_pre (fun x hx => hx.1) fun hr => ?_
  subst hr
  dsimp only
  refine Runs.mono (P := fun x => ∃ sp, x = { v with spans := sp }) ?_
    (fun x hx => ⟨v.spans, hx.2⟩) (fun _ _ h => h) (fun _ h => h)
  -- the caller's application, then the host it addressed, each written when known
  split
  all_goals
    try refine Runs.bind (recordRoot_runs_spans v _ _) fun _ => ?_
    split
    all_goals
      try refine Runs.bind (recordRoot_runs_spans v _ _) fun _ => ?_
      exact Runs.pure _ fun _ hx => ⟨rfl, hx⟩

namespace StartCall

theorem run_up (c : StartCall) (hup : w.chainUp = true) (hb : w.chain.trace = none) :
    ∃ u, c.run.run w = .ok (.ok w.traces.size) u ∧ c.Started w u := by
  have hb' : w.boundTrace = none := by rw [World.boundTrace_of_up hup, hb]
  -- the calls that bind a new recording or disabled trace and stop there
  have hcontinue (tid : TraceId) := started_of_build (d := w.draws) (by exact ⟨rfl, rfl⟩) hup hb
    (continueTraceObject_run_unbound hb' tid)
  have hdisable := started_of_build (d := w.draws) (by exact ⟨rfl, rfl⟩) hup hb (disableSampling_run_unbound hb')
  have hnew : ∃ u, newTraceObject.run w = .ok (.ok w.traces.size) u ∧ StartCall.newTrace.Started w u := by
    obtain ⟨u, hrun, hl, ho, hid, -⟩ := newTraceObject_run_unbound hb'
    obtain ⟨v, hv, hchain, hothers, hout, hidv⟩ := started_of_build ⟨hl, ho⟩ hup hb hrun
    exact ⟨v, hv, hchain, hothers, hout, fun _ => by rw [hidv]; exact hid⟩
  cases c with
  | newTrace => exact hnew
  | continueTrace tid =>
    obtain ⟨v, hv, hchain, hothers, hout, -⟩ := hcontinue tid
    exact ⟨v, hv, hchain, hothers, hout, fun h => nomatch h⟩
  | disableSampling =>
    obtain ⟨v, hv, hchain, hothers, hout, -⟩ := hdisable
    exact ⟨v, hv, hchain, hothers, hout, fun h => nomatch h⟩
  | traceFor r =>
    cases r with
    | absent =>
      obtain ⟨v, hv, hchain, hothers, hout, hroot⟩ := hnew
      exact ⟨v, hv, hchain, hothers, hout, hroot⟩
    | notSampled =>
      obtain ⟨v, hv, hchain, hothers, hout, -⟩ := hdisable
      exact ⟨v, hv, hchain, hothers, hout, fun h => nomatch h⟩
    | resume tid app host =>
      obtain ⟨v, hv, hchain, hothers, hout, -⟩ := hcontinue tid
      obtain ⟨r, x, hrun, hr, sp, hx⟩ := Runs.exists_ok (traceFor_resume_runs app host hv)
      subst hr hx
      exact ⟨_, hrun, hchain, hothers, hout, fun h => nomatch h⟩

theorem run_down (c : StartCall) (hup : w.chainUp = false) :
    ∃ u, c.run.run w = .ok (.error .chainUnavailable) u ∧ w.Beside (c.drawsFrom w) u := by
  have hb' : w.boundTrace = none := World.boundTrace_of_down hup
  have hnew : ∃ u, newTraceObject.run w = .ok (.error .chainUnavailable) u ∧ w.Beside w.rootDraws u := by
    obtain ⟨u, hrun, hl, ho, -, -⟩ := newTraceObject_run_unbound hb'
    exact ⟨u, hrun.trans (bindNew_run_beside_down ⟨hl, ho⟩ hup _), hl, ho⟩
  have hcontinue (tid : TraceId) : ∃ u, (continueTraceObject tid).run w = .ok (.error .chainUnavailable) u ∧
      w.Beside w.draws u :=
    ⟨_, (continueTraceObject_run_unbound hb' tid).trans (bindNew_run_beside_down (by exact ⟨rfl, rfl⟩) hup _), rfl, rfl⟩
  have hdisable : ∃ u, disableSampling.run w = .ok (.error .chainUnavailable) u ∧ w.Beside w.draws u :=
    ⟨_, (disableSampling_run_unbound hb').trans (bindNew_run_beside_down (by exact ⟨rfl, rfl⟩) hup _), rfl, rfl⟩
  cases c with
  | newTrace => exact hnew
  | continueTrace tid => exact hcontinue tid
  | disableSampling => exact hdisable
  | traceFor r =>
    cases r with
    | absent => exact hnew
    | notSampled => exact hdisable
    | resume tid app host =>
      obtain ⟨u, hu, hs⟩ := hcontinue tid
      refine ⟨u, ?_, hs⟩
      show (Agent.traceFor (.resume tid app host)).run w = _
      unfold Agent.traceFor
      rw [run_bind_ok hu]
      rfl

end StartCall

/-! ## Counting transactions -/

/-- `k` always returns, and leaves the world outside the chain store as it found it. -/
def KeepsOutside {α : Type} (k : Agent α) : Prop :=
  ∀ o, Runs (fun v => v.outside = o) k (fun _ v => v.outside = o) (fun _ => False)

section Outside

variable {α β : Type}

theorem KeepsOutside.bind {k : Agent α} {f : α → Agent β} (hk : KeepsOutside k)
    (hf : ∀ a, KeepsOutside (f a)) : KeepsOutside (k >>= f) :=
  fun o => Runs.bind (hk o) fun a => hf a o

theorem KeepsOutside.pure (a : α) : KeepsOutside (Pure.pure a : Agent α) :=
  fun _ => Runs.pure a fun _ h => h

theorem log_keepsOutside (e : LogEvent) : KeepsOutside (log e) := fun _ _ hv => hv

theorem trace_keepsOutside (t : TraceRef) : KeepsOutside (trace t) := fun _ _ hv => hv

theorem setTrace_keepsOutside (t : TraceRef) (v : TraceObj) : KeepsOutside (setTrace t v) :=
  fun _ _ hv => hv

theorem span_keepsOutside (s : SpanRef) : KeepsOutside (span s) := fun _ _ hv => hv

theorem setSpan_keepsOutside (s : SpanRef) (v : SpanState) : KeepsOutside (setSpan s v) :=
  fun _ _ hv => hv

/-- Work on the calling chain changes the chain store alone. -/
theorem withChain_keepsOutside (f : ChainLocal → α × ChainLocal) : KeepsOutside (withChain f) := by
  intro o
  refine Runs.mono (withChain_runs f) (fun v hv => ?_) (fun _ _ h => h) (fun _ h => h)
  split
  · rw [World.withLocal_eq]
    exact hv
  · exact hv

theorem removeTraceObject_keepsOutside : KeepsOutside removeTraceObject := by
  unfold removeTraceObject
  refine KeepsOutside.bind (withChain_keepsOutside _) fun r => ?_
  split <;> exact KeepsOutside.pure _

theorem discardTrace_keepsOutside (t : TraceRef) : KeepsOutside (discardTrace t) := by
  unfold discardTrace discardTraceObj
  refine KeepsOutside.bind ?_ fun _ => KeepsOutside.bind (withChain_keepsOutside _) fun _ => KeepsOutside.pure _
  refine KeepsOutside.bind (trace_keepsOutside t) fun o => ?_
  split
  · exact setTrace_keepsOutside _ _
  · refine KeepsOutside.bind (setTrace_keepsOutside _ _) fun _ => ?_
    refine KeepsOutside.bind (span_keepsOutside _) fun s => ?_
    refine KeepsOutside.bind (setSpan_keepsOutside _ _) fun _ => ?_
    split
    · exact log_keepsOutside _
    · exact KeepsOutside.pure _

theorem KeepsOutside.run {k : Agent α} (hk : KeepsOutside k) (w : World) :
    ∃ a u, k.run w = .ok a u ∧ u.outside = w.outside :=
  Runs.exists_ok (Runs.from_world (hk w.outside) rfl)

end Outside

/-- What a chain does around its starts: a start call, unbinding its trace, or throwing a trace
away. -/
inductive StartOp where
  | start (c : StartCall)
  | remove
  | discard (t : TraceRef)

/-- Runs one operation, returning the transaction sequence of the sampled root it started, if it
started one. -/
def StartOp.run : StartOp → Agent (Option UInt64)
  | start c => do
    match ← c.run with
    | .ok t => if c.startsRoot then return (← traceId? t).map (·.transaction.sequence) else return none
    | .error _ => return none
  | remove => do
    let _ ← removeTraceObject
    return none
  | discard t => do
    discardTrace t
    return none

/-- Runs the operations in order, each on its thread, and lists the transaction sequences of the
sampled roots they start. -/
def runStarts : List (Thread × StartOp) → Agent (List UInt64)
  | [] => pure []
  | (th, op) :: rest => do
    let s ← onThread th op.run
    let ss ← runStarts rest
    pure (s.toList ++ ss)

/-- The `k` transaction sequences after `s`: `s + 1, s + 2, …, s + k`. -/
def seqsAfter (s : UInt64) : Nat → List UInt64
  | 0 => []
  | k + 1 => (s + 1) :: seqsAfter (s + 1) k

example : seqsAfter 0 3 = [1, 2, 3] := by decide

/-- On a live chain one operation either starts no sampled root and keeps the transaction
counter, or starts one under the next sequence and counts it. Torn-down threads stay as they
were. -/
theorem StartOp.run_counts (op : StartOp) (hup : w.chainUp = true) :
    ∃ s u, op.run.run w = .ok s u ∧ u.gone = w.gone ∧
      (s = none ∧ u.ids.sequence = w.ids.sequence ∨
        s = some (w.ids.sequence + 1) ∧ u.ids.sequence = w.ids.sequence + 1) := by
  cases op with
  | start c =>
    unfold StartOp.run
    cases hbt : w.chain.trace with
    | some t =>
      -- a bound chain: the call fails and only logs
      have hb : w.boundTrace = some t := by rw [World.boundTrace_of_up hup, hbt]
      rw [run_bind_ok (c.run_bound hb)]
      exact ⟨none, _, rfl, rfl, Or.inl ⟨rfl, rfl⟩⟩
    | none =>
      obtain ⟨u, hu, hs⟩ := c.run_up hup hbt
      have hgone : u.gone = w.gone := World.gone_of_outside hs.outside
      have hids : u.ids = (c.drawsFrom w).2.1 := World.ids_of_outside hs.outside
      rw [run_bind_ok hu]
      dsimp only
      cases hr : c.startsRoot
      · -- no root start: the counter stays
        simp only [Bool.false_eq_true, ↓reduceIte]
        refine ⟨none, u, rfl, hgone, Or.inl ⟨rfl, ?_⟩⟩
        simp [hids, StartCall.drawsFrom, hr, World.draws]
      · -- a root start: the sequence its trace records under is the one it counts
        simp only [↓reduceIte]
        rw [run_bind_ok (traceId?_run _ _)]
        have hseq : u.ids.sequence = w.rootDraws.2.1.sequence := by
          simp [hids, StartCall.drawsFrom, hr]
        have hmap : (u.idOf w.traces.size).map (·.transaction.sequence) = w.rootTransaction.map (·.sequence) := by
          rw [← hs.root hr, Option.map_map]
          rfl
        rw [World.rootDraws_sequence] at hseq
        rw [World.rootTransaction_sequence] at hmap
        refine ⟨_, u, rfl, hgone, ?_⟩
        cases hd : (w.settings.sampler.decide w.sampling).1
        · simp only [hd, Bool.false_eq_true, ↓reduceIte] at hseq hmap
          exact Or.inl ⟨hmap, hseq⟩
        · simp only [hd, ↓reduceIte] at hseq hmap
          exact Or.inr ⟨hmap, hseq⟩
  | remove =>
    obtain ⟨r, u, hu, hout⟩ := removeTraceObject_keepsOutside.run w
    unfold StartOp.run
    rw [run_bind_ok hu]
    exact ⟨none, u, rfl, World.gone_of_outside hout, Or.inl ⟨rfl, by rw [World.ids_of_outside hout]; rfl⟩⟩
  | discard t =>
    obtain ⟨r, u, hu, hout⟩ := (discardTrace_keepsOutside t).run w
    unfold StartOp.run
    rw [run_bind_ok hu]
    exact ⟨none, u, rfl, World.gone_of_outside hout, Or.inl ⟨rfl, by rw [World.ids_of_outside hout]; rfl⟩⟩

theorem onThread_run_ok {α : Type} {k : Agent α} {a : α} {u : World} (th : Thread)
    (h : k.run { w with here := th } = .ok a u) : (onThread th k).run w = .ok a { u with here := w.here } := by
  unfold onThread
  rw [run_bind_ok (get_run w)]
  refine (run_bind_ok (rfl : (modify fun v => { v with here := th } : Agent Unit).run w = _)).trans ?_
  refine run_tryCatch_ok ?_
  rw [run_bind_ok h]
  rfl

/-- With no chain torn down, the operations start sampled roots under consecutive sequences,
counting on from the transaction counter, and the counter ends on the last of them. -/
theorem runStarts_counts (ops : List (Thread × StartOp)) (hg : w.gone = []) :
    ∃ xs u, (runStarts ops).run w = .ok xs u ∧ u.gone = [] ∧ xs = seqsAfter w.ids.sequence xs.length ∧
      u.ids.sequence = w.ids.sequence + UInt64.ofNat xs.length := by
  induction ops generalizing w with
  | nil => exact ⟨[], w, rfl, hg, rfl, by simp⟩
  | cons p rest ih =>
    obtain ⟨th, op⟩ := p
    -- one operation on its thread, which is live as no thread is torn down
    have hup : ({ w with here := th } : World).chainUp = true := by simp [World.chainUp, hg]
    obtain ⟨s, u, hu, hgu, hcount⟩ := op.run_counts hup
    have hgone : ({ u with here := w.here } : World).gone = [] := hgu.trans hg
    obtain ⟨ss, v, hv, hgv, hss, hseq⟩ := ih hgone
    refine ⟨s.toList ++ ss, v, ?_, hgv, ?_⟩
    · show (onThread th op.run >>= fun s => runStarts rest >>= fun ss => pure (s.toList ++ ss)).run w = _
      rw [run_bind_ok (onThread_run_ok th hu), run_bind_ok hv]
      rfl
    · rcases hcount with ⟨rfl, hn⟩ | ⟨rfl, hn⟩
      · -- no sampled root: the rest counts on from the same sequence
        have hn' : ({ u with here := w.here } : World).ids.sequence = w.ids.sequence := hn
        rw [hn'] at hss hseq
        exact ⟨hss, hseq⟩
      · -- a sampled root under the next sequence, and the rest counts on from it
        have hn' : ({ u with here := w.here } : World).ids.sequence = w.ids.sequence + 1 := hn
        rw [hn'] at hss hseq
        simp only [Option.toList_some, List.singleton_append, List.length_cons, seqsAfter]
        refine ⟨congrArg _ hss, ?_⟩
        rw [hseq, UInt64.ofNat_add]
        grind

end Agent
end TraceAgent
