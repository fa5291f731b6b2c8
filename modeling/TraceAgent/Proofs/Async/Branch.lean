import Mathlib
import TraceAgent.Proofs.Async.EndPoints

/-!
# The end points of one chain on one branch

An unbound chain runs a well-nested sequence of end-point pairs on one async context: an outermost
`before`, the pairs nested in it, and the outermost `after`. The nesting depth a sequence of hooks
reaches is `Hook.nest`; `none` marks an `after` that would close the outermost pair early.

* Once the outermost `before` has resumed a branch, the chain stays on it (`Nested`): the branch is
  bound, its trace scope and its stack are as deep as the hooks nest, and the context is as the
  resume left it. Each nested `before` opens one frame and each nested `after` seals one
  (`Nested.before`, `Nested.after`, `Nested.run`); the outermost `after` unbinds the branch,
  closes it and reports it finished (`Nested.finish`).
* A resume that fails from an unbound chain fails for a reason that stays, the chain's storage
  torn down or the span closed to the context, so every later hook finds no branch and the run
  changes no span and no hold (`Stuck`, `Stuck.run`).

Main statement: `end_point_pairs_resume_once`.
-/

namespace TraceAgent

namespace Hook

/-- The nesting depth after the hooks, from depth `d`: each `before` one deeper, each `after` one
up; `none` once an `after` would close depth one, which only the outermost pair may. -/
def nest : Nat → List Hook → Option Nat
  | d, [] => some d
  | d, before _ :: hs => nest (d + 1) hs
  | d + 2, after _ :: hs => nest (d + 1) hs
  | _, after _ :: _ => none

end Hook

/-- The hooks one chain runs on an async context: an outermost `before`, the pairs nested in it,
and the outermost `after`. -/
structure Script where
  first : EndPoint
  body : List Hook
  last : EndPoint
  nested : Hook.nest 1 body = some 1

namespace Script

def hooks (s : Script) : List Hook := .before s.first :: s.body ++ [.after s.last]

/-- Every end point of the script resumes the context `a` and starts no hand-off. -/
def Of (a : AsyncRef) (s : Script) : Prop := ∀ x ∈ s.hooks, x.endPoint.Of a

theorem Of.first {a : AsyncRef} {s : Script} (h : s.Of a) : s.first.Of a := h (.before s.first) List.mem_cons_self

theorem Of.last {a : AsyncRef} {s : Script} (h : s.Of a) : s.last.Of a := h (.after s.last) (by simp [hooks])

theorem Of.body {a : AsyncRef} {s : Script} (h : s.Of a) : ∀ x ∈ s.body, x.endPoint.Of a :=
  fun x hx => h x (by simp [hooks, hx])

end Script

namespace Agent

section Nested

variable {a : AsyncRef} {sp : SpanRef} {tid : TraceId} {aid : AsyncId} {n : UInt32} {hs : Holds} {refs : Nat}
  {t : TraceRef} {br : LocalAsyncId} {m d : Nat} {v : World} {e : EndPoint}

/-- The calling chain is bound to the branch `t` of the context `a`, nested `d` deep: the branch's
scope and its stack are both `d` deep, and the context is `A`. -/
structure Nested (a : AsyncRef) (A : AsyncObj) (t : TraceRef) (sp : SpanRef) (br : LocalAsyncId) (m d : Nat)
    (v : World) : Prop where
  bound : v.boundTrace = some t
  context : v.asyncs[a]? = some A
  tracks : ∃ o q st, Tracks t o sp (some br) m v q st ∧ o.scopeDepth asyncScopeName = d ∧ q.stack.length = d

/-- A nested `before` resumes the bound branch and opens one more frame on it. -/
theorem Nested.before (h : Nested a ⟨.recording sp tid aid n hs, refs⟩ t sp br m d v) (he : e.Of a) :
    ∃ v', (Hook.before e).dispatch.run v = .ok () v' ∧ Nested a ⟨.recording sp tid aid n hs, refs⟩ t sp br m (d + 1) v' := by
  obtain ⟨o, q, st, ht, hsd, hlen⟩ := h.tracks
  obtain ⟨_, v', hrun, ws, st', ht', hb', -⟩ := Runs.exists_ok
    (before_runs_resumed (E := fun _ => False) he (continueAsync_run_own h.context h.bound ht.trace) ht)
  refine ⟨v', hrun, (World.boundTrace_eq_of_besides hb').trans h.bound,
    (World.asyncs_eq_of_besides hb') ▸ h.context, _, _, st', ht', ?_, ?_⟩
  · rw [TraceObj.scopeDepth_enterScope, hsd]
  · rw [FrameMachine.run_opening, List.length_cons, hlen]

/-- An `after` below the outermost one seals the top frame of the bound branch, which stays bound. -/
theorem Nested.after (h : Nested a ⟨.recording sp tid aid n hs, refs⟩ t sp br m (d + 2) v) (he : e.Of a) :
    ∃ v', (Hook.after e).dispatch.run v = .ok () v' ∧ Nested a ⟨.recording sp tid aid n hs, refs⟩ t sp br m (d + 1) v' := by
  obtain ⟨o, ⟨stack, s⟩, st, ht, hsd, hlen⟩ := h.tracks
  cases stack with
  | nil => simp at hlen
  | cons x L =>
    obtain ⟨v', ws, hrun, st', ht', hb', -⟩ :=
      after_run_nested he h.context h.bound ht (by omega) (List.cons_ne_nil x L)
    refine ⟨v', hrun, (World.boundTrace_eq_of_besides hb').trans h.bound,
      (World.asyncs_eq_of_besides hb') ▸ h.context, _, _, st', ht', ?_, ?_⟩
    · rw [TraceObj.scopeDepth_leaveScope, hsd]
      rfl
    · rw [FrameMachine.run_sealing]
      simpa using hlen

/-- The hooks nested in the outermost pair keep the chain on its branch, at the depth their
nesting says. -/
theorem Nested.run {hooks : List Hook} {d' : Nat} (hn : Hook.nest d hooks = some d')
    (he : ∀ x ∈ hooks, x.endPoint.Of a) (h : Nested a ⟨.recording sp tid aid n hs, refs⟩ t sp br m d v) :
    ∃ v', (hooks.forM Hook.dispatch).run v = .ok () v' ∧ Nested a ⟨.recording sp tid aid n hs, refs⟩ t sp br m d' v' := by
  induction hooks generalizing d v with
  | nil =>
    obtain rfl : d = d' := by simpa [Hook.nest] using hn
    exact ⟨v, rfl, h⟩
  | cons x rest ih =>
    have hrest : ∀ y ∈ rest, y.endPoint.Of a := fun y hy => he y (List.mem_cons_of_mem _ hy)
    cases x with
    | before e =>
      obtain ⟨v₁, hrun₁, h₁⟩ := h.before (e := e) (he _ List.mem_cons_self)
      obtain ⟨v₂, hrun₂, h₂⟩ := ih hn hrest h₁
      refine ⟨v₂, ?_, h₂⟩
      exact (run_bind_ok hrun₁).trans hrun₂
    | after e =>
      rcases d with _ | _ | k
      · simp [Hook.nest] at hn
      · simp [Hook.nest] at hn
      · obtain ⟨v₁, hrun₁, h₁⟩ := h.after (e := e) (he _ List.mem_cons_self)
        obtain ⟨v₂, hrun₂, h₂⟩ := ih hn hrest h₁
        refine ⟨v₂, ?_, h₂⟩
        exact (run_bind_ok hrun₁).trans hrun₂

/-- The outermost `before`, on an unbound live chain whose resume takes a hold on the span, binds a
fresh branch to the chain and opens its first frame. -/
theorem before_run_fresh (he : e.Of a) (hc : v.asyncs[a]? = some ⟨.recording sp tid aid n hs, refs⟩)
    (hup : v.chainUp = true) (hb : v.chain.trace = none) (hreach : (spanReachable sp).run v = .ok true v)
    {S : SpanState} (hacq : (v.spans[sp]?.getD default).acquire = some S) (hsp : sp < v.spans.size) :
    ∃ v', (Hook.before e).dispatch.run v = .ok () v' ∧
      Nested a ⟨.recording sp tid aid (n + 1) hs.start, refs⟩ v.traces.size sp ⟨aid, n + 1⟩
        v.settings.maxCallStackDepth 1 v' := by
  have hk := continueAsync_run_fresh hc hup hb hreach hacq
  have ha : a < v.asyncs.size := (Array.getElem?_eq_some_iff.1 hc).1
  have ht : Tracks v.traces.size (branchTrace sp aid (n + 1) v) sp (some ⟨aid, n + 1⟩)
      v.settings.maxCallStackDepth (({ v with
        spans := v.spans.set! sp S
        asyncs := v.asyncs.set! a ⟨.recording sp tid aid (n + 1) hs.start, refs⟩
        traces := v.traces.push (branchTrace sp aid (n + 1) v) } : World).withLocal v.here
          (some { v.chain with trace := some v.traces.size })) ⟨[], S⟩
      { maxDepth := v.settings.maxCallStackDepth } :=
    Tracks.fresh (by simp [branchTrace]) rfl (by simp [hsp])
  obtain ⟨_, v', hrun, ws, st', ht', hb', -⟩ := Runs.exists_ok (before_runs_resumed (E := fun _ => False) he hk ht)
  refine ⟨v', hrun, ?_, ?_, _, _, st', ht', ?_, ?_⟩
  · rw [World.boundTrace_eq_of_besides hb']
    exact World.boundTrace_withLocal_here _ _ hup
  · rw [World.asyncs_eq_of_besides hb']
    simp [ha]
  · rw [TraceObj.scopeDepth_enterScope]
    rfl
  · rw [FrameMachine.run_opening]
    rfl

/-- The outermost `after` unbinds the branch from the chain, closes it with no frame left open and
its scope back at depth zero, and reports it finished to the context once. -/
theorem Nested.finish (h : Nested a ⟨.recording sp tid aid n hs, refs⟩ t sp br m 1 v) (he : e.Of a)
    (hlt : hs.finished < hs.started) :
    ∃ v', (Hook.after e).dispatch.run v = .ok () v' ∧ v'.boundTrace = none ∧
      (∃ (o : TraceObj) (st : CallStack), v'.traces[t]? = some { o with closed := true, kind := .recording sp (some br) st } ∧
        st.depth = 0 ∧ o.scopeDepth asyncScopeName = 0) ∧
      v'.asyncs[a]? = some ⟨.recording sp tid aid n hs.finish, refs⟩ := by
  obtain ⟨o, ⟨stack, s⟩, st, ht, hsd, hlen⟩ := h.tracks
  have ha : a < v.asyncs.size := (Array.getElem?_eq_some_iff.1 h.context).1
  cases stack with
  | nil => simp at hlen
  | cons x L =>
    obtain ⟨u, ws, st', hrun, htr, hview, -, hbes, -⟩ :=
      after_run_outermost he h.context h.bound ht hsd (List.cons_ne_nil x L) hlt
    have hkb := (dispatched_giveBack (beside_besides t).toQuiet (fun _ _ => rfl) hs sp u).trans hbes
    have hkt := dispatched_giveBack quiet_traces (fun _ _ => rfl) hs sp u
    refine ⟨_, hrun, ?_, ⟨o.leaveScope asyncScopeName, st', ?_, ?_, ?_⟩, ?_⟩
    · rw [World.boundTrace_eq_of_besides hkb]
      exact World.boundTrace_unbound v
    · rw [hkt]
      exact htr
    · rw [← CallStack.length_view, hview]
      rfl
    · rw [TraceObj.scopeDepth_leaveScope, hsd]
    · rw [World.asyncs_eq_of_besides hkb]
      simp [ha]

/-- The resume of a context from an unbound chain found the span closed to it or the chain torn
down, so it leaves no branch: a live chain then went through the checks that bind one. -/
theorem fresh_of_resumed (hc : v.asyncs[a]? = some ⟨.recording sp tid aid n hs, refs⟩) (hb : v.boundTrace = none)
    {v₁ : World} (hk : (continueAsync a).run v = .ok (some t) v₁) :
    v.chainUp = true ∧ v.chain.trace = none ∧ (spanReachable sp).run v = .ok true v ∧
      (∃ S, (v.spans[sp]?.getD default).acquire = some S) ∧ t = v.traces.size := by
  rcases continueAsync_run_unbound hc hb with hclosed | ⟨hreach, S, hacq⟩
  · rw [hclosed] at hk
    cases hk
  cases hup : v.chainUp with
  | false =>
    rw [continueAsync_run_unbindable hc hup hreach hacq, EStateM.run_bind] at hk
    -- a failed bind gives nothing back
    cases hrel : (releaseSpan sp).run _ <;> rw [hrel] at hk <;> cases hk
  | true =>
    have hnone : v.chain.trace = none := by rwa [World.boundTrace_of_up hup] at hb
    rw [continueAsync_run_fresh hc hup hnone hreach hacq] at hk
    cases hk
    exact ⟨rfl, hnone, hreach, ⟨S, hacq⟩, rfl⟩

end Nested

section Stuck

variable {a : AsyncRef} {sp : SpanRef} {tid : TraceId} {aid : AsyncId} {n : UInt32} {hs : Holds} {refs : Nat}
  {w₀ v : World} {e : EndPoint}

/-- A resume of the context from `v` fails, and goes on failing: the chain's storage is torn down,
or `v` is `w₀` but for the logs and in `w₀` the span is out of reach or takes no more holds. -/
def ResumeFails (w₀ : World) (sp : SpanRef) (v : World) : Prop :=
  v.chainUp = false ∨ (∃ L, v = { w₀ with logs := L }) ∧
    ((spanReachable sp).run w₀ = .ok false w₀ ∨ (w₀.spans[sp]?.getD default).acquire = none)

/-- Since `w₀` the chain stayed unbound with the resume failing, nothing was recorded, and the
context's holds are as they were. -/
structure Stuck (w₀ : World) (a : AsyncRef) (sp : SpanRef) (tid : TraceId) (aid : AsyncId) (hs : Holds)
    (refs : Nat) (v : World) : Prop where
  unbound : v.boundTrace = none
  spans : v.spans = w₀.spans
  pipeline : v.pipeline = w₀.pipeline
  context : ∃ n', v.asyncs[a]? = some ⟨.recording sp tid aid n' hs, refs⟩
  fails : ResumeFails w₀ sp v

theorem spanReachable_run_logs {w : World} {b : Bool} (h : (spanReachable sp).run w = .ok b w) (L : Array LogEvent) :
    (spanReachable sp).run { w with logs := L } = .ok b { w with logs := L } := by
  obtain ⟨c, hc, hc'⟩ : ∃ c, (spanReachable sp).run w = .ok c w ∧
      (spanReachable sp).run { w with logs := L } = .ok c { w with logs := L } := ⟨_, rfl, rfl⟩
  rw [hc] at h
  cases h
  exact hc'

/-- A resume that gives no branch back from an unbound chain fails for a reason that stays. -/
theorem resumeFails_of_none (hc : w₀.asyncs[a]? = some ⟨.recording sp tid aid n hs, refs⟩)
    (hb : w₀.boundTrace = none) {w₁ : World} (hk : (continueAsync a).run w₀ = .ok none w₁) :
    ResumeFails w₀ sp w₀ := by
  cases hup : w₀.chainUp
  · exact .inl hup
  refine .inr ⟨⟨w₀.logs, rfl⟩, ?_⟩
  obtain ⟨b, hreach⟩ : ∃ b, (spanReachable sp).run w₀ = .ok b w₀ := ⟨_, rfl⟩
  cases b
  · exact .inl hreach
  cases hacq : (w₀.spans[sp]?.getD default).acquire with
  | none => exact .inr rfl
  | some S =>
    have hnone : w₀.chain.trace = none := by rwa [World.boundTrace_of_up hup] at hb
    rw [continueAsync_run_fresh hc hup hnone hreach hacq] at hk
    cases hk

theorem Stuck.before (h : Stuck w₀ a sp tid aid hs refs v) (hsp : sp < w₀.spans.size)
    (hpin : hs.pinned = !hs.settled) (he : e.Of a) :
    ∃ v', (Hook.before e).dispatch.run v = .ok () v' ∧ Stuck w₀ a sp tid aid hs refs v' := by
  obtain ⟨n', hc⟩ := h.context
  have ha : a < v.asyncs.size := (Array.getElem?_eq_some_iff.1 hc).1
  -- the resume gives nothing back, and the reason it fails stays
  obtain ⟨v₁, hk, h₁⟩ : ∃ v₁, (continueAsync a).run v = .ok none v₁ ∧ Stuck w₀ a sp tid aid hs refs v₁ := by
    rcases h.fails with hdown | ⟨⟨L, rfl⟩, hreason⟩
    · rcases continueAsync_run_cases hc (h.spans ▸ hsp) hpin with ⟨t, hb, -⟩ | ⟨_, hrun⟩ | ⟨hup, -⟩ | hrun
      · rw [h.unbound] at hb
        cases hb
      · exact ⟨_, hrun, h.unbound, h.spans, h.pipeline, ⟨n', hc⟩, .inl hdown⟩
      · rw [hup] at hdown
        cases hdown
      · refine ⟨_, hrun, World.boundTrace_of_down hdown, h.spans, h.pipeline, ⟨n' + 1, by simp [ha]⟩, .inl hdown⟩
    · obtain ⟨b, hreach, hfail⟩ : ∃ b, (spanReachable sp).run { w₀ with logs := L } = .ok b { w₀ with logs := L } ∧
          (b = false ∨ (w₀.spans[sp]?.getD default).acquire = none) := by
        rcases hreason with hr | hacq
        · exact ⟨false, spanReachable_run_logs hr L, .inl rfl⟩
        · exact ⟨_, rfl, .inr hacq⟩
      exact ⟨_, continueAsync_run_closed hc h.unbound hreach hfail, h.unbound, h.spans, h.pipeline, ⟨n', hc⟩,
        .inr ⟨⟨_, rfl⟩, hreason⟩⟩
  refine ⟨v₁, dispatch_run_ok ?_, h₁⟩
  simp only [EndPoint.interceptor, hookBefore, he.context]
  rw [run_bind_ok hk]
  rfl

theorem Stuck.after (h : Stuck w₀ a sp tid aid hs refs v) (he : e.Of a) :
    (Hook.after e).dispatch.run v = .ok () v := by
  refine dispatch_run_ok ?_
  simp only [EndPoint.interceptor, hookAfter, he.context]
  rw [run_bind_ok (currentAsync_run_unbound h.unbound)]
  rfl

/-- Once the outermost resume failed, every later hook finds no branch: the chain stays unbound,
nothing is recorded and no hold changes. -/
theorem Stuck.run {hooks : List Hook} (h : Stuck w₀ a sp tid aid hs refs v) (hsp : sp < w₀.spans.size)
    (hpin : hs.pinned = !hs.settled) (he : ∀ x ∈ hooks, x.endPoint.Of a) :
    ∃ v', (hooks.forM Hook.dispatch).run v = .ok () v' ∧ Stuck w₀ a sp tid aid hs refs v' := by
  induction hooks generalizing v with
  | nil => exact ⟨v, rfl, h⟩
  | cons x rest ih =>
    have hrest : ∀ y ∈ rest, y.endPoint.Of a := fun y hy => he y (List.mem_cons_of_mem _ hy)
    cases x with
    | before e =>
      obtain ⟨v₁, hrun₁, h₁⟩ := h.before hsp hpin (e := e) (he _ List.mem_cons_self)
      obtain ⟨v₂, hrun₂, h₂⟩ := ih h₁ hrest
      exact ⟨v₂, (run_bind_ok hrun₁).trans hrun₂, h₂⟩
    | after e =>
      obtain ⟨v₂, hrun₂, h₂⟩ := ih h hrest
      exact ⟨v₂, (run_bind_ok (h.after (e := e) (he _ List.mem_cons_self))).trans hrun₂, h₂⟩

end Stuck

/-- A script of hooks runs its prefix, then the rest. -/
theorem forM_run_append (xs ys : List Hook) (w : World) :
    ((xs ++ ys).forM Hook.dispatch).run w = ((do xs.forM Hook.dispatch; ys.forM Hook.dispatch) : Agent Unit).run w := by
  simp

section Lifecycle

variable {a : AsyncRef} {sp : SpanRef} {tid : TraceId} {aid : AsyncId} {n : UInt32} {hs : Holds} {refs : Nat}
  {w : World} {s : Script}

/-- The end points of one chain on one async context. Take an unbound chain, and a well-nested
run `s` of `before`/`after` pairs of end points whose handlers yield the same recording context
`a` and start no hand-off: an outermost `before`, the pairs nested in it, and its `after`.

When the outermost `before` resumes a branch `t` of `a`, the branch stays bound through the
nested pairs, each of which opens and seals one frame on it: after any prefix of the nested hooks
the branch's scope and its stack are as deep as the prefix nests, the branch is open, and the
context counts the one branch started and none finished. The outermost `after`, and no inner one,
unbinds the branch, closes it, and reports it finished to the context exactly once: the chain is
unbound, the branch is closed with no frame open and its scope at depth zero, and the context
counts one branch started and one finished.

When the outermost resume fails, nothing is recorded and no hold changes: the whole run leaves
the chain unbound, the spans and the pipeline as they were, and the context's holds as they
were. -/
theorem end_point_pairs_resume_once
    (hc : w.asyncs[a]? = some ⟨.recording sp tid aid n hs, refs⟩) (hb : w.boundTrace = none)
    (hsp : sp < w.spans.size) (hpin : hs.pinned = !hs.settled) (hfin : hs.finished ≤ hs.started)
    (he : s.Of a) :
    (∀ t w₁, (continueAsync a).run w = .ok (some t) w₁ →
      (∀ pre suf d, s.body = pre ++ suf → Hook.nest 1 pre = some d →
        ∃ v, ((Hook.before s.first :: pre).forM Hook.dispatch).run w = .ok () v ∧ v.boundTrace = some t ∧
          (∃ (o : TraceObj) (st : CallStack),
            v.traces[t]? = some { o with kind := .recording sp (some ⟨aid, n + 1⟩) st } ∧
            o.closed = false ∧ o.scopeDepth asyncScopeName = d ∧ st.depth = d) ∧
          v.asyncs[a]? = some ⟨.recording sp tid aid (n + 1) hs.start, refs⟩) ∧
      ∃ v, (s.hooks.forM Hook.dispatch).run w = .ok () v ∧
        v.boundTrace = none ∧
        (∃ (o : TraceObj) (st : CallStack),
          v.traces[t]? = some { o with closed := true, kind := .recording sp (some ⟨aid, n + 1⟩) st } ∧
          st.depth = 0 ∧ o.scopeDepth asyncScopeName = 0) ∧
        v.asyncs[a]? = some ⟨.recording sp tid aid (n + 1) hs.start.finish, refs⟩) ∧
    (∀ w₁, (continueAsync a).run w = .ok none w₁ →
      ∃ v, (s.hooks.forM Hook.dispatch).run w = .ok () v ∧
        v.boundTrace = none ∧ v.spans = w.spans ∧ v.pipeline = w.pipeline ∧
        ∃ n', v.asyncs[a]? = some ⟨.recording sp tid aid n' hs, refs⟩) := by
  refine ⟨fun t w₁ hk => ?_, fun w₁ hk => ?_⟩
  · obtain ⟨hup, hnone, hreach, ⟨S, hacq⟩, rfl⟩ := fresh_of_resumed hc hb hk
    obtain ⟨v₁, hrun₁, h₁⟩ := before_run_fresh he.first hc hup hnone hreach hacq hsp
    -- after the outermost `before` and a prefix of the nested hooks, the chain is on the branch
    have hstays : ∀ pre d, (∀ x ∈ pre, x.endPoint.Of a) → Hook.nest 1 pre = some d →
        ∃ v, ((Hook.before s.first :: pre).forM Hook.dispatch).run w = .ok () v ∧
          Nested a ⟨.recording sp tid aid (n + 1) hs.start, refs⟩ w.traces.size sp ⟨aid, n + 1⟩
            w.settings.maxCallStackDepth d v := fun pre d hpre hn => by
      obtain ⟨v, hrun, hv⟩ := h₁.run hn hpre
      exact ⟨v, (run_bind_ok hrun₁).trans hrun, hv⟩
    refine ⟨fun pre suf d hsplit hn => ?_, ?_⟩
    · obtain ⟨v, hrun, hv⟩ := hstays pre d (fun x hx => he.body x (hsplit ▸ List.mem_append_left _ hx)) hn
      obtain ⟨o, q, st, ht, hsd, hlen⟩ := hv.tracks
      exact ⟨v, hrun, hv.bound, ⟨o, st, ht.trace, ht.notClosed, hsd, ht.length_stack ▸ hlen⟩, hv.context⟩
    · obtain ⟨v, hrun, hv⟩ := hstays s.body 1 he.body s.nested
      have hlt : hs.start.finished < hs.start.started := by
        simp only [Holds.start]
        omega
      obtain ⟨v', hrun', hb', hclosed, hasync⟩ := hv.finish he.last hlt
      refine ⟨v', ?_, hb', hclosed, hasync⟩
      rw [Script.hooks, forM_run_append, run_bind_ok hrun]
      simpa using hrun'
  · have hstuck : Stuck w a sp tid aid hs refs w :=
      ⟨hb, rfl, rfl, ⟨n, hc⟩, resumeFails_of_none hc hb hk⟩
    obtain ⟨v, hrun, hv⟩ := hstuck.run hsp hpin he
    exact ⟨v, hrun, hv.unbound, hv.spans, hv.pipeline, hv.context⟩

end Lifecycle

end Agent

end TraceAgent
