import Mathlib
import TraceAgent.Proofs.Async.FanIn

/-!
# Joining branches: the span of a fan-in ships once

Chains resume branches of one fresh recording async context and run their scripts of end points,
interleaved so that every outermost `before` comes ahead of every outermost `after`. The fan-in
state `FanIn.Fan` is kept by each hook; this module runs whole schedules through it.

* `Fan.run_open`: hooks that finish no chain, while none finished, move each chain on by its own
  hooks.
* `Fan.run_close`: once every chain resumed, the rest of the schedule runs to its end; the last
  chain to finish hands the span over, and no earlier prefix touches the pipeline.
* `FanIn.exports_once`: the two together from the fresh context: the span goes to the pipeline
  exactly once, at the schedule's last hook, with the frames it had and then the branches' frames
  up to its capacity; the `i`-th chain to resume numbers its frames `⟨a, i + 1⟩`, and it sealed as
  many as its script records.

Main statement: `async_end_points_pair_and_join`, which puts one chain's pairs
(`end_point_pairs_resume_once`), the fan-in and the stamp of the hand-off id together.
-/

namespace TraceAgent

namespace FanIn

variable {F : FanIn}

section Fan

variable {P₀ : Pipeline FinishedSpan} {S₀ : SpanState} {past₀ : List SpanEvent} {pos : Thread → Nat}
  {order fin : List Thread} {sealed : List SpanEvent} {S : SpanState} {v : World}

/-- Hooks that finish no chain, run while no chain finished: the fan-in goes on, each chain as many
hooks further as it ran. -/
theorem Fan.run_open {xs : List (Thread × Hook)} {pos : Thread → Nat} {order : List Thread}
    {sealed : List SpanEvent} {S : SpanState} {v : World} (h : F.Fan P₀ S₀ past₀ pos order [] sealed S v)
    (hxs : ∀ p ∈ xs, p.1 ∈ F.threads)
    (hleft : ∀ th ∈ F.threads, ∃ r, r ≠ [] ∧ (F.script th).hooks.drop (pos th) = Hook.chainOf xs th ++ r) :
    ∃ order' sealed' S' v', (Hook.runOn xs).run v = .ok () v' ∧
      F.Fan P₀ S₀ past₀ (fun th => pos th + (Hook.chainOf xs th).length) order' [] sealed' S' v' := by
  induction xs generalizing pos order sealed S v with
  | nil => exact ⟨order, sealed, S, v, rfl, by simpa using h⟩
  | cons p rest ih =>
    obtain ⟨th, x⟩ := p
    have hth : th ∈ F.threads := hxs _ List.mem_cons_self
    obtain ⟨r, hr, hdrop⟩ := hleft th hth
    rw [Hook.chainOf_cons_self, List.cons_append] at hdrop
    have hnext := (Hook.next_of_drop hdrop).1
    -- the rest of the chain's hooks follow this one, so it is not the chain's last
    have hnotlast : pos th ≠ (F.script th).body.length + 1 := fun hl => by
      have hlen := congrArg List.length hdrop
      rw [List.length_drop, Script.length_hooks, hl, List.length_cons, List.length_append] at hlen
      have := List.length_pos_of_ne_nil hr
      omega
    obtain ⟨order', fin', sealed', S', v', hrun, hf, -, hfin⟩ :=
      h.step hth hnext (fun _ => rfl) (fun hl => absurd hl hnotlast)
    rw [if_neg hnotlast] at hfin
    subst hfin
    have hleft' : ∀ th' ∈ F.threads, ∃ r, r ≠ [] ∧
        (F.script th').hooks.drop (Function.update pos th (pos th + 1) th') = Hook.chainOf rest th' ++ r := by
      intro th' hth'
      obtain ⟨r', hr', hdrop'⟩ := hleft th' hth'
      exact ⟨r', hr', Hook.drop_update hdrop'⟩
    obtain ⟨order'', sealed'', S'', v'', hrun', hf'⟩ := ih hf (fun q hq => hxs q (List.mem_cons_of_mem _ hq)) hleft'
    -- each chain ran as many hooks as the schedule gives it
    have hpos : (fun th' => Function.update pos th (pos th + 1) th' + (Hook.chainOf rest th').length) =
        fun th' => pos th' + (Hook.chainOf ((th, x) :: rest) th').length := by
      funext th'
      rcases eq_or_ne th' th with rfl | hne
      · rw [Function.update_self, Hook.chainOf_cons_self, List.length_cons]
        omega
      · rw [Function.update_of_ne hne, Hook.chainOf_cons_ne _ _ hne]
    rw [hpos] at hf'
    exact ⟨order'', sealed'', S'', v'', by rw [Hook.runOn_cons, Agent.run_bind_ok hrun]; exact hrun', hf'⟩

theorem Fan.pos_le (h : F.Fan P₀ S₀ past₀ pos order fin sealed S v) {th : Thread} (hth : th ∈ F.threads) :
    pos th ≤ (F.script th).hooks.length := by
  have hc := h.chains th hth
  rw [Script.length_hooks]
  generalize pos th = n at hc
  cases hc with
  | idle => omega
  | inside hb => have := hb.upTo; omega
  | done => omega

/-- Once every chain resumed, each of them counts among the chains that resumed. -/
theorem Fan.order_full (h : F.Fan P₀ S₀ past₀ pos order fin sealed S v) (hall : ∀ th ∈ F.threads, 0 < pos th) :
    order.length = F.threads.length := by
  have hsub : F.threads.Subperm order := F.distinct.subperm fun th hth => (h.started th hth).2 (hall th hth)
  exact Nat.le_antisymm h.length_order hsub.length_le

/-- Two chains still running: at least two chains have not finished. -/
theorem Fan.fin_two (h : F.Fan P₀ S₀ past₀ pos order fin sealed S v) {th th' : Thread} (hth : th ∈ F.threads)
    (hth' : th' ∈ F.threads) (hne : th' ≠ th) (hnf : th ∉ fin) (hnf' : th' ∉ fin) :
    fin.length + 2 ≤ F.threads.length := by
  have hnd : (th :: th' :: fin).Nodup := by
    simp only [List.nodup_cons, List.mem_cons, not_or]
    exact ⟨⟨Ne.symm hne, hnf⟩, hnf', h.fin_nodup⟩
  have hsub := hnd.subperm fun x hx => by
    rcases List.mem_cons.1 hx with rfl | hx
    · exact hth
    rcases List.mem_cons.1 hx with rfl | hx
    · exact hth'
    · exact h.fin_sub x hx
  have := hsub.length_le
  simp only [List.length_cons] at this
  omega

/-- One chain left running, every other finished. -/
theorem Fan.fin_all (h : F.Fan P₀ S₀ past₀ pos order fin sealed S v) {th : Thread} (hth : th ∈ F.threads)
    (hnf : th ∉ fin) (hdone : ∀ th' ∈ F.threads, th' ≠ th → th' ∈ fin) : fin.length + 1 = F.threads.length := by
  have hle : (th :: fin).Subperm F.threads :=
    (List.nodup_cons.2 ⟨hnf, h.fin_nodup⟩).subperm fun x hx => by
      rcases List.mem_cons.1 hx with rfl | hx
      · exact hth
      · exact h.fin_sub x hx
  have hge : (F.threads.erase th).Subperm fin :=
    (F.distinct.erase th).subperm fun x hx => hdone x (List.mem_of_mem_erase hx)
      ((F.distinct.mem_erase_iff).1 hx).1
  have h₁ := hle.length_le
  have h₂ := hge.length_le
  rw [List.length_erase_of_mem hth] at h₂
  simp only [List.length_cons] at h₁
  have := List.length_pos_of_mem hth
  omega

/-- What the rest `xs` of a fan-in's schedule does from the world `v`: no proper prefix of it
touches the pipeline, and the whole of it hands the span over once, holding the frames offered to it
up to its capacity, among them every frame each chain recorded, under the chain's number. -/
def Closes (F : FanIn) (P₀ : Pipeline FinishedSpan) (S₀ : SpanState) (past₀ : List SpanEvent)
    (order : List Thread) (xs : List (Thread × Hook)) (v : World) : Prop :=
  (∀ ys zs, xs = ys ++ zs → zs ≠ [] → ∃ v', (Hook.runOn ys).run v = .ok () v' ∧ v'.pipeline = P₀) ∧
    ∃ sealed' S' v', (Hook.runOn xs).run v = .ok () v' ∧ v'.pipeline = (P₀.onEnd S'.finishedSpan).2.2 ∧
      S'.Logged (past₀ ++ sealed') ∧ S₀.Kept S' ∧
      (∀ th ∈ F.threads,
        sealed'.countP (·.asyncId = some (F.tag order th)) = Hook.recorded F.limit 0 (F.script th).hooks) ∧
      ∀ e ∈ sealed', ∃ th ∈ order, e.asyncId = some (F.tag order th)

/-- A last hook that hands the span over, from a world that has not touched the pipeline. -/
theorem Closes.single {th : Thread} {x : Hook} {v₁ : World} {sealed' : List SpanEvent} {S' : SpanState}
    (hrun : (Agent.onThread th x.dispatch).run v = .ok () v₁) (hpip : v.pipeline = P₀)
    (hv₁ : v₁.pipeline = (P₀.onEnd S'.finishedSpan).2.2) (hlog : S'.Logged (past₀ ++ sealed'))
    (hkept : S₀.Kept S')
    (hcount : ∀ th ∈ F.threads,
      sealed'.countP (·.asyncId = some (F.tag order th)) = Hook.recorded F.limit 0 (F.script th).hooks)
    (htag : ∀ e ∈ sealed', ∃ th ∈ order, e.asyncId = some (F.tag order th)) :
    F.Closes P₀ S₀ past₀ order [(th, x)] v := by
  refine ⟨fun ys zs hys hzs => ?_, sealed', S', v₁, by rw [Hook.runOn_cons, Agent.run_bind_ok hrun]; rfl,
    hv₁, hlog, hkept, hcount, htag⟩
  -- the only proper prefix of one hook is the empty one
  obtain rfl : ys = [] := by
    cases ys with
    | nil => rfl
    | cons y ys => simp_all
  exact ⟨v, rfl, hpip⟩

/-- A hook that leaves the pipeline alone, ahead of a rest that closes. -/
theorem Closes.cons {th : Thread} {x : Hook} {rest : List (Thread × Hook)} {v₁ : World}
    (hrun : (Agent.onThread th x.dispatch).run v = .ok () v₁) (hpip : v.pipeline = P₀)
    (h : F.Closes P₀ S₀ past₀ order rest v₁) : F.Closes P₀ S₀ past₀ order ((th, x) :: rest) v := by
  obtain ⟨hpre, sealed', S', v', hrun', hrest⟩ := h
  refine ⟨fun ys zs hys hzs => ?_, sealed', S', v', by rw [Hook.runOn_cons, Agent.run_bind_ok hrun]; exact hrun',
    hrest⟩
  cases ys with
  | nil => exact ⟨v, rfl, hpip⟩
  | cons y ys =>
    simp only [List.cons_append, List.cons.injEq] at hys
    obtain ⟨rfl, hys'⟩ := hys
    obtain ⟨v'', hrun'', hp''⟩ := hpre ys zs hys' hzs
    exact ⟨v'', by rw [Hook.runOn_cons, Agent.run_bind_ok hrun]; exact hrun'', hp''⟩

/-- Once every chain resumed, the rest of the schedule, every hook each chain has left: the fan-in
goes on up to the last chain to finish, whose outermost `after` hands the span over once, holding
every frame of every chain up to its capacity. Up to that last hook the pipeline is untouched. -/
theorem Fan.run_close {xs : List (Thread × Hook)} {pos : Thread → Nat} {fin : List Thread}
    {sealed : List SpanEvent} {S : SpanState} {v : World} (h : F.Fan P₀ S₀ past₀ pos order fin sealed S v)
    (hxs : ∀ p ∈ xs, p.1 ∈ F.threads) (hall : ∀ th ∈ F.threads, 0 < pos th)
    (hrest : ∀ th ∈ F.threads, (F.script th).hooks.drop (pos th) = Hook.chainOf xs th)
    (hrun : ∃ th ∈ F.threads, th ∉ fin) :
    F.Closes P₀ S₀ past₀ order xs v := by
  induction xs generalizing pos fin sealed S v with
  | nil =>
    -- a chain that has not finished has hooks left
    obtain ⟨th, hth, hnf⟩ := hrun
    have hend := hrest th hth
    rw [Hook.chainOf_nil, List.drop_eq_nil_iff] at hend
    exact absurd ((h.finished th hth).2 (Nat.le_antisymm (h.pos_le hth) hend)) hnf
  | cons p rest ih =>
    obtain ⟨th, x⟩ := p
    have hth : th ∈ F.threads := hxs _ List.mem_cons_self
    have hdrop := hrest th hth
    rw [Hook.chainOf_cons_self] at hdrop
    have hnext := (Hook.next_of_drop hdrop).1
    have hrest' : ∀ th' ∈ F.threads,
        (F.script th').hooks.drop (Function.update pos th (pos th + 1) th') = Hook.chainOf rest th' := by
      intro th' hth'
      have hdrop' := hrest th' hth'
      rw [← List.append_nil (Hook.chainOf _ th')] at hdrop'
      rw [Hook.drop_update hdrop', List.append_nil]
    have hall' : ∀ th' ∈ F.threads, 0 < Function.update pos th (pos th + 1) th' := by
      intro th' hth'
      rcases eq_or_ne th' th with rfl | hne
      · simp
      · rw [Function.update_of_ne hne]
        exact hall th' hth'
    have hnf : pos th = (F.script th).body.length + 1 → th ∉ fin := fun hl hf => by
      have := (h.finished th hth).1 hf
      rw [hl, Script.length_hooks] at this
      omega
    by_cases hlast : pos th = (F.script th).body.length + 1 ∧ ∀ th' ∈ F.threads, th' ≠ th → th' ∈ fin
    · -- the last chain to finish: its outermost `after` is the schedule's last hook
      obtain ⟨hl, hdone⟩ := hlast
      rw [hl, Script.hooks_getElem_last, Option.some.injEq] at hnext
      subst hnext
      have hfl : fin.length + 1 = order.length :=
        (h.fin_all hth (hnf hl) hdone).trans (h.order_full hall).symm
      obtain ⟨sealed', S', v', hrun₁, hpip, hlog, hkept, hcount, htag⟩ := h.finishLast hth hl hfl hdone
      have hnil : rest = [] := by
        -- every chain has run all its hooks
        refine List.eq_nil_iff_forall_not_mem.2 fun q hq => Hook.chainOf_ne_nil (List.mem_map_of_mem hq) ?_
        have hq := hxs q (List.mem_cons_of_mem _ hq)
        rw [← hrest' q.1 hq, List.drop_eq_nil_iff]
        rcases eq_or_ne q.1 th with hqe | hne
        · rw [hqe, Function.update_self, hl, Script.length_hooks]
        · rw [Function.update_of_ne hne, (h.finished q.1 hq).1 (hdone q.1 hq hne)]
      subst hnil
      exact Closes.single hrun₁ h.pipeline hpip hlog hkept hcount htag
    · -- another chain still runs after this hook
      have hother : pos th = (F.script th).body.length + 1 → ∃ th' ∈ F.threads, th' ≠ th ∧ th' ∉ fin :=
        fun hl => by
          by_contra hno
          push Not at hno
          exact hlast ⟨hl, hno⟩
      have hmore : pos th = (F.script th).body.length + 1 → fin.length + 1 < order.length := fun hl => by
        obtain ⟨th', hth', hne, hnf'⟩ := hother hl
        have := h.fin_two hth hth' hne (hnf hl) hnf'
        have := h.order_full hall
        omega
      obtain ⟨order', fin', sealed₁, S₁, v₁, hrun₁, hf, horder, hfin⟩ :=
        h.step hth hnext (fun h0 => absurd h0 (Nat.pos_iff_ne_zero.1 (hall th hth))) hmore
      rw [if_neg (Nat.pos_iff_ne_zero.1 (hall th hth))] at horder
      subst horder
      have hrun' : ∃ th' ∈ F.threads, th' ∉ fin' := by
        rw [hfin]
        split
        · rename_i hl
          obtain ⟨th', hth', hne, hnf'⟩ := hother hl
          exact ⟨th', hth', by simp [hnf', hne]⟩
        · exact hrun
      exact Closes.cons hrun₁ h.pipeline (ih hf (fun q hq => hxs q (List.mem_cons_of_mem _ hq)) hall' hrest' hrun')

end Fan

/-- The fan-in before any hook: the context fresh, the span owing only the context's creation hold. -/
theorem Fan.initial {w : World} {S₀ : SpanState} {past₀ : List SpanEvent}
    (hc : w.asyncs[F.context]? = some ⟨.recording F.span F.traceId F.asyncId 0 {}, F.refs⟩)
    (hsp : w.spans[F.span]? = some S₀) (ho : S₀.isOpen = true) (hp : S₀.pending = 1) (hlog : S₀.Logged past₀)
    (hidle : ∀ th ∈ F.threads, (w.chainAt th).trace = none) (hlive : ∀ th ∈ F.threads, th ∉ w.gone)
    (hlim : w.settings.maxCallStackDepth = F.limit) :
    F.Fan w.pipeline S₀ past₀ (fun _ => 0) [] [] [] S₀ w where
  chains th hth := .idle (hidle th hth)
  started _ _ := by simp
  finished th _ := by simp [Script.length_hooks]
  order_nodup := List.nodup_nil
  order_sub := by simp
  fin_nodup := List.nodup_nil
  fin_sub := by simp
  span := hsp
  isOpen := ho
  logged := by rw [List.append_nil]; exact hlog
  kept := .refl S₀
  pending := by rw [hp]; rfl
  context := hc
  live := hlive
  limit := hlim
  pipeline := rfl
  tagged := by simp

/-- **Fan-in.** Chains, each unbound, run their scripts of end points on clones of a fresh recording
context, interleaved as the schedule `pre ++ post`: every chain's outermost `before` is in `pre`
and its outermost `after` in `post`; the span owes nothing but the context's creation hold. Then
the span goes to the pipeline exactly once, at the schedule's last hook: no shorter prefix of the
schedule touches the pipeline. The span handed over keeps its trace id and root and holds, up to its
capacity, the frames offered before and then the branches' frames; the chain that resumed `i`-th
recorded as many frames numbered `⟨a, i + 1⟩` as its script records, and no other frame is. -/
theorem exports_once {pre post : List (Thread × Hook)} {w : World} {S₀ : SpanState} {past₀ : List SpanEvent}
    (hxs : ∀ p ∈ pre ++ post, p.1 ∈ F.threads)
    (hchains : ∀ th ∈ F.threads, Hook.chainOf (pre ++ post) th = (F.script th).hooks)
    (hsplit : ∀ th ∈ F.threads, Hook.chainOf pre th ≠ [] ∧ Hook.chainOf post th ≠ [])
    (hc : w.asyncs[F.context]? = some ⟨.recording F.span F.traceId F.asyncId 0 {}, F.refs⟩)
    (hsp : w.spans[F.span]? = some S₀) (ho : S₀.isOpen = true) (hp : S₀.pending = 1) (hlog : S₀.Logged past₀)
    (hidle : ∀ th ∈ F.threads, (w.chainAt th).trace = none) (hlive : ∀ th ∈ F.threads, th ∉ w.gone)
    (hlim : w.settings.maxCallStackDepth = F.limit) :
    (∀ ys zs, pre ++ post = ys ++ zs → zs ≠ [] →
      ∃ v, (Hook.runOn ys).run w = .ok () v ∧ v.pipeline = w.pipeline) ∧
    ∃ (order : List Thread) (sealed : List SpanEvent) (S : SpanState) (v : World),
      (Hook.runOn (pre ++ post)).run w = .ok () v ∧
      v.pipeline = (w.pipeline.onEnd S.finishedSpan).2.2 ∧
      S.finishedSpan.traceId = S₀.traceId ∧ S.finishedSpan.root = S₀.root ∧
      S.finishedSpan.events =
        ((past₀ ++ sealed).take S₀.maxEvents).mergeSort (fun a b => a.sequence ≤ b.sequence) ∧
      S.finishedSpan.droppedEvents.toNat = ((past₀ ++ sealed).length - S₀.maxEvents) % UInt32.size ∧
      order.Perm F.threads ∧
      (∀ i (hi : i < order.length), sealed.countP (·.asyncId = some ⟨F.asyncId, UInt32.ofNat (i + 1)⟩) =
        Hook.recorded F.limit 0 (F.script order[i]).hooks) ∧
      ∀ e ∈ sealed, ∃ i < order.length, e.asyncId = some ⟨F.asyncId, UInt32.ofNat (i + 1)⟩ := by
  have h₀ := Fan.initial hc hsp ho hp hlog hidle hlive hlim
  have hhooks : ∀ th ∈ F.threads, (F.script th).hooks = Hook.chainOf pre th ++ Hook.chainOf post th :=
    fun th hth => by rw [← hchains th hth, Hook.chainOf_append]
  -- the outermost `before`s: every chain resumes and none finishes
  have hopen : ∀ ys, (∀ p ∈ ys, p.1 ∈ F.threads) →
      (∀ th ∈ F.threads, ∃ r, r ≠ [] ∧ (F.script th).hooks = Hook.chainOf ys th ++ r) →
      ∃ order sealed S v, (Hook.runOn ys).run w = .ok () v ∧
        F.Fan w.pipeline S₀ past₀ (fun th => (Hook.chainOf ys th).length) order [] sealed S v := by
    intro ys hys hleft
    obtain ⟨order, sealed, S, v, hrun, hf⟩ := h₀.run_open hys fun th hth => by simpa using hleft th hth
    exact ⟨order, sealed, S, v, hrun, by simpa using hf⟩
  obtain ⟨order, sealed₁, S₁, v₁, hrun₁, hf₁⟩ :=
    hopen pre (fun p hp => hxs p (List.mem_append_left _ hp))
      fun th hth => ⟨_, (hsplit th hth).2, hhooks th hth⟩
  have hall : ∀ th ∈ F.threads, 0 < (Hook.chainOf pre th).length :=
    fun th hth => List.length_pos_of_ne_nil (hsplit th hth).1
  -- the outermost `after`s: the last chain to finish hands the span over
  obtain ⟨hearly, sealed, S, v, hrun₂, hpip, hlogged, hkept, hcount, htag⟩ :=
    hf₁.run_close (fun p hp => hxs p (List.mem_append_right _ hp)) hall
      (fun th hth => by rw [hhooks th hth, List.drop_left])
      ((List.exists_mem_of_ne_nil _ F.some_chain).imp fun th hth => ⟨hth, List.not_mem_nil⟩)
  refine ⟨fun ys zs hys hzs => ?_, order, sealed, S, v, (Hook.runOn_append_ok hrun₁).trans hrun₂, hpip,
    hkept.traceId, hkept.root, ?_, ?_, ?_, fun i hi => ?_, fun e he => ?_⟩
  · rcases List.append_eq_append_iff.1 hys with ⟨as, rfl, rfl⟩ | ⟨bs, rfl, rfl⟩
    · -- the opening phase and then a proper prefix of the closing one
      obtain ⟨v', hrun, hv'⟩ := hearly as zs rfl hzs
      exact ⟨v', (Hook.runOn_append_ok hrun₁).trans hrun, hv'⟩
    · -- a prefix of the opening phase
      obtain ⟨_, _, _, v', hrun, hf⟩ := hopen ys (fun p hp => hxs p (by simp [hp]))
        fun th hth => ⟨Hook.chainOf bs th ++ Hook.chainOf post th, by simp [(hsplit th hth).2],
          by rw [hhooks th hth, Hook.chainOf_append, List.append_assoc]⟩
      exact ⟨v', hrun, hf.pipeline⟩
  · rw [SpanState.finishedSpan, hlogged.events, hkept.maxEvents]
  · rw [SpanState.finishedSpan, hlogged.dropped, hkept.maxEvents]
  · exact (hf₁.order_nodup.subperm hf₁.order_sub).perm_of_length_le (hf₁.order_full hall).ge
  · rw [← tag_getElem hf₁.order_nodup hi]
    exact hcount _ (hf₁.order_sub _ (List.getElem_mem hi))
  · obtain ⟨th, hth, he⟩ := htag e he
    exact ⟨order.idxOf th, List.idxOf_lt_length_of_mem hth, he⟩

end FanIn

namespace Agent.EventRecorder

variable {w : World}

/-- An active recorder on an open recording trace with a frame on its stack, whose span takes one
more hold: the new context records on that span under the next async id, with one reference and no
branch yet, and that id is stamped on the top frame. -/
theorem nextAsync_run_stamps {r : EventRecorder} {o : TraceObj} {sp : SpanRef} {br : Option LocalAsyncId}
    {st : CallStack} {e : SpanEvent} {S S' : SpanState} (hr : r.active = true)
    (ho : w.traces[r.owner]? = some o) (hc : o.closed = false) (hk : o.kind = .recording sp br st)
    (htop : st.top? = some e) (hsp : w.spans[sp]? = some S) (hacq : S.acquire = some S') :
    r.nextAsync.run w = .ok w.asyncs.size
      { w with
        spans := w.spans.set! sp S'
        ids := w.ids.nextAsync.2
        traces := w.traces.set! r.owner
          { o with kind := .recording sp br (st.updateTop fun e => { e with nextAsyncId := some w.ids.nextAsync.1 }) }
        asyncs := w.asyncs.push ⟨.recording sp S'.traceId w.ids.nextAsync.1 0 {}, 1⟩ } := by
  simp [nextAsync, trace, span, setSpan, nextAsyncId, setTrace, newAsync, hr, ho, hc, hk, htop, hsp, hacq]

end Agent.EventRecorder

namespace Agent

/-- **Async end points: one chain, and many joining one span.**

(1) One chain. Take an unbound chain, a recording async context `a` whose holds are as every
reachable context's are, and a script `s` of end points that resume `a` and start no hand-off:
an outermost `before`, the pairs nested in it, and the outermost `after`. If the outermost `before`
resumes a branch `t`, then after it and any well-nested prefix of the nested hooks, `t` is bound,
open, and its trace scope and its stack are as deep as the prefix nests: every nested pair opens
and seals one frame on it. The outermost `after` unbinds `t`, closes it with no frame open and its
scope at depth zero, and reports it finished to the context once: the context counts one branch
started and one finished. If the outermost resume gives no branch, the whole script records
nothing: the chain stays unbound and the spans, the pipeline and the context's holds are as they
were.

(2) Many chains. Take a fresh recording context that writes into an open span owing nothing but
the context's creation hold (the synchronous trace is closed), and chains, live and unbound, that
run their scripts on it, interleaved as `pre ++ post` with every chain's outermost `before` in
`pre` and its outermost `after` in `post`. No proper prefix of the schedule touches the pipeline;
the whole schedule hands the span to it exactly once. The span handed over keeps its trace id and
root record, and holds the frames offered to it, those it had and then those the branches sealed,
sorted by sequence but only up to its capacity `max_span_events`, with the others counted as
dropped. The chains resume each once; the `i`-th to resume numbers its frames `⟨a', i + 1⟩`, where
`a'` is the context's async id, and sealed as many of them as its script records within the stack
limit `max_call_stack_depth`; no other frame is sealed.

(3) The async id. Recording a hand-off from the top frame of an open recording trace whose span
takes one more hold creates a context with no branch yet that records under the next async id,
and stamps that same id on the frame. -/
theorem async_end_points_pair_and_join :
    (∀ (w : World) (a : AsyncRef) (sp : SpanRef) (tid : TraceId) (aid : AsyncId) (n : UInt32) (hs : Holds)
        (refs : Nat) (s : Script),
      w.asyncs[a]? = some ⟨.recording sp tid aid n hs, refs⟩ → w.boundTrace = none → sp < w.spans.size →
      hs.pinned = !hs.settled → hs.finished ≤ hs.started → s.Of a →
      (∀ t w₁, (continueAsync a).run w = .ok (some t) w₁ →
        (∀ pre suf d, s.body = pre ++ suf → Hook.nest 1 pre = some d →
          ∃ v, ((Hook.before s.first :: pre).forM Hook.dispatch).run w = .ok () v ∧ v.boundTrace = some t ∧
            (∃ (o : TraceObj) (st : CallStack),
              v.traces[t]? = some { o with kind := .recording sp (some ⟨aid, n + 1⟩) st } ∧
              o.closed = false ∧ o.scopeDepth asyncScopeName = d ∧ st.depth = d) ∧
            v.asyncs[a]? = some ⟨.recording sp tid aid (n + 1) hs.start, refs⟩) ∧
        ∃ v, (s.hooks.forM Hook.dispatch).run w = .ok () v ∧
          v.boundTrace = none ∧
          (∃ (o : TraceObj) (st : CallStack),
            v.traces[t]? = some { o with closed := true, kind := .recording sp (some ⟨aid, n + 1⟩) st } ∧
            st.depth = 0 ∧ o.scopeDepth asyncScopeName = 0) ∧
          v.asyncs[a]? = some ⟨.recording sp tid aid (n + 1) hs.start.finish, refs⟩) ∧
      (∀ w₁, (continueAsync a).run w = .ok none w₁ →
        ∃ v, (s.hooks.forM Hook.dispatch).run w = .ok () v ∧
          v.boundTrace = none ∧ v.spans = w.spans ∧ v.pipeline = w.pipeline ∧
          ∃ n', v.asyncs[a]? = some ⟨.recording sp tid aid n' hs, refs⟩)) ∧
    (∀ (F : FanIn) (pre post : List (Thread × Hook)) (w : World) (S₀ : SpanState) (past₀ : List SpanEvent),
      (∀ p ∈ pre ++ post, p.1 ∈ F.threads) →
      (∀ th ∈ F.threads, Hook.chainOf (pre ++ post) th = (F.script th).hooks) →
      (∀ th ∈ F.threads, Hook.chainOf pre th ≠ [] ∧ Hook.chainOf post th ≠ []) →
      w.asyncs[F.context]? = some ⟨.recording F.span F.traceId F.asyncId 0 {}, F.refs⟩ →
      w.spans[F.span]? = some S₀ → S₀.isOpen = true → S₀.pending = 1 → S₀.Logged past₀ →
      (∀ th ∈ F.threads, (w.chainAt th).trace = none) → (∀ th ∈ F.threads, th ∉ w.gone) →
      w.settings.maxCallStackDepth = F.limit →
      (∀ ys zs, pre ++ post = ys ++ zs → zs ≠ [] →
        ∃ v, (Hook.runOn ys).run w = .ok () v ∧ v.pipeline = w.pipeline) ∧
      ∃ (order : List Thread) (sealed : List SpanEvent) (S : SpanState) (v : World),
        (Hook.runOn (pre ++ post)).run w = .ok () v ∧
        v.pipeline = (w.pipeline.onEnd S.finishedSpan).2.2 ∧
        S.finishedSpan.traceId = S₀.traceId ∧ S.finishedSpan.root = S₀.root ∧
        S.finishedSpan.events =
          ((past₀ ++ sealed).take S₀.maxEvents).mergeSort (fun x y => x.sequence ≤ y.sequence) ∧
        S.finishedSpan.droppedEvents.toNat = ((past₀ ++ sealed).length - S₀.maxEvents) % UInt32.size ∧
        order.Perm F.threads ∧
        (∀ i (hi : i < order.length), sealed.countP (·.asyncId = some ⟨F.asyncId, UInt32.ofNat (i + 1)⟩) =
          Hook.recorded F.limit 0 (F.script order[i]).hooks) ∧
        ∀ e ∈ sealed, ∃ i < order.length, e.asyncId = some ⟨F.asyncId, UInt32.ofNat (i + 1)⟩) ∧
    (∀ (w : World) (r : EventRecorder) (o : TraceObj) (sp : SpanRef) (br : Option LocalAsyncId) (st : CallStack)
        (e : SpanEvent) (S S' : SpanState),
      r.active = true → w.traces[r.owner]? = some o → o.closed = false → o.kind = .recording sp br st →
      st.top? = some e → w.spans[sp]? = some S → S.acquire = some S' →
      r.nextAsync.run w = .ok w.asyncs.size
        { w with
          spans := w.spans.set! sp S'
          ids := w.ids.nextAsync.2
          traces := w.traces.set! r.owner
            { o with kind := .recording sp br (st.updateTop fun e => { e with nextAsyncId := some w.ids.nextAsync.1 }) }
          asyncs := w.asyncs.push ⟨.recording sp S'.traceId w.ids.nextAsync.1 0 {}, 1⟩ }) :=
  ⟨fun _ _ _ _ _ _ _ _ _ hc hb hsp hpin hfin he => end_point_pairs_resume_once hc hb hsp hpin hfin he,
    fun _ _ _ _ _ _ hxs hchains hsplit hc hsp ho hp hlog hidle hlive hlim =>
      FanIn.exports_once hxs hchains hsplit hc hsp ho hp hlog hidle hlive hlim,
    fun _ _ _ _ _ _ _ _ _ hr ho hc hk htop hsp hacq => EventRecorder.nextAsync_run_stamps hr ho hc hk htop hsp hacq⟩

/-- The end point `Task.run` with a plain handler, called on the async context `0`. -/
def taskRun : EndPoint :=
  { api := { fullName := "Task.run" }, handler := { tag := "run", plain := true }, inv := { target := .async 0 },
    outcome := .returned "" }

theorem taskRun_of : taskRun.Of 0 := ⟨rfl, rfl⟩

/-- One pair of `Task.run` hooks. -/
def taskRunOnce : Script := { first := taskRun, body := [], last := taskRun, nested := rfl }

theorem taskRunOnce_of : taskRunOnce.Of 0 := by
  intro x hx
  simp only [Script.hooks, taskRunOnce, List.nil_append, List.cons_append, List.mem_cons,
    List.not_mem_nil, or_false] at hx
  rcases hx with rfl | rfl <;> exact taskRun_of

/-- A world with one open span `0`, which holds the frames `events` and room for `maxEvents`, and
owes only the creation hold of the fresh recording context `0` with async id `1`; frames may nest
64 deep and no chain is bound. -/
def handOffWorld (maxEvents : Nat) (events : List SpanEvent) : World :=
  { (default : World) with
    settings := { (default : Settings) with maxCallStackDepth := 64 }
    spans := #[{ traceId := default, maxEvents, events }]
    asyncs := #[⟨.recording 0 default ⟨1⟩ 0 {}, 1⟩] }


/-- Two chains, `a` and `b`, each running one `Task.run` pair on the context of `handOffWorld`. -/
def twoChainJoin : FanIn where
  context := 0
  span := 0
  traceId := default
  asyncId := ⟨1⟩
  refs := 1
  threads := [.chain "a", .chain "b"]
  script _ := taskRunOnce
  limit := 64
  cloned := by decide
  distinct := by decide
  some_chain := by simp
  fits := by decide
  resumes _ _ := taskRunOnce_of

/-- A world whose trace `0` records into the open span `0` and has one frame open. -/
def frameWorld : World :=
  { (default : World) with
    spans := #[{ traceId := default, maxEvents := 5000 }]
    traces := #[{ kind := .recording 0 none { frames := [{ sequence := 0, depth := 1 }], maxDepth := 64 } }] }

theorem hooks_taskRunOnce_recorded : Hook.recorded 64 0 taskRunOnce.hooks = 1 := rfl

/-- Chains `a` and `b` run one `Task.run` pair each on the fresh context of `handOffWorld`, both
`before`s first. One chain alone runs its pair to the end, unbound and with the branch reported
finished; the two chains hand the span over once, each having sealed one frame under its own
branch number; and a hand-off recorded from the frame of `frameWorld` creates the context `0`
with async id `1`. -/
theorem async_end_points_on_two_chains :
    (∃ v, (taskRunOnce.hooks.forM Hook.dispatch).run (handOffWorld 5000 []) = .ok () v ∧ v.boundTrace = none ∧
      v.asyncs[0]? = some ⟨.recording 0 default ⟨1⟩ 1 ({} : Holds).start.finish, 1⟩) ∧
    (∃ (order : List Thread) (sealed : List SpanEvent) (S : SpanState) (v : World),
      (Hook.runOn [(.chain "a", .before taskRun), (.chain "b", .before taskRun), (.chain "a", .after taskRun),
        (.chain "b", .after taskRun)]).run (handOffWorld 5000 []) = .ok () v ∧
      v.pipeline = ((handOffWorld 5000 []).pipeline.onEnd S.finishedSpan).2.2 ∧ order.length = 2 ∧
      ∀ i < order.length, sealed.countP (·.asyncId = some ⟨⟨1⟩, UInt32.ofNat (i + 1)⟩) = 1) ∧
    (∃ w', (EventRecorder.nextAsync ⟨0, true⟩).run frameWorld = .ok 0 w' ∧
      w'.asyncs[0]? = some ⟨.recording 0 default ⟨1⟩ 0 {}, 1⟩) := by
  refine ⟨?_, ?_, ?_⟩
  · -- the chain resumes a fresh branch
    have hreach : (spanReachable 0).run (handOffWorld 5000 []) = .ok true (handOffWorld 5000 []) :=
      spanReachable_run_pinned (a := 0) rfl Nat.one_pos rfl
    obtain ⟨w₁, hk⟩ : ∃ w₁, (continueAsync 0).run (handOffWorld 5000 []) = .ok (some 0) w₁ :=
      ⟨_, continueAsync_run_fresh rfl rfl rfl hreach rfl⟩
    obtain ⟨-, v, hrun, hb, -, hasync⟩ := ((async_end_points_pair_and_join).1 (handOffWorld 5000 []) 0 0 default
      ⟨1⟩ 0 {} 1 taskRunOnce rfl rfl (by decide) rfl le_rfl taskRunOnce_of).1 0 w₁ hk
    exact ⟨v, hrun, hb, hasync⟩
  · obtain ⟨-, order, sealed, S, v, hrun, hpip, -, -, -, -, hperm, hcount, -⟩ :=
      (async_end_points_pair_and_join).2.1 twoChainJoin [(.chain "a", .before taskRun), (.chain "b", .before taskRun)]
        [(.chain "a", .after taskRun), (.chain "b", .after taskRun)] (handOffWorld 5000 [])
        { traceId := default, maxEvents := 5000 } []
        (by simp [twoChainJoin]) (by simp [twoChainJoin, Hook.chainOf, Script.hooks, taskRunOnce])
        (by simp [twoChainJoin, Hook.chainOf]) rfl rfl rfl rfl ⟨rfl, rfl⟩ (fun _ _ => rfl)
        (fun _ _ => List.not_mem_nil) rfl
    exact ⟨order, sealed, S, v, hrun, hpip, by simpa [twoChainJoin] using hperm.length_eq,
      fun i hi => (hcount i hi).trans hooks_taskRunOnce_recorded⟩
  · obtain ⟨w', hrun⟩ : ∃ w', (EventRecorder.nextAsync ⟨0, true⟩).run frameWorld = .ok 0 w' :=
      ⟨_, (async_end_points_pair_and_join).2.2 frameWorld ⟨0, true⟩ _ 0 none _ _ _
        { traceId := default, maxEvents := 5000, pending := 2 } rfl rfl rfl rfl rfl rfl rfl⟩
    refine ⟨w', hrun, ?_⟩
    have h := (async_end_points_pair_and_join).2.2 frameWorld ⟨0, true⟩ _ 0 none _ _ _
        { traceId := default, maxEvents := 5000, pending := 2 } rfl rfl rfl rfl rfl rfl rfl
    rw [hrun] at h
    cases h
    rfl


/-- The frame that handed the context of `handOffWorld` off, on the synchronous trace. -/
def handOffFrame : SpanEvent := { sequence := 0, depth := 1, nextAsyncId := some ⟨1⟩ }

/-- One chain, `w0`, running one `Task.run` pair on the context of `handOffWorld`. -/
def oneChainJoin : FanIn where
  context := 0
  span := 0
  traceId := default
  asyncId := ⟨1⟩
  refs := 1
  threads := [.chain "w0"]
  script _ := taskRunOnce
  limit := 64
  cloned := by decide
  distinct := by decide
  some_chain := by simp
  fits := by decide
  resumes _ _ := taskRunOnce_of

/-- With room for one frame, taken by the frame that handed off, the branch of chain `w0` seals its
frame and the span leaves it out: the span ships with the hand-off frame alone, and one frame
dropped. -/
theorem branch_frame_left_out_past_capacity :
    ∃ (S : SpanState) (v : World), (Hook.runOn [(.chain "w0", .before taskRun), (.chain "w0", .after taskRun)]).run
        (handOffWorld 1 [handOffFrame]) = .ok () v ∧
      v.pipeline = ((handOffWorld 1 [handOffFrame]).pipeline.onEnd S.finishedSpan).2.2 ∧
      S.finishedSpan.events = [handOffFrame] ∧ S.finishedSpan.droppedEvents = 1 := by
  obtain ⟨-, order, sealed, S, v, hrun, hpip, -, -, hev, hdrop, hperm, hcount, htag⟩ :=
    @FanIn.exports_once oneChainJoin [(.chain "w0", .before taskRun)] [(.chain "w0", .after taskRun)]
      (handOffWorld 1 [handOffFrame]) { traceId := default, maxEvents := 1, events := [handOffFrame] }
      [handOffFrame] (by simp [oneChainJoin]) (by simp [oneChainJoin, Hook.chainOf, Script.hooks, taskRunOnce])
      (by simp [oneChainJoin, Hook.chainOf]) rfl rfl rfl rfl ⟨rfl, rfl⟩ (fun _ _ => rfl)
      (fun _ _ => List.not_mem_nil) rfl
  -- the one chain resumed first, and sealed exactly one frame, under its branch `⟨1, 1⟩`
  have horder : order.length = 1 := by simpa [oneChainJoin] using hperm.length_eq
  have hone : sealed.countP (·.asyncId = some ⟨⟨1⟩, 1⟩) = 1 :=
    (hcount 0 (by omega)).trans hooks_taskRunOnce_recorded
  have hall : sealed.countP (·.asyncId = some ⟨⟨1⟩, 1⟩) = sealed.length := by
    refine List.countP_eq_length.2 fun e he => ?_
    obtain ⟨i, hi, he'⟩ := htag e he
    obtain rfl : i = 0 := by omega
    simpa [oneChainJoin] using he'
  have hlen : sealed.length = 1 := hall.symm.trans hone
  refine ⟨S, v, hrun, hpip, ?_, ?_⟩
  · rw [hev]
    simp
  · apply UInt32.toNat_inj.1
    rw [hdrop]
    simp [hlen]

end Agent

end TraceAgent
