import Mathlib
import TraceAgent.Proofs.Async.Branch

/-!
# Scripts of end points, and schedules over chains

A chain runs a `Script` of end-point hooks on an async context: its outermost `before`, the pairs
nested in it, and its outermost `after`. This module counts what a script does to the branch it
runs on, and reads schedules that interleave the scripts of several chains.

* `Hook.depth` is the nesting depth after some hooks, and `Hook.recorded m` the frames their
  `before`s record on a stack limited to `m` levels. Both split over a concatenation
  (`Hook.depth_append`, `Hook.recorded_append`). Where nesting (`Hook.nest`) is defined it is the
  depth (`Hook.depth_of_nest`), and every prefix of a well-nested run is well nested
  (`Hook.nest_take`).
* Along a script, a nested `before` goes one level deeper and records a frame when the stack has
  room; a nested `after` goes one level up and records nothing; only the outermost `after` meets
  depth one (`Script.nest_take_before`, `Script.nest_take_after`, `Script.recorded_take_before`,
  `Script.no_inner_after_at_one`).
* A schedule is a list of hooks, each with the chain that runs it (`Hook.runOn`); the hooks of one
  chain are read back in order by `Hook.chainOf`.
-/

namespace TraceAgent

namespace Hook

/-- The nesting depth after the hooks, from depth `d`: each `before` one deeper, each `after` one
up. -/
def depth : Nat → List Hook → Nat
  | d, [] => d
  | d, before _ :: hs => depth (d + 1) hs
  | d, after _ :: hs => depth (d - 1) hs

/-- The frames the `before`s among the hooks record on a branch limited to `m` levels, from depth
`d`: those opened with fewer than `m` levels open. -/
def recorded (m : Nat) : Nat → List Hook → Nat
  | _, [] => 0
  | d, before _ :: hs => (if d < m then 1 else 0) + recorded m (d + 1) hs
  | d, after _ :: hs => recorded m (d - 1) hs

theorem depth_append (d : Nat) (xs ys : List Hook) : depth d (xs ++ ys) = depth (depth d xs) ys := by
  induction xs generalizing d with
  | nil => rfl
  | cons x xs ih => cases x <;> exact ih _

theorem recorded_append (m d : Nat) (xs ys : List Hook) :
    recorded m d (xs ++ ys) = recorded m d xs + recorded m (depth d xs) ys := by
  induction xs generalizing d with
  | nil => simp [recorded, depth]
  | cons x xs ih =>
    cases x
    · simp only [List.cons_append, recorded, depth, ih]
      omega
    · exact ih _

theorem nest_append (d : Nat) (xs ys : List Hook) : nest d (xs ++ ys) = (nest d xs).bind (nest · ys) := by
  induction xs generalizing d with
  | nil => rfl
  | cons x xs ih =>
    cases x with
    | before e => exact ih _
    | after e =>
      rcases d with _ | _ | d
      · rfl
      · rfl
      · exact ih _

/-- Where nesting is defined it is the depth. -/
theorem depth_of_nest {d d' : Nat} {xs : List Hook} (h : nest d xs = some d') : depth d xs = d' := by
  induction xs generalizing d with
  | nil => simpa [nest, depth] using h
  | cons x xs ih =>
    cases x with
    | before e => exact ih h
    | after e =>
      rcases d with _ | _ | d
      · simp [nest] at h
      · simp [nest] at h
      · exact ih h

/-- Nesting from a positive depth stays positive. -/
theorem pos_of_nest {d d' : Nat} {xs : List Hook} (hd : 0 < d) (h : nest d xs = some d') : 0 < d' := by
  induction xs generalizing d with
  | nil =>
    simp only [nest, Option.some.injEq] at h
    omega
  | cons x xs ih =>
    cases x with
    | before e => exact ih (Nat.succ_pos d) h
    | after e =>
      rcases d with _ | _ | d
      · simp [nest] at h
      · simp [nest] at h
      · exact ih (Nat.succ_pos d) h

/-- A prefix of a well-nested run is well nested. -/
theorem nest_take {d d' : Nat} {xs : List Hook} (h : nest d xs = some d') (k : Nat) :
    ∃ d'', nest d (xs.take k) = some d'' := by
  rw [← List.take_append_drop k xs, nest_append] at h
  cases hk : nest d (xs.take k) with
  | none => simp [hk] at h
  | some d'' => exact ⟨d'', rfl⟩

/-- Runs each hook on its chain, in order, coming back to the calling thread after each. -/
def runOn (steps : List (Thread × Hook)) : Agent Unit :=
  steps.forM fun p => Agent.onThread p.1 p.2.dispatch

/-- The hooks chain `th` runs in a schedule, in order. -/
def chainOf (steps : List (Thread × Hook)) (th : Thread) : List Hook :=
  (steps.filter (·.1 == th)).map Prod.snd

/-- A chain whose remaining hooks start with `x` runs `x` next, and has the rest left after it. -/
theorem next_of_drop {l : List Hook} {k : Nat} {x : Hook} {r : List Hook} (h : l.drop k = x :: r) :
    l[k]? = some x ∧ l.drop (k + 1) = r :=
  ⟨by rw [← List.head?_drop, h]; rfl, by rw [← List.tail_drop, h]; rfl⟩

theorem runOn_cons (p : Thread × Hook) (rest : List (Thread × Hook)) (w : World) :
    (runOn (p :: rest)).run w = (do Agent.onThread p.1 p.2.dispatch; runOn rest).run w := rfl

@[simp] theorem chainOf_nil (th : Thread) : chainOf [] th = [] := rfl

@[simp] theorem chainOf_cons_self (th : Thread) (x : Hook) (rest : List (Thread × Hook)) :
    chainOf ((th, x) :: rest) th = x :: chainOf rest th := by
  simp [chainOf]

theorem chainOf_cons_ne {th th' : Thread} (x : Hook) (rest : List (Thread × Hook)) (h : th' ≠ th) :
    chainOf ((th, x) :: rest) th' = chainOf rest th' := by
  simp [chainOf, Ne.symm h]

theorem chainOf_append (xs ys : List (Thread × Hook)) (th : Thread) :
    chainOf (xs ++ ys) th = chainOf xs th ++ chainOf ys th := by
  simp [chainOf]

/-- After `th` runs the schedule's first hook, every chain has the schedule's rest still ahead of
its moved-on position. -/
theorem drop_update {hooks : List Hook} {pos : Thread → Nat} {th th' : Thread} {x : Hook}
    {rest : List (Thread × Hook)} {r : List Hook}
    (h : hooks.drop (pos th') = chainOf ((th, x) :: rest) th' ++ r) :
    hooks.drop (Function.update pos th (pos th + 1) th') = chainOf rest th' ++ r := by
  rcases eq_or_ne th' th with rfl | hne
  · rw [chainOf_cons_self, List.cons_append] at h
    rw [Function.update_self, (next_of_drop h).2]
  · rwa [Function.update_of_ne hne, ← chainOf_cons_ne x rest hne]

theorem chainOf_ne_nil {steps : List (Thread × Hook)} {th : Thread} (h : th ∈ steps.map Prod.fst) :
    chainOf steps th ≠ [] := by
  obtain ⟨⟨th', x⟩, hp, rfl⟩ := List.mem_map.1 h
  simp only [chainOf, ne_eq, List.map_eq_nil_iff, List.filter_eq_nil_iff, beq_iff_eq, not_forall, not_not]
  exact ⟨_, hp, rfl⟩

theorem runOn_append_ok {xs ys : List (Thread × Hook)} {w v : World} (h : (runOn xs).run w = .ok () v) :
    (runOn (xs ++ ys)).run w = (runOn ys).run v := by
  induction xs generalizing w with
  | nil =>
    cases h
    rfl
  | cons p xs ih =>
    rw [List.cons_append, runOn_cons]
    rw [runOn_cons] at h
    cases hk : (Agent.onThread p.1 p.2.dispatch).run w with
    | ok _ u =>
      rw [Agent.run_bind_ok hk] at h ⊢
      exact ih h
    | error e u => simp [EStateM.run_bind, hk] at h

end Hook

namespace Script

theorem hooks_take_succ (s : Script) {k : Nat} (hk : k ≤ s.body.length) :
    s.hooks.take (k + 1) = .before s.first :: s.body.take k := by
  simp [hooks, List.take_append_of_le_length hk]

theorem length_hooks (s : Script) : s.hooks.length = s.body.length + 2 := by
  simp [hooks]

theorem hooks_getElem_zero (s : Script) : s.hooks[0]? = some (.before s.first) := rfl

theorem hooks_getElem_body (s : Script) {k : Nat} (hk : k < s.body.length) :
    s.hooks[k + 1]? = s.body[k]? := by
  simp [hooks, List.getElem?_append_left hk]

theorem hooks_getElem_last (s : Script) : s.hooks[s.body.length + 1]? = some (.after s.last) := by
  simp [hooks]

/-- An `after` at depth one inside the body would close the outermost pair: the only `after`
met at depth one is the script's last hook. -/
theorem no_inner_after_at_one {s : Script} {k : Nat} (hk : k < s.body.length) {e : EndPoint}
    (he : s.body[k]? = some (.after e)) (hone : Hook.nest 1 (s.body.take k) = some 1) : False := by
  obtain ⟨d, hd⟩ := Hook.nest_take s.nested (k + 1)
  rw [← List.take_append_getElem hk, Hook.nest_append, hone] at hd
  have he' : s.body[k] = .after e := by simpa [List.getElem?_eq_getElem hk] using he
  rw [he'] at hd
  simp [Hook.nest] at hd

theorem body_take_succ (s : Script) {k : Nat} (hk : k < s.body.length) :
    s.body.take (k + 1) = s.body.take k ++ [s.body[k]] := by
  rw [List.take_add_one, List.getElem?_eq_getElem hk]
  rfl

/-- A nested `before` runs one level deeper. -/
theorem nest_take_before (s : Script) {k d : Nat} (hk : k < s.body.length) {e : EndPoint}
    (hh : s.body[k] = .before e) (hn : Hook.nest 1 (s.body.take k) = some d) :
    Hook.nest 1 (s.body.take (k + 1)) = some (d + 1) := by
  rw [body_take_succ s hk, hh, Hook.nest_append, hn]
  rfl

/-- A nested `after` runs one level up. -/
theorem nest_take_after (s : Script) {k d : Nat} (hk : k < s.body.length) {e : EndPoint}
    (hh : s.body[k] = .after e) (hn : Hook.nest 1 (s.body.take k) = some (d + 2)) :
    Hook.nest 1 (s.body.take (k + 1)) = some (d + 1) := by
  rw [body_take_succ s hk, hh, Hook.nest_append, hn]
  rfl

/-- A nested `before` from depth `d` records a frame when the depth is within the limit. -/
theorem recorded_take_before (s : Script) (m : Nat) {k d : Nat} (hk : k < s.body.length) {e : EndPoint}
    (hh : s.body[k] = .before e) (hn : Hook.nest 1 (s.body.take k) = some d) :
    Hook.recorded m 0 (s.hooks.take (k + 2)) = Hook.recorded m 0 (s.hooks.take (k + 1)) + (if d < m then 1 else 0) := by
  rw [hooks_take_succ s hk, hooks_take_succ s hk.le, body_take_succ s hk, hh, ← List.cons_append,
    Hook.recorded_append]
  have hd : Hook.depth 0 (.before s.first :: s.body.take k) = d := Hook.depth_of_nest hn
  rw [hd]
  simp [Hook.recorded]

/-- A nested `after` records nothing. -/
theorem recorded_take_after (s : Script) (m : Nat) {k : Nat} (hk : k < s.body.length) {e : EndPoint}
    (hh : s.body[k] = .after e) :
    Hook.recorded m 0 (s.hooks.take (k + 2)) = Hook.recorded m 0 (s.hooks.take (k + 1)) := by
  rw [hooks_take_succ s hk, hooks_take_succ s hk.le, body_take_succ s hk, hh, ← List.cons_append,
    Hook.recorded_append]
  simp [Hook.recorded]

/-- The frames the whole script records. -/
theorem recorded_hooks (s : Script) (m : Nat) :
    Hook.recorded m 0 s.hooks = Hook.recorded m 0 (.before s.first :: s.body) := by
  rw [hooks, Hook.recorded_append]
  simp [Hook.recorded]

/-- The outermost `after` records nothing. -/
theorem recorded_take_last (s : Script) (m : Nat) :
    Hook.recorded m 0 (s.hooks.take (s.body.length + 1)) = Hook.recorded m 0 s.hooks := by
  rw [hooks_take_succ s le_rfl, List.take_length, recorded_hooks]

end Script

end TraceAgent
