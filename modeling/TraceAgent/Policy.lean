/-!
# Execution policies

A policy decides, from the depth of a reentrancy scope, whether an interceptor runs on the way in
and on the way out:

| policy     | enter at depth `d` | leave at depth `d` |
|------------|--------------------|--------------------|
| `always`   | always             | `d > 0`            |
| `boundary` | `d = 0`            | `d = 1`            |
| `internal` | `d > 0`            | `d > 1`            |

`enter` is asked with the depth before entering and `leave` with the depth before leaving, so a
matched pair sees `d` and `d + 1`: `allowsLeave_succ` says both answers agree.
-/

namespace TraceAgent

/-- When an interceptor runs, by scope depth. -/
inductive ExecutionPolicy where
  | always
  | boundary
  | internal
  deriving Repr, DecidableEq, Inhabited

namespace ExecutionPolicy

/-- Whether the interceptor runs when entering at depth `d` (the depth before entering). -/
def allowsEnter : ExecutionPolicy → Nat → Bool
  | always, _ => true
  | boundary, d => d == 0
  | internal, d => d > 0

/-- Whether the interceptor runs when leaving at depth `d` (the depth before leaving). -/
def allowsLeave : ExecutionPolicy → Nat → Bool
  | always, d => d > 0
  | boundary, d => d == 1
  | internal, d => d > 1

/-- The display name. -/
def display : ExecutionPolicy → String
  | always => "ALWAYS"
  | boundary => "BOUNDARY"
  | internal => "INTERNAL"

/-- The debug name. -/
def debug : ExecutionPolicy → String
  | always => "Always"
  | boundary => "Boundary"
  | internal => "Internal"

/-- The policy of a display name. -/
def ofName? : String → Option ExecutionPolicy
  | "ALWAYS" => some always
  | "BOUNDARY" => some boundary
  | "INTERNAL" => some internal
  | _ => none

/-- Entering at depth `d` and leaving at depth `d + 1` get the same answer. -/
theorem allowsLeave_succ (p : ExecutionPolicy) (d : Nat) : p.allowsLeave (d + 1) = p.allowsEnter d := by
  cases p <;> simp only [allowsLeave, allowsEnter] <;> cases d <;> simp

end ExecutionPolicy

end TraceAgent
