import TraceAgent.Error
import TraceAgent.Decimal.Read

/-!
# Transaction ids

A transaction is named by the agent that started it, the agent's start time and a sequence number,
written `agent^start^sequence`. The agent part may itself hold `^`: reading splits at the last two
`^` only.

Main statements:

* `TransactionId.ofString?` reads the text form; it fails with `invalidTransactionId` on a text
  without two `^`, with an empty agent part, or with a number part that is not an unsigned 64-bit
  decimal (an optional `+`, then digits).
* `TransactionId.display` writes it.
-/

namespace TraceAgent

/-- The separator of the parts of a transaction id. -/
def transactionSeparator : Char := '^'

/-- A transaction id. -/
structure TransactionId where
  agentId : String
  startTime : UInt64
  sequence : UInt64
  deriving Repr, DecidableEq, Inhabited

namespace TransactionId

/-- The text form `agent^start^sequence`. -/
def display (t : TransactionId) : String :=
  t.agentId ++ "^" ++ toString t.startTime.toNat ++ "^" ++ toString t.sequence.toNat

/-- The debug form `TransactionId(agent^start^sequence)`. -/
def debug (t : TransactionId) : String := "TransactionId(" ++ t.display ++ ")"

/-- A text split at its last two separators: the part before them, and the two parts after. -/
def splitLastTwo (s : String) : Option (String × String × String) :=
  match (s.toList.splitOn transactionSeparator).reverse with
  | seq :: start :: rest@(_ :: _) =>
    some (String.ofList ([transactionSeparator].intercalate rest.reverse), String.ofList start,
      String.ofList seq)
  | _ => none

/-- Reads `agent^start^sequence`. -/
def ofString? (s : String) : Except TraceError TransactionId :=
  match splitLastTwo s with
  | some (agent, start, seq) =>
    if agent.isEmpty then .error (.invalidTransactionId s)
    else
      match Decimal.readU64 start, Decimal.readU64 seq with
      | some a, some b => .ok ⟨agent, a.toUInt64, b.toUInt64⟩
      | _, _ => .error (.invalidTransactionId s)
  | none => .error (.invalidTransactionId s)

end TransactionId

end TraceAgent
