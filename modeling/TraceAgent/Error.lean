import TraceAgent.Text.Quoted

/-!
# Errors

Three families of errors, each a cause with its message in one function:

* `TraceError`: what tracing operations report (a trace already bound, an empty call stack, a closed
  trace, chain storage gone, an unreadable transaction id or header, a full interceptor registry, or
  a message from elsewhere).
* `ExportError`: what span processors report (shut down twice, a timeout, a failure).
* `HookError`: what an interceptor hook reports (a missing argument, a trace error, a message).

The messages are fixed texts; `TraceError.message (.invalidTransactionId s)` quotes `s` as
`Text.quote` does.
-/

namespace TraceAgent

/-- An error of a tracing operation. -/
inductive TraceError where
  | alreadyBound
  | emptyCallStack
  | closed
  | chainUnavailable
  | invalidTransactionId (text : String)
  | invalidHeader (detail : String)
  | registryFull (capacity : Nat)
  | other (text : String)
  deriving Repr, DecidableEq, Inhabited

namespace TraceError

/-- The text of the error. -/
def message : TraceError → String
  | alreadyBound => "a trace is already bound to the current call chain"
  | emptyCallStack => "trace block end called on an empty call stack"
  | closed => "trace is already closed"
  | chainUnavailable => "call chain storage is not available on this thread"
  | invalidTransactionId s => "invalid transaction id: " ++ Text.quote s
  | invalidHeader s => "invalid trace header " ++ s
  | registryFull n => "interceptor registry size " ++ toString n ++ " exceeded"
  | other s => s

/-- The name of the kind of error. -/
def kind : TraceError → String
  | alreadyBound => "AlreadyBound"
  | emptyCallStack => "EmptyCallStack"
  | closed => "Closed"
  | chainUnavailable => "ChainUnavailable"
  | invalidTransactionId _ => "InvalidTransactionId"
  | invalidHeader _ => "InvalidHeader"
  | registryFull _ => "RegistryFull"
  | other _ => "Other"

end TraceError

/-- A span of time in whole milliseconds. -/
structure Millis where
  count : Nat
  deriving Repr, DecidableEq, Inhabited

namespace Millis

/-- The debug text of a duration: `0ns`, `30ms`, `1.5s`, `30s` (seconds with the fraction
digits that are not zero). -/
def text (d : Millis) : String :=
  let ms := d.count
  if ms == 0 then "0ns"
  else if ms < 1000 then toString ms ++ "ms"
  else
    let frac := ms % 1000
    if frac == 0 then toString (ms / 1000) ++ "s"
    else
      let digits := String.ofList (((toString (1000 + frac)).toList.drop 1).reverse.dropWhile (· == '0')).reverse
      toString (ms / 1000) ++ "." ++ digits ++ "s"

end Millis

/-- An error of span export. -/
inductive ExportError where
  | alreadyShutdown
  | timeout (after : Millis)
  | failure (text : String)
  deriving Repr, DecidableEq, Inhabited

namespace ExportError

/-- The text of the error. -/
def message : ExportError → String
  | alreadyShutdown => "Shutdown already invoked"
  | timeout d => "Operation timed out after " ++ d.text
  | failure s => "Operation failed: " ++ s

/-- The name of the kind of error. -/
def kind : ExportError → String
  | alreadyShutdown => "AlreadyShutdown"
  | timeout _ => "Timeout"
  | failure _ => "InternalFailure"

end ExportError

/-- An error returned by an interceptor hook. -/
inductive HookError where
  | missingArgument (index : Nat)
  | trace (e : TraceError)
  | other (text : String)
  deriving Repr, DecidableEq, Inhabited

namespace HookError

/-- The text of the error; a trace error keeps its own text. -/
def message : HookError → String
  | missingArgument n => "argument " ++ toString n ++ " is missing or has an unexpected type"
  | trace e => e.message
  | other s => s

/-- The name of the kind of error; a trace error is named after its own kind. -/
def kind : HookError → String
  | missingArgument _ => "MissingArgument"
  | trace e => "Trace." ++ e.kind
  | other _ => "Other"

end HookError

end TraceAgent
