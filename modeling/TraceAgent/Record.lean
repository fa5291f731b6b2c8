import TraceAgent.Decimal.Notation
import TraceAgent.Text.Quoted

/-!
# What a span records

* `ServiceType`: the kind of service a span or event belongs to, a 16-bit code with a name. Two
  service types are the same when their codes are (`ServiceType.same`).
* `MethodDescriptor`: the method a span or event stands for: its full name, an api id (default 0)
  and a line (default -1).
* `AttrValue` and `Attr`: a key with a boolean, integer, float or text value. Its display text is
  the value's plain text (`Decimal.Notation.plain` for floats).
* `ExceptionInfo`: an error's message and the messages of its causes, outermost first.
-/

namespace TraceAgent

/-- A service type: a code and its name. -/
structure ServiceType where
  code : Int16
  name : String
  deriving Repr, Inhabited

namespace ServiceType

/-- Not yet known. -/
def undefined : ServiceType := ⟨-1, "UNDEFINED"⟩
/-- Unknown service. -/
def unknown : ServiceType := ⟨1, "UNKNOWN"⟩
/-- User code. -/
def user : ServiceType := ⟨2, "USER"⟩
/-- Work continued on another call chain. -/
def async : ServiceType := ⟨100, "ASYNC"⟩
/-- A standalone entry point. -/
def standAlone : ServiceType := ⟨1000, "STAND_ALONE"⟩
/-- A method inside the application. -/
def internalMethod : ServiceType := ⟨5000, "INTERNAL_METHOD"⟩

/-- The named service types. -/
def named : List ServiceType := [undefined, unknown, user, async, standAlone, internalMethod]

/-- Two service types are the same when their codes are. -/
def same (a b : ServiceType) : Bool := a.code == b.code

/-- The debug form `ServiceType { code: c, name: "n" }`. -/
def debug (s : ServiceType) : String :=
  "ServiceType \x7b code: " ++ toString s.code.toInt ++ ", name: " ++ Text.quote s.name ++ " \x7d"

end ServiceType

/-- A method descriptor. -/
structure MethodDescriptor where
  fullName : String
  apiId : Int32 := 0
  line : Int32 := -1
  deriving Repr, DecidableEq, Inhabited

namespace MethodDescriptor

/-- A descriptor with the default api id and line. -/
def named (name : String) : MethodDescriptor := ⟨name, 0, -1⟩

/-- The debug form `MethodDescriptor("name")`. -/
def debug (m : MethodDescriptor) : String := "MethodDescriptor(" ++ Text.quote m.fullName ++ ")"

end MethodDescriptor

/-- The value of an attribute. -/
inductive AttrValue where
  | bool (b : Bool)
  | int (n : Int64)
  | float (x : Float)
  | text (s : String)
  deriving Inhabited

namespace AttrValue

/-- The display text of a value. -/
def display : AttrValue → String
  | bool b => if b then "true" else "false"
  | int n => toString n.toInt
  | float x => Decimal.Notation.plain x
  | text s => s

/-- The debug form: `Bool(b)`, `I64(n)`, `F64(x)`, `String("s")`. -/
def debug : AttrValue → String
  | bool b => "Bool(" ++ (if b then "true" else "false") ++ ")"
  | int n => "I64(" ++ toString n.toInt ++ ")"
  | float x => "F64(" ++ Decimal.Notation.general x ++ ")"
  | text s => "String(" ++ Text.quote s ++ ")"

end AttrValue

/-- A recorded attribute. -/
structure Attr where
  key : String
  value : AttrValue
  deriving Inhabited

/-- An error's message and the messages of its causes. -/
structure ExceptionInfo where
  message : String
  causes : List String
  deriving Repr, DecidableEq, Inhabited

namespace ExceptionInfo

/-- The debug form `ExceptionInfo { message: "m", causes: ["c", …] }`. -/
def debug (e : ExceptionInfo) : String :=
  "ExceptionInfo \x7b message: " ++ Text.quote e.message ++ ", causes: [" ++
    ", ".intercalate (e.causes.map Text.quote) ++ "] \x7d"

end ExceptionInfo

end TraceAgent
