/-!
# Documents

The requests and answers of the protocol are JSON documents. `Doc` is that data format: a tree of
nulls, booleans, numbers, strings, arrays and objects. Numbers come in three shapes, because the
two directions need different ones: an exact integer, a decimal read from a request
(`mantissa / 10 ^ scale`, so that no digit is lost before a field decides whether it wants an
integer or a float), and a binary float written into an answer.

Main statements: `Doc.field?` finds the first member of an object with a given key, and the
small accessors (`Doc.asString?`, `Doc.asInt?`, ...) read one shape each.
-/

namespace TraceAgent

/-- A JSON document. -/
inductive Doc where
  | null
  | bool (b : Bool)
  | int (n : Int)
  | dec (mantissa : Int) (scale : Nat)
  | float (x : Float)
  | str (s : String)
  | arr (items : List Doc)
  | obj (members : List (String × Doc))
  deriving Inhabited

namespace Doc

/-- The member of an object stored under `key`; the first one wins. -/
def field? (d : Doc) (key : String) : Option Doc :=
  match d with
  | obj members => (members.find? (fun m => m.1 == key)).map Prod.snd
  | _ => none

/-- Whether the document is an object holding `key`. -/
def has (d : Doc) (key : String) : Bool := (d.field? key).isSome

/-- The text of a string document. -/
def asString? : Doc → Option String
  | str s => some s
  | _ => none

/-- The value of a boolean document. -/
def asBool? : Doc → Option Bool
  | bool b => some b
  | _ => none

/-- The value of an integer document; a decimal with a fraction part is no integer. -/
def asInt? : Doc → Option Int
  | int n => some n
  | _ => none

/-- The items of an array document. -/
def asList? : Doc → Option (List Doc)
  | arr items => some items
  | _ => none

/-- The members of an object document. -/
def asMembers? : Doc → Option (List (String × Doc))
  | obj members => some members
  | _ => none

/-- Whether the document is `null`. -/
def isNull : Doc → Bool
  | null => true
  | _ => false

/-- An optional value: `none` becomes `null`. -/
def ofOption {α : Type} (f : α → Doc) : Option α → Doc
  | some a => f a
  | none => null

/-- A natural number as an integer document. -/
def nat (n : Nat) : Doc := int n

mutual

/-- How deeply arrays and objects nest: a scalar has depth 0. -/
def depth : Doc → Nat
  | arr items => depthItems items + 1
  | obj members => depthMembers members + 1
  | _ => 0

/-- The greatest depth among array items. -/
def depthItems : List Doc → Nat
  | [] => 0
  | d :: rest => max d.depth (depthItems rest)

/-- The greatest depth among object members. -/
def depthMembers : List (String × Doc) → Nat
  | [] => 0
  | (_, d) :: rest => max d.depth (depthMembers rest)

end

@[simp] theorem field?_obj_cons (k : String) (v : Doc) (rest : List (String × Doc)) (key : String) :
    (obj ((k, v) :: rest)).field? key = if k == key then some v else (obj rest).field? key := by
  simp only [field?, List.find?_cons]
  split <;> simp_all

end Doc

end TraceAgent
