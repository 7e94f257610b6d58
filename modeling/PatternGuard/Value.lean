import PatternGuard.Json
import PatternGuard.Text.Quoted

namespace PatternGuard

/-- Exception classes, as far as they are told apart somewhere: `TypeError`, `AttributeError`,
`TimeoutError`, `ChildProcessError`, `RuntimeError`, `OverflowError`, `ValueError`, `re.error`,
`StopIteration`, errors that cannot be pickled, and those that are no `Exception`, such as
`SystemExit`. Proper subclasses of `StopIteration` are left out: a future takes one, but it leaves
the coroutine as `RuntimeError('coroutine raised StopIteration')`. -/
inductive FaultClass
  | wrongType
  | missingPart
  | timeout
  | lostWorker
  | runtime
  | overflow
  | badValue
  | badPattern
  | exhausted
  | unsendable (name : String)
  | ending (name : String)
  | other (name : String)
  deriving DecidableEq, Repr

structure Fault where
  kind : FaultClass
  message : String
  deriving DecidableEq, Repr

namespace Fault

def wrongType : Fault := ⟨.wrongType, ""⟩

def missingPart : Fault := ⟨.missingPart, ""⟩

def isError (f : Fault) : Bool :=
  match f.kind with
  | .ending _ => false
  | _ => true

/-- What `_search_in_child` sends: an exception that cannot be pickled becomes a `RuntimeError` with
its class and its text. -/
def sent (f : Fault) : Fault :=
  match f.kind with
  | .unsendable name => ⟨.runtime, name ++ ": " ++ f.message⟩
  | _ => f

end Fault

/-- A `dict` with text keys, in the order of insertion. -/
abbrev Keyed (α : Type) := List (String × α)

namespace Keyed

variable {α : Type}

def put (key : String) (v : α) : Keyed α → Keyed α
  | [] => [(key, v)]
  | (k, w) :: es => if k == key then (k, v) :: es else (k, w) :: put key v es

def update (es : Keyed α) : Keyed α → Keyed α
  | [] => es
  | (k, v) :: more => update (put k v es) more

def get? (key : String) (es : Keyed α) : Option α := es.lookup key

def erase (key : String) (es : Keyed α) : Keyed α := es.filter (·.1 != key)

def keys (es : Keyed α) : List String := es.map (·.1)

end Keyed

inductive Scalar
  | null
  | bool (b : Bool)
  | int (n : Int)
  | float (x : Float)
  | text (s : String)
  | bytes (b : List UInt8)
  | decimal (d : Number.Decimal)
  | fault (message : String)

inductive Value
  | scalar (s : Scalar)
  | list (items : List Value)
  | map (entries : List (String × Value))

abbrev Entries := Keyed Value

namespace Value

@[match_pattern] abbrev null : Value := .scalar .null

@[match_pattern] abbrev bool (b : Bool) : Value := .scalar (.bool b)

@[match_pattern] abbrev int (n : Int) : Value := .scalar (.int n)

@[match_pattern] abbrev float (x : Float) : Value := .scalar (.float x)

@[match_pattern] abbrev text (s : String) : Value := .scalar (.text s)

@[match_pattern] abbrev bytes (b : List UInt8) : Value := .scalar (.bytes b)

@[match_pattern] abbrev decimal (d : Number.Decimal) : Value := .scalar (.decimal d)

@[match_pattern] abbrev fault (message : String) : Value := .scalar (.fault message)

end Value

def Scalar.shown : Scalar → String
  | .null => "None"
  | .bool true => "True"
  | .bool false => "False"
  | .int n => Number.intString n
  | .float x => String.ofList (Number.floatText ⟨"inf", "nan"⟩ x)
  | .text s => s
  | .bytes b => Text.quotedBytes b
  | .decimal d => String.ofList d.text
  | .fault message => message

/-- `json.dump` with `default=str`. -/
def Scalar.toJson : Scalar → Json
  | .null => .null
  | .bool b => .bool b
  | .int n => .int n
  | .float x => .float x
  | .text s => .text s
  | .bytes b => .text (Scalar.bytes b).shown
  | .decimal d => .text (Scalar.decimal d).shown
  | .fault message => .text message

mutual

def Value.toJson : Value → Json
  | .scalar s => s.toJson
  | .list items => .array (itemsToJson items)
  | .map entries => .object (entriesToJson entries)

def itemsToJson : List Value → List Json
  | [] => []
  | v :: vs => v.toJson :: itemsToJson vs

def entriesToJson : Entries → List (String × Json)
  | [] => []
  | (k, v) :: es => (k, v.toJson) :: entriesToJson es

end

def Value.size? : Value → Option Nat
  | .text s => some s.length
  | .bytes b => some b.length
  | .list items => some items.length
  | .map entries => some entries.length
  | _ => none

def Value.isNull : Value → Bool
  | .null => true
  | _ => false

/-- `bool` of a value. -/
def Value.isTrue : Value → Bool
  | .null => false
  | .bool b => b
  | .int n => n != 0
  | .float x => !(Number.Binary.ofFloat x).isZero
  | .text s => !s.isEmpty
  | .bytes b => !b.isEmpty
  | .decimal d => !d.isZero
  | .fault _ => true
  | .list items => !items.isEmpty
  | .map entries => !entries.isEmpty

end PatternGuard
