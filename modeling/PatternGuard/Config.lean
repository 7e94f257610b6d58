import PatternGuard.Value

/-! `SafeRegexConfig`, its validation by pydantic in lax mode, and `merge_config`. -/

namespace PatternGuard

/-- A callback is known by a number; `failure` is the exception that it raises, if it does. -/
structure Callback where
  id : Nat
  failure : Option Fault
  deriving DecidableEq, Repr

inductive Hook
  | onBlock
  | onWarning
  deriving DecidableEq, Repr

def Hook.key : Hook → String
  | .onBlock => "on_block"
  | .onWarning => "on_warning"

/-- Errors of pydantic, with their types as codes. -/
inductive Problem
  | notPositive
  | fractional
  | unparsable
  | tooLarge
  | notFinite
  | notWhole
  | notCallable
  | unknownKey
  | frozen
  deriving DecidableEq, Repr

namespace Problem

def code : Problem → String
  | .notPositive => "greater_than"
  | .fractional => "int_from_float"
  | .unparsable => "int_parsing"
  | .tooLarge => "int_parsing_size"
  | .notFinite => "finite_number"
  | .notWhole => "int_type"
  | .notCallable => "callable_type"
  | .unknownKey => "extra_forbidden"
  | .frozen => "frozen_instance"

def message : Problem → String
  | .notPositive => "Input should be greater than 0"
  | .fractional => "Input should be a valid integer, got a number with a fractional part"
  | .unparsable => "Input should be a valid integer, unable to parse string as an integer"
  | .tooLarge => "Unable to parse input string as an integer, exceeded maximum size"
  | .notFinite => "Input should be a finite number"
  | .notWhole => "Input should be a valid integer"
  | .notCallable => "Input should be callable"
  | .unknownKey => "Extra inputs are not permitted"
  | .frozen => "Instance is frozen"

end Problem

structure Issue where
  key : String
  problem : Problem
  deriving DecidableEq, Repr

/-- What is handed in for a field. `whole` coerces it to `int`, `limit` does so under `gt=0`, and
`hook` to an optional callback, all as pydantic does in lax mode. -/
inductive Setting
  | value (v : Value)
  | callback (c : Callback)

namespace Setting

def isPadding (c : Char) : Bool :=
  Unicode.isAsciiBlank c.toNat || Unicode.blankTable.contains c.toNat

def trim (cs : List Char) : List Char :=
  ((cs.dropWhile isPadding).reverse.dropWhile isPadding).reverse

def longest : Nat := 4300

def readSpelled (cs : List Char) : Except Problem Int :=
  match Number.Spelled.clean? (trim cs) with
  | none => .error .unparsable
  | some ds =>
    if longest < ds.length then .error .tooLarge
    else
      match Number.Spelled.value? ds with
      | some n => .ok n
      | none => .error .unparsable

def ofWhole : Number.Whole → Except Problem Int
  | .exactly n => .ok n
  | .fractional => .error .fractional
  | .notFinite => .error .notFinite

def ofFloat (x : Float) : Except Problem Int := do
  let n ← ofWhole (Number.Binary.ofFloat x).toWhole
  if -Int.pow 2 63 < n && n < Int.pow 2 63 then .ok n else .error .tooLarge

def whole : Setting → Except Problem Int
  | .value (.int n) => .ok n
  | .value (.bool b) => .ok (if b then 1 else 0)
  | .value (.float x) => ofFloat x
  | .value (.decimal d) => ofWhole d.toWhole
  | .value (.text s) => readSpelled s.toList
  | .value (.bytes b) =>
    match String.fromUTF8? ⟨b.toArray⟩ with
    | some s => readSpelled s.toList
    | none => .error .unparsable
  | _ => .error .notWhole

def limit (s : Setting) : Except Problem Nat := do
  let n ← s.whole
  if 0 < n then .ok n.toNat else .error .notPositive

def hook : Setting → Except Problem (Option Callback)
  | .value .null => .ok none
  | .callback c => .ok (some c)
  | _ => .error .notCallable

def isTrue : Setting → Bool
  | .value v => v.isTrue
  | .callback _ => true

def ofLimit (n : Nat) : Setting := .value (.int n)

def ofHook : Option Callback → Setting
  | none => .value .null
  | some c => .callback c

end Setting

structure Config where
  maxLength : Nat
  timeoutMs : Nat
  /-- Advisory: no check enforces it. -/
  maxBacktrackDepth : Nat
  onBlock : Option Callback
  onWarning : Option Callback
  deriving DecidableEq, Repr

namespace Config

def standard : Config := ⟨500, 1000, 100000, none, none⟩

def keys : List String :=
  ["max_length", "timeout_ms", "max_backtrack_depth", "on_block", "on_warning"]

def settings (c : Config) : Keyed Setting :=
  [("max_length", .ofLimit c.maxLength), ("timeout_ms", .ofLimit c.timeoutMs),
    ("max_backtrack_depth", .ofLimit c.maxBacktrackDepth), ("on_block", .ofHook c.onBlock),
    ("on_warning", .ofHook c.onWarning)]

def readKey {α : Type} (es : Keyed Setting) (key : String) (standard : α)
    (read : Setting → Except Problem α) : Except Problem α :=
  match es.get? key with
  | none => .ok standard
  | some s => read s

def issuesAt {α : Type} (key : String) : Except Problem α → List Issue
  | .ok _ => []
  | .error p => [⟨key, p⟩]

def unknownKeys (es : Keyed Setting) : List Issue :=
  (es.keys.filter fun k => !keys.contains k).map fun k => ⟨k, .unknownKey⟩

/-- `model_validate`: absent fields have their defaults, and all errors are reported, those of
fields before those of unknown keys. -/
def ofSettings (es : Keyed Setting) : Except (List Issue) Config :=
  let maxLength := readKey es "max_length" standard.maxLength Setting.limit
  let timeoutMs := readKey es "timeout_ms" standard.timeoutMs Setting.limit
  let depth := readKey es "max_backtrack_depth" standard.maxBacktrackDepth Setting.limit
  let onBlock := readKey es "on_block" standard.onBlock Setting.hook
  let onWarning := readKey es "on_warning" standard.onWarning Setting.hook
  let issues :=
    issuesAt "max_length" maxLength ++ issuesAt "timeout_ms" timeoutMs
      ++ issuesAt "max_backtrack_depth" depth ++ issuesAt "on_block" onBlock
      ++ issuesAt "on_warning" onWarning ++ unknownKeys es
  match issues, maxLength, timeoutMs, depth, onBlock, onWarning with
  | [], .ok a, .ok b, .ok c, .ok d, .ok e => .ok ⟨a, b, c, d, e⟩
  | issues, _, _, _, _, _ => .error issues

def merge (base : Config) (overrides : Keyed Setting) : Except (List Issue) Config :=
  ofSettings (base.settings.update overrides)

def assign (_c : Config) (key : String) : List Issue := [⟨key, .frozen⟩]

end Config

end PatternGuard
