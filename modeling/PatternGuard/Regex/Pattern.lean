import PatternGuard.Regex.Reader
import PatternGuard.Regex.Run

namespace PatternGuard.Regex

def SetItem.isCased (m : Mode) : SetItem → Bool
  | .char c => m.folding.isCased c
  | .range lo hi => basicLast < hi || m.folding.anyCased lo hi
  | .category .. => false

namespace Node

def leadingLiteral? (m : Mode) : Node → Option (Option Nat)
  | .empty => none
  | .seq a b =>
    match a.leadingLiteral? m with
    | some lead => some lead
    | none => b.leadingLiteral? m
  | .literal c => some (if m.isExact c then some c else none)
  | .capture _ body => body.leadingLiteral? m
  | .scope on off body => body.leadingLiteral? (m.enter on off)
  | _ => some none

def leadingChars? (m : Mode) : Node → Option (List SetItem)
  | .alt a b =>
    match a.leadingChars? m, b.leadingChars? m with
    | some xs, some ys => some (xs ++ ys)
    | _, _ => none
  | .seq (.literal c) _ => if m.isExact c then some [.char c] else none
  | _ => none

def leadingSet? (m : Mode) : Node → Option (Bool × List SetItem)
  | .seq a _ => a.leadingSet? m
  | .set negated items =>
    if m.ignoreCase && items.any (·.isCased m) then none else some (negated, items)
  | .alt a b => (leadingChars? m (.alt a b)).map fun items => (false, items)
  | .capture _ body => body.leadingSet? m
  | .scope on off body => body.leadingSet? (m.enter on off)
  | _ => none

def leadingTest? (m : Mode) (n : Node) : Option (Nat → Bool) :=
  match n.leadingLiteral? m with
  | some (some c) => some (· == c)
  | _ => (n.leadingSet? m).map fun (negated, items) => plainSet m.unicode negated items

/-- The places that the search tries: all, or those whose character passes the test of the
prefix. -/
def starts (m : Mode) (s : Subject) (n : Node) : List Nat :=
  let least := n.width.least
  if s.size < least then []
  else if least == 0 then List.range (s.size + 1)
  else
    match n.leadingTest? m with
    | some test => (List.range s.size).filter fun i => s[i]?.any (test ·.toNat)
    | none => List.range (s.size + 2 - least)

end Node

structure Pattern where
  source : String
  flags : FlagSet
  groups : Nat
  names : List (String × Nat)
  node : Node

def Greed.operator : Greed → String
  | .greedy => "MAX_REPEAT"
  | .lazy => "MIN_REPEAT"
  | .possessive => "POSSESSIVE_REPEAT"

/-- Look-behinds have one width, and templates no repeats. -/
def Node.check (template : Bool) : Node → Except Objection Unit
  | .seq a b => do
    a.check template
    b.check template
  | .alt a b => do
    a.check template
    b.check template
  | .repeated g _ _ body =>
    if template then .error (.template g.operator) else body.check template
  | .capture _ body => body.check template
  | .scope _ _ body => body.check template
  | .atomic body => body.check template
  | .look back _ body =>
    if back.isSome && body.width.least != body.width.most then .error .lookbehindWidth
    else body.check template
  | .conditional _ yes no => do
    yes.check template
    no.check template
  | _ => .ok ()

/-- No look-behind goes back farther than a C `int` counts. -/
def Node.fitsWord : Node → Bool
  | .seq a b => a.fitsWord && b.fitsWord
  | .alt a b => a.fitsWord && b.fitsWord
  | .repeated _ _ _ body => body.fitsWord
  | .capture _ body => body.fitsWord
  | .scope _ _ body => body.fitsWord
  | .atomic body => body.fitsWord
  | .look back _ body => back.all (· < Nat.pow 2 31) && body.fitsWord
  | .conditional _ yes no => yes.fitsWord && no.fitsWord
  | _ => true

namespace Pattern

def ofExpression (source : String) (flags : FlagSet) (e : Expression) : Except Fault Pattern :=
  match e.node.check (e.flags.has .template) with
  | .error o => .error (.objection o)
  | .ok _ =>
    let all := flags.union e.flags
    if !all.fitsWord then .error .hugeWord
    else if !e.node.fitsWord then .error .farLookbehind
    else .ok ⟨source, all, e.groups, e.names, e.node⟩

def compile [Interpreter] (source : String) (flags : FlagSet) : Except Fault Pattern :=
  match Interpreter.recursionError? source.toList flags with
  | some message => .error (.tooDeep message)
  | none => do
    let e ← Expression.read source.toList flags
    ofExpression source flags e

section Compile

variable [Interpreter] {source : String} {flags : FlagSet}

theorem compile_of_recursionError {message : String}
    (h : Interpreter.recursionError? source.toList flags = some message) :
    compile source flags = .error (.tooDeep message) := by
  rw [compile, h]

theorem compile_of_within (h : Interpreter.recursionError? source.toList flags = none) :
    compile source flags = Expression.read source.toList flags >>= ofExpression source flags := by
  rw [compile, h]

theorem within_of_compile {p : Pattern} (h : compile source flags = .ok p) :
    Interpreter.recursionError? source.toList flags = none := by
  cases hlimit : Interpreter.recursionError? source.toList flags with
  | none => rfl
  | some message =>
    rw [compile_of_recursionError hlimit] at h
    cases h

end Compile

def mode (p : Pattern) : Mode := .ofFlags p.flags

def matchAt (p : Pattern) (s : Subject) (i : Nat) : Option Trail :=
  (p.node.run s ⟨p.mode, false, none⟩ i (.start i) .stop).found?

def find? (p : Pattern) (text : String) : Option Trail :=
  let s := text.toList.toArray
  (p.node.starts p.mode s).findSome? (p.matchAt s)

/-- `search(text) is not None`. A match with a reversed group is a `SystemError`. -/
def search (p : Pattern) (text : String) : Except Fault Bool :=
  match p.find? text with
  | some t =>
    if (List.range p.groups).any fun g => t.isReversed (g + 1) then .error .reversedGroup
    else .ok true
  | none => .ok false

end Pattern

end PatternGuard.Regex
