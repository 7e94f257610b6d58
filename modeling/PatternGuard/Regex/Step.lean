import PatternGuard.Regex.Node
import PatternGuard.Unicode.Case

namespace PatternGuard.Regex

structure Folding where
  lower : Nat → Nat
  isCased : Nat → Bool
  shared : Nat → List Nat
  anyCased : Nat → Nat → Bool
  sources : Nat → List Nat

namespace Folding

def ascii : Folding where
  lower := Unicode.asciiLower
  isCased := Unicode.isAsciiLetter
  shared _ := []
  anyCased lo hi := (lo ≤ 0x5a && 0x41 ≤ hi) || (lo ≤ 0x7a && 0x61 ≤ hi)
  sources c :=
    (if Unicode.asciiLower c == c then [c] else [])
      ++ (if 0x61 ≤ c && c ≤ 0x7a then [c - 0x20] else [])

def unicode : Folding where
  lower := Unicode.lower
  isCased := Unicode.isCased
  shared := Unicode.sharedUpper
  anyCased := Unicode.anyCased
  sources := Unicode.loweredTo

def matchesLower (f : Folding) (c l : Nat) : Bool :=
  l == f.lower c || (f.shared (f.lower c)).contains l

def same (f : Folding) (c x : Nat) : Bool :=
  if f.isCased c then f.matchesLower c (f.lower x) else x == c

def rangeMatches (f : Folding) (lo hi l : Nat) : Bool :=
  (l :: f.shared l).any fun m => (f.sources m).any fun c => lo ≤ c && c ≤ hi

end Folding

namespace Mode

def folding (m : Mode) : Folding := if m.unicode then .unicode else .ascii

def isLiteral (m : Mode) (c x : Nat) : Bool :=
  if m.ignoreCase then m.folding.same c x else x == c

end Mode

def Category.contains (k : Category) (unicode : Bool) (c : Nat) : Bool :=
  match k with
  | .digit => if unicode then Unicode.isDecimal c else Unicode.isAsciiDigit c
  | .space => if unicode then Unicode.isBlank c else Unicode.isAsciiBlank c
  | .word =>
    if unicode then Unicode.isWord c
    else c == 0x5f || Unicode.isAsciiLetter c || Unicode.isAsciiDigit c

def basicLast : Nat := 0xffff

namespace SetItem

def contains (unicode : Bool) (c : Nat) : SetItem → Bool
  | .char d => c == d
  | .range lo hi => lo ≤ c && c ≤ hi
  | .category k negated => k.contains unicode c != negated

def folds (f : Folding) : SetItem → Bool
  | .char d => basicLast < d || f.isCased d
  | .range lo hi => basicLast < hi || f.anyCased lo hi
  | .category .. => false

/-- Past the basic plane a character of the set is compared unfolded, and a range is also tried with
the uppercase form of the subject. -/
def containsFolded (f : Folding) (unicode : Bool) (l : Nat) : SetItem → Bool
  | .char d => if basicLast < d then l == d else f.matchesLower d l
  | .range lo hi =>
    f.rangeMatches lo (min hi basicLast) l
      || (basicLast < hi
        && ((lo ≤ l && l ≤ hi) || (lo ≤ Unicode.upper l && Unicode.upper l ≤ hi)))
  | .category k negated => k.contains unicode l != negated

end SetItem

def plainSet (unicode negated : Bool) (items : List SetItem) (c : Nat) : Bool :=
  items.any (·.contains unicode c) != negated

def Mode.foldsSet (m : Mode) (items : List SetItem) : Bool :=
  m.ignoreCase && items.any (·.folds m.folding)

def Mode.inFoldedSet (m : Mode) (negated : Bool) (items : List SetItem) (c : Nat) : Bool :=
  let l := m.folding.lower c
  items.any (·.containsFolded m.folding m.unicode l) != negated

def Mode.inSet (m : Mode) (negated : Bool) (items : List SetItem) (c : Nat) : Bool :=
  if m.foldsSet items then m.inFoldedSet negated items c else plainSet m.unicode negated items c

/-- An expression that takes one character. If it `drags`, counting a row of them moves the cursor
to the end of the row. -/
structure CharStep where
  takes : Nat → Bool
  drags : Bool

namespace Mode

def isExact (m : Mode) (c : Nat) : Bool := !(m.ignoreCase && m.folding.isCased c)

def isShared (m : Mode) (c : Nat) : Bool :=
  !m.isExact c && !(m.folding.shared (m.folding.lower c)).isEmpty

end Mode

namespace Node

def charStep? (m : Mode) : Node → Option CharStep
  | .literal c => some ⟨m.isLiteral c, m.isShared c⟩
  | .notLiteral c => some ⟨fun x => !m.isLiteral c x, m.isShared c⟩
  | .any => some ⟨fun x => m.dotAll || x != 0x0a, false⟩
  | .set negated items =>
    if m.foldsSet items then some ⟨m.inFoldedSet negated items, true⟩
    else some ⟨plainSet m.unicode negated items, false⟩
  | .seq a .empty => a.charStep? m
  | .scope on off body => body.charStep? (m.enter on off)
  | _ => none

def firstStep (m : Mode) : Node → Option (Mode × Node)
  | .empty => none
  | .seq a b =>
    match a.firstStep m with
    | some step => some step
    | none => b.firstStep m
  | .scope on off body => body.firstStep (m.enter on off)
  | n => some (m, n)

/-- The literal that `n` begins with, or what follows if `n` is empty; `none` if it begins with
anything else. -/
def opening (m : Mode) (following : Option Nat) (n : Node) : Option Nat :=
  match n.firstStep m with
  | none => following
  | some (m, .literal c) => if m.isExact c then some c else none
  | some _ => none

def admits (m : Mode) (c : Option Char) (n : Node) : Bool :=
  match n.firstStep m with
  | some (m, .literal d) => !m.isExact d || c.any (·.toNat == d)
  | some (m, .set negated items) =>
    m.foldsSet items || c.any (plainSet m.unicode negated items ·.toNat)
  | _ => true

def isAlt : Node → Bool
  | .alt .. => true
  | _ => false

end Node

end PatternGuard.Regex
