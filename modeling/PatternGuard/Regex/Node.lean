import PatternGuard.Regex.Flag

namespace PatternGuard.Regex

inductive Category
  | digit
  | space
  | word
  deriving DecidableEq, Repr

inductive SetItem
  | char (c : Nat)
  | range (low high : Nat)
  | category (k : Category) (negated : Bool)
  deriving DecidableEq, Repr

inductive Anchor
  | lineStart
  | lineEnd
  | textStart
  | textEnd
  | boundary
  | nonBoundary
  deriving DecidableEq, Repr

inductive Greed
  | greedy
  | lazy
  | possessive
  deriving DecidableEq, Repr

/-- The bounds of `getwidth`. -/
structure Width where
  least : Nat
  most : Nat
  deriving DecidableEq, Repr

inductive Node
  | empty
  | seq (first rest : Node)
  | alt (left right : Node)
  | literal (c : Nat)
  | notLiteral (c : Nat)
  | any
  | set (negated : Bool) (items : List SetItem)
  | anchor (a : Anchor)
  | repeated (greed : Greed) (least : Nat) (most : Option Nat) (body : Node)
  | capture (group : Nat) (body : Node)
  | scope (on off : FlagSet) (body : Node)
  | atomic (body : Node)
  | look (back : Option Nat) (negated : Bool) (body : Node)
  | backref (group : Nat) (width : Width)
  | conditional (group : Nat) (yes no : Node)
  deriving DecidableEq, Repr

namespace Width

/-- `MAXREPEAT`. -/
def limit : Nat := 4294967295

def cut (w : Width) : Width := ⟨min w.least (limit - 1), min w.most limit⟩

def zero : Width := ⟨0, 0⟩

def one : Width := ⟨1, 1⟩

def add (v w : Width) : Width := ⟨v.least + w.least, v.most + w.most⟩

def join (v w : Width) : Width := ⟨min v.least w.least, max v.most w.most⟩

def times (w : Width) (least : Nat) : Option Nat → Width
  | some most => ⟨w.least * least, w.most * most⟩
  | none => ⟨w.least * least, w.most * limit⟩

end Width

namespace Node

def width : Node → Width
  | .empty => .zero
  | .seq a b => (a.width.add b.width).cut
  | .alt a b => a.width.join b.width
  | .literal _ => .one
  | .notLiteral _ => .one
  | .any => .one
  | .set .. => .one
  | .anchor _ => .zero
  | .repeated _ least most body => (body.width.times least most).cut
  | .capture _ body => body.width
  | .scope _ _ body => body.width
  | .atomic body => body.width
  | .look .. => .zero
  | .backref _ w => w
  | .conditional _ yes no => yes.width.join no.width

def ofList : List Node → Node
  | [] => .empty
  | n :: ns => .seq n (ofList ns)

def toList : Node → List Node
  | .empty => []
  | .seq a b => a :: b.toList
  | n => [n]

theorem toList_ofList (ns : List Node) : (ofList ns).toList = ns := by
  induction ns with
  | nil => rfl
  | cons n ns ih => simp [ofList, toList, ih]

def ofAlternatives : List Node → Node
  | [] => .empty
  | [n] => n
  | n :: ns => .alt n (ofAlternatives ns)

def isLeaf : Node → Bool
  | .literal _ => true
  | .notLiteral _ => true
  | .any => true
  | .set .. => true
  | .anchor _ => true
  | .backref .. => true
  | _ => false

def isRepeat : Node → Bool
  | .repeated .. => true
  | _ => false

def isAnchor : Node → Bool
  | .anchor _ => true
  | _ => false

/-- Groups that neither capture nor change flags are dissolved. -/
def splice : Node → List Node
  | .scope 0 0 body => body.toList
  | n => [n]

end Node

def distinct : List SetItem → List SetItem → List SetItem
  | _, [] => []
  | seen, x :: xs =>
    if seen.contains x then distinct seen xs else x :: distinct (x :: seen) xs

namespace Alternatives

def commonHead : List (List Node) → Option Node
  | (n :: _) :: more =>
    if n.isLeaf && more.all (fun ns => ns.head? == some n) then some n else none
  | _ => none

def factor : Nat → List (List Node) → List Node × List (List Node)
  | 0, alts => ([], alts)
  | fuel + 1, alts =>
    match commonHead alts with
    | none => ([], alts)
    | some n =>
      let (front, rest) := factor fuel (alts.map List.tail)
      (n :: front, rest)

def setItems? : List Node → Option (List SetItem)
  | [.literal c] => some [.char c]
  | [.set false items] => some items
  | _ => none

/-- What alternatives begin with is moved in front of them, and single characters become one set. -/
def toSequence (alts : List (List Node)) : List Node :=
  match alts with
  | [only] => only
  | _ =>
    let fuel := (alts.head?.map List.length).getD 0
    let (front, rest) := factor fuel alts
    match rest.mapM setItems? with
    | some items => front ++ [.set false (distinct [] items.flatten)]
    | none => front ++ [Node.ofAlternatives (rest.map Node.ofList)]

end Alternatives

end PatternGuard.Regex
