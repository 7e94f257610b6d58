import PatternGuard.Number

namespace PatternGuard

inductive Reason
  | ok
  | patternTooLong
  | nestedQuantifiers
  | overlappingAlternation
  | catastrophicBacktracking
  | invalidSyntax
  | executionTimeout
  deriving DecidableEq, Repr

namespace Reason

def code : Reason → String
  | .ok => "ok"
  | .patternTooLong => "pattern_too_long"
  | .nestedQuantifiers => "nested_quantifiers"
  | .overlappingAlternation => "overlapping_alternation"
  | .catastrophicBacktracking => "catastrophic_backtracking"
  | .invalidSyntax => "invalid_syntax"
  | .executionTimeout => "execution_timeout"

def all : List Reason :=
  [.ok, .patternTooLong, .nestedQuantifiers, .overlappingAlternation, .catastrophicBacktracking,
    .invalidSyntax, .executionTimeout]

end Reason

end PatternGuard

namespace PatternGuard.Hazard

/-- The dangerous shapes, in the order in which they are looked for: a repeated group that holds an
unbounded quantifier, as in `(a+)+`, a repeated group that holds a bar, as in `(a|ab)*`, a group
with counts, as in `(.*a){20}`, a group that ends in a quantifier and holds another such group, as
in `((a+)b*)`, and two repeated sets side by side, as in `[a-z]+[a-z0-9]*`. -/
inductive Signature
  | nestedQuantifier
  | repeatedAlternation
  | countedGroup
  | deepQuantifier
  | adjacentSets
  deriving DecidableEq, Repr

def isUnbounded (c : Char) : Bool := c == '+' || c == '*'

def anySuffix (test : List Char → Bool) : List Char → Bool
  | [] => test []
  | c :: cs => test (c :: cs) || anySuffix test cs

def upTo (stop : Char) : List Char → Option (List Char × List Char)
  | [] => none
  | c :: cs => if c == stop then some ([], cs) else (upTo stop cs).map fun (a, b) => (c :: a, b)

def startsOpenCount : List Char → Bool
  | '\x7b' :: cs =>
    !(cs.takeWhile (Unicode.isDecimal ·.toNat)).isEmpty
      && (cs.dropWhile (Unicode.isDecimal ·.toNat)).take 2 == [',', '\x7d']
  | _ => false

def startsUnbounded (cs : List Char) : Bool := (cs.head?.any isUnbounded) || startsOpenCount cs

def startsCounts : List Char → Bool
  | '\x7b' :: cs =>
    let inside (c : Char) := (0x30 ≤ c.toNat && c.toNat ≤ 0x39) || c == ','
    !(cs.takeWhile inside).isEmpty && (cs.dropWhile inside).head? == some '\x7d'
  | _ => false

def endsUnbounded (cs : List Char) : Bool := cs.getLast?.any isUnbounded

namespace Signature

def all : List Signature :=
  [.nestedQuantifier, .repeatedAlternation, .countedGroup, .deepQuantifier, .adjacentSets]

/-- The regular expression of the signature matches at the start. -/
def startsIn (sig : Signature) : List Char → Bool
  | [] => false
  | c :: cs =>
    match sig with
    | .nestedQuantifier =>
      c == '(' && (upTo ')' cs).any fun (body, rest) =>
        anySuffix startsUnbounded body && rest.head?.any isUnbounded
    | .repeatedAlternation =>
      c == '(' && (upTo ')' cs).any fun (body, rest) =>
        body.contains '|' && rest.head?.any isUnbounded
    | .countedGroup =>
      c == '(' && (upTo ')' cs).any fun (body, rest) => !body.isEmpty && startsCounts rest
    | .deepQuantifier =>
      c == '(' && (upTo ')' cs).any fun (body, rest) =>
        body.contains '(' && endsUnbounded body
          && (upTo ')' rest).any fun (more, _) => endsUnbounded more
    | .adjacentSets =>
      c == '[' && (upTo ']' cs).any fun (first, rest) =>
        !first.isEmpty &&
          match rest with
          | q :: '[' :: more =>
            isUnbounded q && (upTo ']' more).any fun (second, rest) =>
              !second.isEmpty && rest.head?.any isUnbounded
          | _ => false

def occursIn (sig : Signature) (pattern : List Char) : Bool := anySuffix sig.startsIn pattern

def reason : Signature → Reason
  | .nestedQuantifier => .nestedQuantifiers
  | .repeatedAlternation => .overlappingAlternation
  | .countedGroup => .catastrophicBacktracking
  | .deepQuantifier => .nestedQuantifiers
  | .adjacentSets => .catastrophicBacktracking

def message : Signature → String
  | .nestedQuantifier =>
    "Pattern contains nested quantifiers which can cause exponential backtracking"
  | .repeatedAlternation =>
    "Pattern contains alternation with quantifier which may cause backtracking"
  | .countedGroup => "Pattern contains repeated group which may cause backtracking"
  | .deepQuantifier => "Pattern contains deeply nested quantifiers"
  | .adjacentSets => "Pattern contains overlapping character classes with quantifiers"

def first? (pattern : List Char) : Option Signature := all.find? (·.occursIn pattern)

end Signature

def quantifiers : List Char := ['*', '+', '?']

structure Scan where
  depth : Nat
  deepest : Nat
  escaped : Bool
  deriving DecidableEq, Repr

namespace Scan

def start : Scan := ⟨0, 0, false⟩

def step (s : Scan) (c : Char) : Scan :=
  let escaped := c == '\\'
  if s.escaped then { s with escaped := escaped }
  else if c == '(' then { s with depth := s.depth + 1, escaped := escaped }
  else if c == ')' then { s with depth := s.depth - 1, escaped := escaped }
  else if quantifiers.contains c && 0 < s.depth then
    { s with deepest := max s.deepest s.depth, escaped := escaped }
  else { s with escaped := escaped }

end Scan

/-- The depth of the deepest unescaped quantifier in a group. A parenthesis that closes nothing
counts for nothing. -/
def nesting (pattern : List Char) : Nat := (pattern.foldl Scan.step .start).deepest

def deepestAllowed : Nat := 2

inductive Verdict
  | clear
  | flagged (reason : Reason) (message : String)
  deriving DecidableEq, Repr

namespace Verdict

def isClear : Verdict → Bool
  | .clear => true
  | .flagged .. => false

def reason : Verdict → Reason
  | .clear => .ok
  | .flagged r _ => r

def message? : Verdict → Option String
  | .clear => none
  | .flagged _ m => some m

end Verdict

def depthMessage (depth : Nat) : String :=
  "Pattern has excessive quantifier nesting depth (" ++ Number.natString depth ++ ")"

def analyze (pattern : List Char) : Verdict :=
  match Signature.first? pattern with
  | some sig => .flagged sig.reason sig.message
  | none =>
    let depth := nesting pattern
    if deepestAllowed < depth then .flagged .nestedQuantifiers (depthMessage depth) else .clear

def repeats (c : Char) : Bool := c == '+' || c == '*' || c == '?' || c == '\x7b'

def isParenthesis (c : Char) : Bool := c == '(' || c == ')'

def startsAdjacency : List Char → Bool
  | ']' :: q :: '[' :: _ => isUnbounded q
  | _ => false

def isAnchoredText : List Char → Bool
  | '^' :: cs =>
    let body := cs.dropLast
    cs.getLast? == some '$' && !body.isEmpty
      && body.all fun c => !(c == '+' || c == '*' || c == '?' || isParenthesis c)
  | _ => false

/-- `quick_safety_check`: nothing repeats, or there are no groups and no adjacent repeated sets, or
the pattern is a plain text between anchors. -/
def quickCheck (pattern : List Char) : Bool :=
  !pattern.any repeats
    || (!pattern.any isParenthesis && !anySuffix startsAdjacency pattern)
    || isAnchoredText pattern

end PatternGuard.Hazard
