import PatternGuard.Regex.Source

namespace PatternGuard.Regex

def isOctalDigit (c : Char) : Bool := 0x30 ≤ c.toNat && c.toNat ≤ 0x37

def isHexDigit (c : Char) : Bool := (Number.hexValue? c).isSome

def valueIn (base : Nat) (ds : List Char) : Nat :=
  ds.foldl (fun n d => base * n + (Number.hexValue? d).getD 0) 0

def spelled (c : Char) (more : List Char) : String := String.ofList ('\\' :: c :: more)

def controlEscape? : Char → Option Nat
  | 'a' => some 7
  | 'b' => some 8
  | 'f' => some 12
  | 'n' => some 10
  | 'r' => some 13
  | 't' => some 9
  | 'v' => some 11
  | '\\' => some 0x5c
  | _ => none

def categoryEscape? : Char → Option (Category × Bool)
  | 'd' => some (.digit, false)
  | 'D' => some (.digit, true)
  | 's' => some (.space, false)
  | 'S' => some (.space, true)
  | 'w' => some (.word, false)
  | 'W' => some (.word, true)
  | _ => none

def anchorEscape? : Char → Option Anchor
  | 'A' => some .textStart
  | 'b' => some .boundary
  | 'B' => some .nonBoundary
  | 'Z' => some .textEnd
  | _ => none

def hexCode (c : Char) (count : Nat) (s : Source) : Except Fault (Nat × Source) := do
  let (ds, after) ← s.takeWhile isHexDigit count
  if ds.length != count then
    .error (after.fault (.incompleteEscape (spelled c ds)) (2 + ds.length))
  else
    let n := valueIn 16 ds
    if 0x7fffffff < n then .error .hugeWord
    else if 0x10ffff < n then .error (after.fault (.badEscape (spelled c ds)) (2 + ds.length))
    else pure (n, after)

variable [Interpreter]

def namedCode (s : Source) : Except Fault (Nat × Source) := do
  let (found, opened) ← s.accept '\x7b'
  if !found then .error (opened.fault (.missing "\x7b") 0)
  else
    let (name, after) ← opened.name "character name" '\x7d'
    match Interpreter.characterNamed? (String.ofList name) with
    | some c => pure (c.toNat, after)
    | none => .error (after.fault (.undefinedName (String.ofList name)) (name.length + 4))

def codeEscape? (c : Char) (s : Source) : Option (Except Fault (Nat × Source)) :=
  match c with
  | 'x' => some (hexCode c 2 s)
  | 'u' => some (hexCode c 4 s)
  | 'U' => some (hexCode c 8 s)
  | 'N' => some (namedCode s)
  | _ => none

def plainEscape (c : Char) (s : Source) : Except Fault (Nat × Source) :=
  if Unicode.isAsciiLetter c.toNat || Unicode.isAsciiDigit c.toNat then
    .error (s.fault (.badEscape (spelled c [])) 2)
  else .ok (c.toNat, s)

def octalCode (c : Char) (ds : List Char) (s : Source) : Except Fault (Nat × Source) :=
  let n := valueIn 8 (c :: ds)
  if 0o377 < n then .error (s.fault (.octalTooLarge (spelled c ds)) (2 + ds.length))
  else .ok (n, s)

/-- `_class_escape`. -/
def setEscape (c : Char) (s : Source) : Except Fault (SetItem × Source) :=
  match controlEscape? c, categoryEscape? c with
  | some n, _ => .ok (.char n, s)
  | none, some (k, negated) => .ok (.category k negated, s)
  | none, none => do
    let (n, after) ←
      match codeEscape? c s with
      | some r => r
      | none =>
        if isOctalDigit c then do
          let (ds, after) ← s.takeWhile isOctalDigit 2
          octalCode c ds after
        else plainEscape c s
    pure (.char n, after)

def numberedReference (g : Groups) (ds : List Char) (s : Source) : Except Fault (Node × Source) :=
  let n := Number.natValue ds
  if g.count ≤ n then .error (s.fault (.unknownReference n) ds.length)
  else if !g.isClosed n then .error (s.fault .openGroup (1 + ds.length))
  else do
    g.checkLookbehind n s
    pure (.backref n (g.width n), s)

def digitEscape (g : Groups) (c : Char) (s : Source) : Except Fault (Node × Source) := do
  let (more, after) ← s.takeWhile Number.isDigit 1
  match more with
  | [] => numberedReference g [c] after
  | d :: _ =>
    if isOctalDigit c && isOctalDigit d then
      let (last, final) ← after.takeWhile isOctalDigit 1
      match last with
      | [] => numberedReference g [c, d] final
      | e :: _ =>
        let (n, final) ← octalCode c [d, e] final
        pure (.literal n, final)
    else numberedReference g [c, d] after

/-- `_escape`. -/
def nodeEscape (g : Groups) (c : Char) (s : Source) : Except Fault (Node × Source) :=
  match anchorEscape? c, categoryEscape? c, controlEscape? c with
  | some a, _, _ => .ok (.anchor a, s)
  | none, some (k, negated), _ => .ok (.set false [.category k negated], s)
  | none, none, some n => .ok (.literal n, s)
  | none, none, none =>
    match codeEscape? c s with
    | some r => r.map fun (n, after) => (.literal n, after)
    | none =>
      if c == '0' then do
        let (ds, after) ← s.takeWhile isOctalDigit 2
        pure (.literal (valueIn 8 ds), after)
      else if Number.isDigit c then digitEscape g c s
      else (plainEscape c s).map fun (n, after) => (.literal n, after)

namespace Bracket

def member (t : Token) (s : Source) : Except Fault (SetItem × Source) :=
  match t with
  | .char c => .ok (.char c.toNat, s)
  | .escape c => setEscape c s
  | .dangling => .ok (.char 0x5c, s)

def range (low high : Token) (a b : SetItem) (s : Source) : Except Fault SetItem :=
  let refuse : Except Fault SetItem :=
    .error (s.fault (.badRange low.shown high.shown) (low.width + 1 + high.width))
  match a, b with
  | .char m, .char n => if n < m then refuse else .ok (.range m n)
  | _, _ => refuse

def members (start : Nat) : Nat → List SetItem → Source → Except Fault (List SetItem × Source)
  | 0, _, _ => .error (.syntaxAt .unterminatedSet start)
  | fuel + 1, seen, s => do
    let (t, after) ← s.take
    match t with
    | none => .error (.syntaxAt .unterminatedSet start)
    | some t =>
      if t == .char ']' && !seen.isEmpty then pure (seen, after)
      else
        let (a, after) ← member t after
        let (hyphen, after) ← after.accept '-'
        if !hyphen then members start fuel (a :: seen) after
        else
          let (u, after) ← after.take
          match u with
          | none => .error (.syntaxAt .unterminatedSet start)
          | some u =>
            if u == .char ']' then pure (.char 0x2d :: a :: seen, after)
            else
              let (b, after) ← member u after
              let r ← range t u a b after
              members start fuel (r :: seen) after

def toNode (negated : Bool) (items : List SetItem) : Node :=
  match distinct [] items with
  | [.char c] => if negated then .notLiteral c else .literal c
  | items => .set negated items

def read (start : Nat) (s : Source) : Except Fault (Node × Source) := do
  let (negated, after) ← s.accept '^'
  let (items, after) ← members start (after.rest.length + 1) [] after
  pure (toNode negated items.reverse, after)

end Bracket

end PatternGuard.Regex
