import PatternGuard.Regex.Fault
import PatternGuard.Regex.Node

/-! Patterns are read as `re._parser` reads them, token by token, down to the position that an error
shows. A stack of open groups takes the place of its recursion. Functions that read what follows a
token are handed the source behind that token. -/

namespace PatternGuard.Regex

inductive Token
  | char (c : Char)
  | escape (c : Char)
  | dangling
  deriving DecidableEq, Repr

namespace Token

def width : Token → Nat
  | .char _ => 1
  | .escape _ => 2
  | .dangling => 1

def text : Token → List Char
  | .char c => [c]
  | .escape c => ['\\', c]
  | .dangling => ['\\']

def shown (t : Token) : String := String.ofList t.text

end Token

def tokens : List Char → List Token
  | [] => []
  | '\\' :: c :: cs => .escape c :: tokens cs
  | c :: cs => if c == '\\' then [.dangling] else .char c :: tokens cs

def openings (pattern : List Char) : Nat := (tokens pattern).count (.char '(')

/-- What `re.compile` takes from the interpreter that runs it: the names that `unicodedata.lookup`
knows, and the message of the `RecursionError`, if it raises one. The recursion limit depends on the
stack of the caller; the only law is that a pattern with at most `room` opening parentheses stays
below it. -/
class Interpreter where
  characterNamed? : String → Option Char
  recursionError? : List Char → FlagSet → Option String
  room : Nat
  within_room : ∀ pattern flags, openings pattern ≤ room → recursionError? pattern flags = none

abbrev Interpreter.upTo (room : Nat) (names : List (String × Char)) : Interpreter where
  characterNamed? name := names.lookup name
  recursionError? pattern _ :=
    if openings pattern ≤ room then none
    else some "maximum recursion depth exceeded while calling a Python object"
  room := room
  within_room _ _ h := if_pos h

/-- An interpreter with room for 495 groups that knows no character names. -/
abbrev Interpreter.standard : Interpreter := .upTo 495 []

structure Source where
  total : Nat
  rest : List Token
  deriving Repr

namespace Source

def width (s : Source) : Nat := s.rest.foldl (fun n t => n + t.width) 0

def position (s : Source) : Nat := s.total - s.width

def fault (s : Source) (cause : Cause) (before : Nat) : Fault :=
  .syntaxAt cause (s.position - before)

def next? (s : Source) : Option Token := s.rest.head?

def nextIs (s : Source) (c : Char) : Bool := s.next? == some (.char c)

def nextChar? (s : Source) : Option Char :=
  match s.next? with
  | some (.char c) => some c
  | _ => none

def settle (s : Source) : Except Fault Source :=
  match s.rest with
  | .dangling :: _ => .error (.syntaxAt .danglingBackslash (s.total - 1))
  | _ => .ok s

def drop (s : Source) : Except Fault Source := settle { s with rest := s.rest.tail }

def take (s : Source) : Except Fault (Option Token × Source) :=
  (s.drop).map fun after => (s.next?, after)

def accept (s : Source) (c : Char) : Except Fault (Bool × Source) :=
  if s.nextIs c then (s.drop).map fun after => (true, after) else .ok (false, s)

def takeWhile (s : Source) (p : Char → Bool) : Nat → Except Fault (List Char × Source)
  | 0 => .ok ([], s)
  | count + 1 =>
    match s.nextChar? with
    | some c =>
      if p c then do
        let after ← s.drop
        let (cs, last) ← after.takeWhile p count
        pure (c :: cs, last)
      else .ok ([], s)
    | none => .ok ([], s)

def readUntil (what : String) (terminator : Char) (seen : List Char) :
    Nat → Source → Except Fault (List Char × Source)
  | 0, s => .error (s.fault (.missing what) 0)
  | fuel + 1, s => do
    let (t, after) ← s.take
    match t with
    | none =>
      if seen.isEmpty then .error (after.fault (.missing what) 0)
      else .error (after.fault (.unterminatedName (String.singleton terminator)) seen.length)
    | some t =>
      if t == .char terminator then
        if seen.isEmpty then .error (after.fault (.missing what) 1) else pure (seen, after)
      else Source.readUntil what terminator (seen ++ t.text) fuel after

def name (s : Source) (what : String) (terminator : Char) : Except Fault (List Char × Source) :=
  Source.readUntil what terminator [] (s.rest.length + 1) s

end Source

/-- Entry `n` of `widths` is the width of group `n` once it is closed; group zero is the whole
pattern. `lookbehind` is the number of groups before a look-behind, inside of it, and `awaited` are
the groups that conditions test, with the first place of each. -/
structure Groups where
  widths : Array (Option Width)
  names : List (String × Nat)
  lookbehind : Option Nat
  awaited : List (Nat × Nat)
  deriving Repr

namespace Groups

def limit : Nat := 1073741823

def none : Groups := ⟨#[.none], [], .none, []⟩

def count (g : Groups) : Nat := g.widths.size

def isClosed (g : Groups) (n : Nat) : Bool := (g.widths.getD n .none).isSome

def opened (g : Groups) : Groups := { g with widths := g.widths.push .none }

def close (g : Groups) (n : Nat) (w : Width) : Groups :=
  { g with widths := g.widths.setIfInBounds n (some w) }

def name (g : Groups) (name : String) (n : Nat) : Groups :=
  { g with names := g.names ++ [(name, n)] }

def await (g : Groups) (n position : Nat) : Groups :=
  if (g.awaited.lookup n).isSome then g else { g with awaited := g.awaited ++ [(n, position)] }

def checkLookbehind (g : Groups) (n : Nat) (s : Source) : Except Fault Unit :=
  match g.lookbehind with
  | .none => .ok ()
  | some before =>
    if !g.isClosed n then .error (s.fault .openGroup 0)
    else if before ≤ n then .error (s.fault .lookbehindGroup 0)
    else .ok ()

def width (g : Groups) (n : Nat) : Width := (g.widths.getD n .none).getD .zero

end Groups

def groupedDigits : List Char → Option (List Char)
  | [] => .none
  | [c] => if Number.isDigit c then some [c] else .none
  | c :: '_' :: cs => if Number.isDigit c then (groupedDigits cs).map (c :: ·) else .none
  | c :: cs => if Number.isDigit c then (groupedDigits cs).map (c :: ·) else .none

def plainDigits (cs : List Char) : List Char :=
  if cs.all (·.toNat < 0x80) then cs
  else
    cs.map fun c =>
      if c.toNat < 0x7f then c
      else if Unicode.isBlank c.toNat then ' '
      else
        match Unicode.decimalValue? c.toNat with
        | some d => Number.digitChar d
        | .none => '?'

/-- `int` of a text. -/
def wholeNumber? (cs : List Char) : Option Int :=
  let blank (c : Char) := Unicode.isAsciiBlank c.toNat
  let body := (((plainDigits cs).dropWhile blank).reverse.dropWhile blank).reverse
  let (negative, digits) :=
    match body with
    | '-' :: r => (true, r)
    | '+' :: r => (false, r)
    | r => (false, r)
  match groupedDigits digits with
  | some ds =>
    if digitLimit < ds.length then .none
    else
      let n : Int := Number.natValue ds
      some (if negative then -n else n)
  | .none => .none

end PatternGuard.Regex
