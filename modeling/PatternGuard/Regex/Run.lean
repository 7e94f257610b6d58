import PatternGuard.Regex.Step

/-! Matching as `_sre` does it, with a continuation for what follows. Failed attempts leave marks
and the cursor behind just as they do there, since a later choice may see them. -/

namespace PatternGuard.Regex

/-- The marks of group `g` are at `2 * g - 2` and `2 * g - 1`. The cursor is where the last attempt
stood. -/
structure Trail where
  cursor : Nat
  marks : Array (Option Nat)
  deriving DecidableEq, Repr

namespace Trail

def start (place : Nat) : Trail := ⟨place, #[]⟩

def moveTo (t : Trail) (place : Nat) : Trail := { t with cursor := place }

def setMark (t : Trail) (n place : Nat) : Trail :=
  if n < t.marks.size then { t with marks := t.marks.setIfInBounds n (some place) }
  else
    let unset := Array.replicate (n - t.marks.size) none
    { t with marks := (t.marks ++ unset).push (some place) }

def openGroup (t : Trail) (g place : Nat) : Trail := t.setMark (2 * g - 2) place

def closeGroup (t : Trail) (g place : Nat) : Trail := t.setMark (2 * g - 1) place

def opened? (t : Trail) (g : Nat) : Option Nat := t.marks.getD (2 * g - 2) none

def closed? (t : Trail) (g : Nat) : Option Nat := t.marks.getD (2 * g - 1) none

def group? (t : Trail) (g : Nat) : Option (Nat × Nat) :=
  match t.opened? g, t.closed? g with
  | some a, some b => if a ≤ b then some (a, b) else none
  | _, _ => none

def isReversed (t : Trail) (g : Nat) : Bool :=
  match t.opened? g, t.closed? g with
  | some a, some b => b < a
  | _, _ => false

/-- Unsets the marks that are new since an earlier trail. Others keep what they were set to since,
unless all of them are restored. -/
def undo (whole : Bool) (earlier t : Trail) : Trail :=
  { t with marks := if whole then earlier.marks else t.marks.shrink earlier.marks.size }

end Trail

inductive Attempt
  | found (t : Trail)
  | lost (t : Trail)
  deriving DecidableEq, Repr

namespace Attempt

def found? : Attempt → Option Trail
  | .found t => some t
  | .lost _ => none

def onLoss (f : Trail → Trail) : Attempt → Attempt
  | .found t => .found t
  | .lost t => .lost (f t)

def backTo (place : Nat) (a : Attempt) : Attempt := a.onLoss (·.moveTo place)

end Attempt

abbrev Subject := Array Char

abbrev Continuation := Nat → Trail → Attempt

abbrev Matcher := Nat → Trail → Continuation → Attempt

/-- What an expression stands in. In a repeated one (`inRound`) choices restore all marks, and
`following` is the one character that can come next, if that shows. -/
structure Scene where
  mode : Mode
  inRound : Bool
  following : Option Nat

def Continuation.stop : Continuation := fun i t => .found (t.moveTo i)

def takeChar (s : Subject) (test : Nat → Bool) : Matcher := fun i t k =>
  match s[i]? with
  | some c => if test c.toNat then k (i + 1) t else .lost t
  | none => .lost t

def isWordAt (s : Subject) (unicode : Bool) (i : Nat) : Bool :=
  match s[i]? with
  | some c => Category.word.contains unicode c.toNat
  | none => false

def atBoundary (s : Subject) (unicode : Bool) (i : Nat) : Bool :=
  (i != 0 && isWordAt s unicode (i - 1)) != isWordAt s unicode i

def Anchor.holds (s : Subject) (m : Mode) (i : Nat) : Anchor → Bool
  | .lineStart => i == 0 || (m.multiline && s[i - 1]? == some '\n')
  | .lineEnd =>
    i == s.size || (s[i]? == some '\n' && (m.multiline || i + 1 == s.size))
  | .textStart => i == 0
  | .textEnd => i == s.size
  | .boundary => s.size != 0 && atBoundary s m.unicode i
  | .nonBoundary => s.size != 0 && !atBoundary s m.unicode i

def sameText (s : Subject) (m : Mode) (a b i : Nat) : Bool :=
  (List.range (b - a)).all fun j =>
    match s[a + j]?, s[i + j]? with
    | some c, some d =>
      if m.ignoreCase then m.folding.lower c.toNat == m.folding.lower d.toNat else c == d
    | _, _ => false

namespace Row

def stop (s : Subject) (test : Nat → Bool) : Nat → Nat → Nat
  | 0, i => i
  | most + 1, i =>
    match s[i]? with
    | some c => if test c.toNat then stop s test most (i + 1) else i
    | none => i

def counted (step : CharStep) (i stop : Nat) (t : Trail) : Trail :=
  t.moveTo (if step.drags then stop else i)

def longestFirst (attempt : Nat → Trail → Attempt) (least : Nat) : Nat → Trail → Attempt
  | 0, t => attempt least t
  | more + 1, t =>
    match attempt (least + more + 1) t with
    | .found u => .found u
    | .lost u => longestFirst attempt least more u

def shortestFirst (s : Subject) (step : CharStep) (attempt : Nat → Trail → Attempt) :
    Nat → Nat → Trail → Attempt
  | more, i, t =>
    match attempt i t with
    | .found u => .found u
    | .lost u =>
      let stop := Row.stop s step.takes 1 i
      let u := counted step i stop u
      match more with
      | 0 => .lost u
      | more + 1 => if stop == i then .lost u else shortestFirst s step attempt more stop u

def goOn (s : Subject) (sc : Scene) (before : Trail) (k : Continuation) (i : Nat) (t : Trail) :
    Attempt :=
  if sc.following.all fun c => s[i]?.any (·.toNat == c) then
    (k i (t.moveTo i)).onLoss (Trail.undo sc.inRound before)
  else .lost t

def run (s : Subject) (sc : Scene) (step : CharStep) (g : Greed) (least : Nat) (most : Option Nat) :
    Matcher := fun i t k =>
  let left := s.size - i
  if left < least then .lost t
  else
    match g with
    | .lazy =>
      let first := stop s step.takes least i
      let t := counted step i first t
      if first < i + least then .lost t
      else
        let goOn := goOn s { sc with following := none } t k
        shortestFirst s step goOn (most.getD left - least) first t
    | .greedy =>
      let last := stop s step.takes (min (most.getD left) left) i
      let t := counted step i last t
      if last < i + least then .lost t
      else longestFirst (goOn s sc t k) (i + least) (last - (i + least)) t
    | .possessive =>
      let last := stop s step.takes (min (most.getD left) left) i
      let t := counted step i last t
      if last < i + least then .lost t else k last t

end Row

namespace Repeat

def mayGoOn (most : Option Nat) (count : Nat) (last : Option Nat) (place : Nat) : Bool :=
  most.all (count < ·) && last != some place

/-- Rounds past the least count have to move on. -/
def greedy (body : Matcher) (least : Nat) (most : Option Nat) (k : Continuation) :
    Nat → Nat → Option Nat → Nat → Trail → Attempt
  | 0, _, _, _, t => .lost t
  | fuel + 1, count, last, i, t =>
    let t := t.moveTo i
    let a :=
      if count < least then body i t fun j u => greedy body least most k fuel (count + 1) last j u
      else if mayGoOn most count last i then
        match body i t fun j u => greedy body least most k fuel (count + 1) (some i) j u with
        | .found u => .found u
        | .lost _ => k i t
      else k i t
    a.backTo i

def lazy (inRound : Bool) (body : Matcher) (least : Nat) (most : Option Nat) (k : Continuation) :
    Nat → Nat → Option Nat → Nat → Trail → Attempt
  | 0, _, _, _, t => .lost t
  | fuel + 1, count, last, i, t =>
    let t := t.moveTo i
    let a :=
      if count < least then
        body i t fun j u => lazy inRound body least most k fuel (count + 1) last j u
      else
        match k i t with
        | .found u => .found u
        | .lost u =>
          let u := (t.undo inRound u).moveTo i
          if mayGoOn most count last i then
            body i u fun j v => lazy inRound body least most k fuel (count + 1) (some i) j v
          else .lost u
    a.backTo i

/-- A round matches in the first way it can, and is not matched anew. The round that fails in the
end leaves the cursor where it got to, and there the match goes on. -/
def possessive (body : Nat → Trail → Attempt) (least : Nat) (most : Option Nat) :
    Nat → Nat → Option Nat → Trail → Attempt
  | 0, _, _, t => .lost t
  | fuel + 1, count, last, t =>
    if count < least then
      match body t.cursor t with
      | .found u => possessive body least most fuel (count + 1) last u
      | .lost u => .lost u
    else if mayGoOn most count last t.cursor then
      match body t.cursor t with
      | .found u => possessive body least most fuel (count + 1) (some t.cursor) u
      | .lost u => .found (t.undo true u)
    else .found t

/-- Rounds that are sure to be enough: the least count, and some for every place. -/
def fuel (s : Subject) (least : Nat) : Nat := least + 4 * (s.size + 1)

def run (s : Subject) (inRound : Bool) (g : Greed) (least : Nat) (most : Option Nat)
    (body : Matcher) : Matcher := fun i t k =>
  match g with
  | .greedy => greedy body least most k (fuel s least) 0 none i t
  | .lazy => lazy inRound body least most k (fuel s least) 0 none i t
  | .possessive =>
    match possessive (fun j u => body j u .stop) least most (fuel s least) 0 none (t.moveTo i) with
    | .found u => k u.cursor u
    | .lost u => .lost (u.moveTo i)

end Repeat

def lookAt (inRound : Bool) (body : Matcher) (back : Nat) (negated : Bool) : Matcher := fun i t k =>
  if i < back then if negated then k i t else .lost t
  else
    match body (i - back) (t.moveTo (i - back)) .stop, negated with
    | .found u, false => k i u
    | .found u, true => .lost u
    | .lost u, false => .lost u
    | .lost u, true => k i (t.undo inRound u)

namespace Node

def enter (s : Subject) (sc : Scene) (n : Node) (run : Matcher) : Matcher := fun i t k =>
  if n.isAlt then run i t k
  else if n.admits sc.mode s[i]? then run i (t.moveTo i) k
  else .lost t

def run (s : Subject) : Node → Scene → Matcher
  | .empty, _, i, t, k => k i t
  | .seq a b, sc, i, t, k =>
    let before := { sc with following := b.opening sc.mode sc.following }
    a.run s before i t fun j u => b.run s sc j u k
  | .alt a b, sc, i, t, k =>
    let inner := { sc with following := none }
    match a.enter s sc (fun i t k => a.run s inner i t k) i t k with
    | .found u => .found u
    | .lost u =>
      let u := t.undo sc.inRound u
      (b.enter s sc (fun i t k => b.run s inner i t k) i u k).onLoss (t.undo sc.inRound)
  | .literal c, sc, i, t, k => takeChar s (sc.mode.isLiteral c) i t k
  | .notLiteral c, sc, i, t, k => takeChar s (fun x => !sc.mode.isLiteral c x) i t k
  | .any, sc, i, t, k => takeChar s (fun x => sc.mode.dotAll || x != 0x0a) i t k
  | .set negated items, sc, i, t, k => takeChar s (sc.mode.inSet negated items) i t k
  | .anchor a, sc, i, t, k => if a.holds s sc.mode i then k i t else .lost t
  | .repeated g least most body, sc, i, t, k =>
    match body.charStep? sc.mode with
    | some step => Row.run s sc step g least most i t k
    | none =>
      let inRound := sc.inRound || g != .possessive
      let inner := { sc with inRound := inRound, following := none }
      Repeat.run s sc.inRound g least most (fun i t k => body.run s inner i t k) i t k
  | .capture g body, sc, i, t, k =>
    body.run s { sc with following := none } i (t.openGroup g i) fun j u => k j (u.closeGroup g j)
  | .scope on off body, sc, i, t, k => body.run s { sc with mode := sc.mode.enter on off } i t k
  | .atomic body, sc, i, t, k =>
    match body.run s { sc with following := none } i (t.moveTo i) .stop with
    | .found u => k u.cursor u
    | .lost u => .lost (u.moveTo i)
  | .look back negated body, sc, i, t, k =>
    if negated && body = .empty then .lost t
    else
      let inner := { sc with following := none }
      lookAt sc.inRound (fun i t k => body.run s inner i t k) (back.getD 0) negated i t k
  | .backref g _, sc, i, t, k =>
    match t.group? g with
    | some (a, b) => if sameText s sc.mode a b i then k (i + (b - a)) t else .lost t
    | none => .lost t
  | .conditional g yes no, sc, i, t, k =>
    match t.group? g with
    | some _ => yes.run s { sc with following := if no = .empty then sc.following else none } i t k
    | none => no.run s sc i t k

end Node

end PatternGuard.Regex
