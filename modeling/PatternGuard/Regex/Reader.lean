import PatternGuard.Regex.Escape

namespace PatternGuard.Regex

namespace Quantifier

/-- Least and greatest count of a quantifier, and `none` for braces that are plain characters. -/
abbrev Counts := Option (Nat × Option Nat)

def digits (s : Source) : Except Fault (List Char × Source) :=
  s.takeWhile Number.isDigit s.rest.length

def count (ds : List Char) : Except Fault Nat :=
  if digitLimit < ds.length then .error (.longNumber ds.length)
  else if Width.limit ≤ Number.natValue ds then .error .hugeRepeat
  else .ok (Number.natValue ds)

def bounds (here : Nat) (lo hi : List Char) : Except Fault (Nat × Option Nat) := do
  let least ← if lo.isEmpty then pure 0 else count lo
  if hi.isEmpty then pure (least, none)
  else
    let most ← count hi
    if most < least then .error (.syntaxAt .crossedRepeat here) else pure (least, some most)

def braces (s : Source) : Except Fault (Counts × Source) :=
  if s.nextIs '\x7d' then .ok (none, s)
  else do
    let (lo, after) ← digits s
    let (comma, after) ← after.accept ','
    let (hi, after) ← if comma then digits after else pure (lo, after)
    let (closed, after) ← after.accept '\x7d'
    if !closed then pure (none, s)
    else
      let b ← bounds s.position lo hi
      pure (some b, after)

def counts (c : Char) (s : Source) : Except Fault (Counts × Source) :=
  match c with
  | '?' => .ok (some (0, some 1), s)
  | '*' => .ok (some (0, none), s)
  | '+' => .ok (some (1, none), s)
  | _ => braces s

def greed (s : Source) : Except Fault (Greed × Source) := do
  let (found, after) ← s.accept '?'
  if found then pure (.lazy, after)
  else
    let (found, after) ← s.accept '+'
    pure (if found then .possessive else .greedy, after)

def apply (start : Nat) (least : Nat) (most : Option Nat) (items : List Node) (s : Source) :
    Except Fault (List Node × Source) :=
  match items with
  | [] => .error (.syntaxAt .nothingToRepeat start)
  | n :: before =>
    if n.isAnchor then .error (.syntaxAt .nothingToRepeat start)
    else if n.isRepeat then .error (.syntaxAt .multipleRepeat start)
    else do
      let (g, after) ← greed s
      pure (.repeated g least most (Node.ofList n.splice) :: before, after)

end Quantifier

inductive InlineFlags
  | global (on : FlagSet)
  | scoped (on off : FlagSet)

namespace InlineFlags

def flag? : Token → Option Flag
  | .char c => Flag.ofLetter? c
  | _ => none

def strange (expected : String) (t : Token) (s : Source) : Fault :=
  let cause : Cause :=
    match t with
    | .char c => if Unicode.isLetter c.toNat then .unknownFlag else .missing expected
    | _ => .missing expected
  s.fault cause t.width

def clashes (on : FlagSet) (f : Flag) : Bool :=
  f.isAlphabet && on.toList.any fun g => g.isAlphabet && g != f

def startsOn : String := "-, : or )"

def turnedOn : Nat → Flag → FlagSet → Source → Except Fault (FlagSet × Char × Source)
  | 0, _, _, s => .error (s.fault (.missing startsOn) 0)
  | fuel + 1, f, on, s =>
    if f == .locale then .error (s.fault .localeFlag 0)
    else if clashes on f then .error (s.fault .clashingFlags 0)
    else do
      let (t, after) ← s.take
      match t with
      | none => .error (after.fault (.missing startsOn) 0)
      | some t =>
        if t == .char ')' then pure (on.insert f, ')', after)
        else if t == .char '-' then pure (on.insert f, '-', after)
        else if t == .char ':' then pure (on.insert f, ':', after)
        else
          match flag? t with
          | some g => turnedOn fuel g (on.insert f) after
          | none => .error (strange startsOn t after)

def turnedOff : Nat → Flag → FlagSet → Source → Except Fault (FlagSet × Source)
  | 0, _, _, s => .error (s.fault (.missing ":") 0)
  | fuel + 1, f, off, s =>
    if f.isAlphabet then .error (s.fault .alphabetFlagOff 0)
    else do
      let (t, after) ← s.take
      match t with
      | none => .error (after.fault (.missing ":") 0)
      | some t =>
        if t == .char ':' then pure (off.insert f, after)
        else
          match flag? t with
          | some g => turnedOff fuel g (off.insert f) after
          | none => .error (strange ":" t after)

def afterHyphen (s : Source) : Except Fault (FlagSet × Source) := do
  let (t, after) ← s.take
  match t with
  | none => .error (after.fault (.missing "flag") 0)
  | some t =>
    match flag? t with
    | some f => turnedOff (after.rest.length + 1) f 0 after
    | none => .error (strange "flag" t after)

def read (first : Option Flag) (s : Source) : Except Fault (InlineFlags × Source) := do
  let (on, stop, after) ←
    match first with
    | some f => turnedOn (s.rest.length + 1) f 0 s
    | none => pure (0, '-', s)
  if stop == ')' then pure (.global on, after)
  else if on.toList.any Flag.isGlobal then .error (after.fault .globalFlagOn 1)
  else
    let (off, after) ← if stop == '-' then afterHyphen after else pure (0, after)
    if off.toList.any Flag.isGlobal then .error (after.fault .globalFlagOff 1)
    else if on.toList.any off.has then .error (after.fault .flagOnAndOff 1)
    else pure (.scoped on off, after)

end InlineFlags

inductive Opener
  | whole
  | capture (group : Nat)
  | scope (on off : FlagSet)
  | atomic
  | look (behind negated : Bool) (outer : Option Nat)
  | conditional (group : Nat)

/-- An open group. Finished alternatives and the items of the one at hand are kept last first. -/
structure Frame where
  opener : Opener
  start : Nat
  verbose : Bool
  finished : List (List Node)
  items : List Node

namespace Frame

def push (f : Frame) (n : Node) : Frame := { f with items := n :: f.items }

/-- Bare groups among the items are dissolved. -/
def sequence (f : Frame) : List Node := f.items.reverse.flatMap Node.splice

def alternatives (f : Frame) : List (List Node) := (f.sequence :: f.finished).reverse

def branch (f : Frame) : Frame := { f with finished := f.sequence :: f.finished, items := [] }

def body (f : Frame) : Node := Node.ofList (Alternatives.toSequence f.alternatives)

end Frame

structure Reader where
  source : Source
  flags : FlagSet
  groups : Groups
  frame : Frame
  outer : List Frame

namespace Reader

def push (r : Reader) (n : Node) (s : Source) : Reader :=
  { r with source := s, frame := r.frame.push n }

def skip (r : Reader) (s : Source) : Reader := { r with source := s }

def enter (r : Reader) (opener : Opener) (start : Nat) (verbose : Bool) (s : Source) : Reader :=
  { r with source := s, frame := ⟨opener, start, verbose, [], []⟩, outer := r.frame :: r.outer }

def leave (r : Reader) (n : Node) (g : Groups) (s : Source) : Except Fault Reader :=
  match r.outer with
  | [] => .error (s.fault .unbalanced 0)
  | f :: fs => .ok { r with source := s, groups := g, frame := f.push n, outer := fs }

def close (r : Reader) : Except Fault Reader := do
  let s ← r.source.drop
  let body := r.frame.body
  match r.frame.opener with
  | .whole => .error (r.source.fault .unbalanced 0)
  | .capture group => r.leave (.capture group body) (r.groups.close group body.width) s
  | .scope on off => r.leave (.scope on off body) r.groups s
  | .atomic => r.leave (.atomic body) r.groups s
  | .look behind negated outer =>
    let g := if outer.isNone && behind then { r.groups with lookbehind := none } else r.groups
    r.leave (.look (if behind then some body.width.least else none) negated body) g s
  | .conditional group =>
    match r.frame.alternatives with
    | yes :: no :: _ => r.leave (.conditional group (.ofList yes) (.ofList no)) r.groups s
    | yes :: [] => r.leave (.conditional group (.ofList yes) .empty) r.groups s
    | [] => r.leave (.conditional group .empty .empty) r.groups s

def branch (r : Reader) : Except Fault Reader :=
  match r.frame.opener, r.frame.finished with
  | .conditional _, _ :: _ => .error (r.source.fault .thirdBranch 0)
  | _, _ => (r.source.drop).map fun s => { r with source := s, frame := r.frame.branch }

def skipLine : Nat → Source → Except Fault Source
  | 0, s => .ok s
  | fuel + 1, s => do
    let (t, after) ← s.take
    match t with
    | none => pure after
    | some t => if t == .char '\n' then pure after else skipLine fuel after

def skipComment (start : Nat) : Nat → Source → Except Fault Source
  | 0, _ => .error (.syntaxAt .unterminatedComment start)
  | fuel + 1, s =>
    match s.next? with
    | none => .error (.syntaxAt .unterminatedComment start)
    | some _ => do
      let (t, after) ← s.take
      if t == some (.char ')') then pure after else skipComment start fuel after

def openCapture (r : Reader) (start : Nat) (name : Option (List Char)) (s : Source) :
    Except Fault Reader :=
  let group := r.groups.count
  let opened := r.groups.opened
  match name with
  | none => .ok ({ r with groups := opened }.enter (.capture group) start r.frame.verbose s)
  | some cs =>
    let name := String.ofList cs
    match opened.names.lookup name with
    | some earlier => .error (s.fault (.renamedGroup name group earlier) (cs.length + 1))
    | none =>
      .ok
        ({ r with groups := opened.name name group }.enter (.capture group) start
          r.frame.verbose s)

def groupName (terminator : Char) (s : Source) : Except Fault (List Char × Source) := do
  let (cs, after) ← s.name "group name" terminator
  if Unicode.isIdentifier cs then pure (cs, after)
  else .error (after.fault (.badGroupName (String.ofList cs)) (cs.length + 1))

def namedReference (r : Reader) (s : Source) : Except Fault Reader := do
  let (cs, after) ← groupName ')' s
  let name := String.ofList cs
  match r.groups.names.lookup name with
  | none => .error (after.fault (.unknownGroupName name) (cs.length + 1))
  | some group =>
    if !r.groups.isClosed group then .error (after.fault .openGroup (cs.length + 1))
    else
      r.groups.checkLookbehind group after
      pure (r.push (.backref group (r.groups.width group)) after)

def named (r : Reader) (start : Nat) (s : Source) : Except Fault Reader := do
  let (found, after) ← s.accept '<'
  if found then
    let (cs, after) ← groupName '>' after
    r.openCapture start (some cs) after
  else
    let (found, after) ← s.accept '='
    if found then r.namedReference after
    else
      let (t, after) ← s.take
      match t with
      | none => .error (after.fault .unexpectedEnd 0)
      | some t => .error (after.fault (.unknownExtension ("P" ++ t.shown)) (t.width + 2))

def lookAhead (r : Reader) (start : Nat) (negated : Bool) (s : Source) : Reader :=
  r.enter (.look false negated none) start r.frame.verbose s

def lookBehind (r : Reader) (start : Nat) (negated : Bool) (s : Source) : Reader :=
  let outer := r.groups.lookbehind
  let g := { r.groups with lookbehind := outer.or (some r.groups.count) }
  { r with groups := g }.enter (.look true negated outer) start r.frame.verbose s

def behind (r : Reader) (start : Nat) (s : Source) : Except Fault Reader := do
  let (t, after) ← s.take
  match t with
  | none => .error (after.fault .unexpectedEnd 0)
  | some t =>
    if t == .char '=' then pure (r.lookBehind start false after)
    else if t == .char '!' then pure (r.lookBehind start true after)
    else .error (after.fault (.unknownExtension ("<" ++ t.shown)) (t.width + 2))

def conditionGroup (r : Reader) (cs : List Char) (s : Source) : Except Fault (Nat × Groups) :=
  let name := String.ofList cs
  if Unicode.isIdentifier cs then
    match r.groups.names.lookup name with
    | none => .error (s.fault (.unknownGroupName name) (cs.length + 1))
    | some group => .ok (group, r.groups)
  else
    match wholeNumber? cs with
    | some (.ofNat 0) => .error (s.fault .badGroupNumber (cs.length + 1))
    | some (.ofNat n) =>
      if Groups.limit ≤ n then .error (s.fault (.unknownReference n) (cs.length + 1))
      else .ok (n, r.groups.await n (s.position - (cs.length + 1)))
    | _ => .error (s.fault (.badGroupName name) (cs.length + 1))

def conditional (r : Reader) (start : Nat) (s : Source) : Except Fault Reader := do
  let (cs, after) ← s.name "group name" ')'
  let (group, g) ← r.conditionGroup cs after
  g.checkLookbehind group after
  pure ({ r with groups := g }.enter (.conditional group) start r.frame.verbose after)

def atStart (r : Reader) : Bool :=
  r.outer.isEmpty && r.frame.finished.isEmpty && r.frame.items.isEmpty

def inlineFlags (r : Reader) (start : Nat) (first : Option Flag) (s : Source) :
    Except Fault Reader := do
  let (f, after) ← InlineFlags.read first s
  match f with
  | .global on =>
    if !r.atStart then .error (.syntaxAt .lateGlobalFlags start)
    else
      let flags := r.flags.union on
      pure { r with
        source := after, flags := flags, frame := { r.frame with verbose := flags.has .verbose } }
  | .scoped on off =>
    let verbose := (r.frame.verbose || on.has .verbose) && !off.has .verbose
    pure (r.enter (.scope on off) start verbose after)

def extension (r : Reader) (start : Nat) (s : Source) : Except Fault Reader := do
  let (t, after) ← s.take
  match t with
  | none => .error (after.fault .unexpectedEnd 0)
  | some t =>
    match t with
    | .char 'P' => r.named start after
    | .char ':' => pure (r.enter (.scope 0 0) start r.frame.verbose after)
    | .char '#' => (skipComment start (after.rest.length + 1) after).map r.skip
    | .char '=' => pure (r.lookAhead start false after)
    | .char '!' => pure (r.lookAhead start true after)
    | .char '<' => r.behind start after
    | .char '(' => r.conditional start after
    | .char '>' => pure (r.enter .atomic start r.frame.verbose after)
    | .char '-' => r.inlineFlags start none after
    | t =>
      match InlineFlags.flag? t with
      | some f => r.inlineFlags start (some f) after
      | none => .error (after.fault (.unknownExtension t.shown) (t.width + 1))

def group (r : Reader) (start : Nat) (s : Source) : Except Fault Reader := do
  let (found, after) ← s.accept '?'
  if found then r.extension start after else r.openCapture start none after

def quantify (r : Reader) (c : Char) (start : Nat) (s : Source) : Except Fault Reader := do
  let (counts, after) ← Quantifier.counts c s
  match counts with
  | none => pure (r.push (.literal c.toNat) s)
  | some (least, most) =>
    let (items, after) ← Quantifier.apply start least most r.frame.items after
    pure { r with source := after, frame := { r.frame with items := items } }

def isQuantifier (c : Char) : Bool := c == '*' || c == '+' || c == '?' || c == '\x7b'

variable [Interpreter]

def character (r : Reader) (c : Char) (start : Nat) (s : Source) : Except Fault Reader :=
  if r.frame.verbose && Unicode.isAsciiBlank c.toNat then .ok (r.skip s)
  else if r.frame.verbose && c == '#' then (skipLine (s.rest.length + 1) s).map r.skip
  else if isQuantifier c then r.quantify c start s
  else
    match c with
    | '[' => (Bracket.read start s).map fun (n, after) => r.push n after
    | '.' => .ok (r.push .any s)
    | '(' => r.group start s
    | '^' => .ok (r.push (.anchor .lineStart) s)
    | '$' => .ok (r.push (.anchor .lineEnd) s)
    | c => .ok (r.push (.literal c.toNat) s)

def step (r : Reader) (t : Token) : Except Fault Reader :=
  match t with
  | .char '|' => r.branch
  | .char ')' => r.close
  | .char c => do
    let s ← r.source.drop
    r.character c r.source.position s
  | .escape c => do
    let s ← r.source.drop
    (nodeEscape r.groups c s).map fun (n, after) => r.push n after
  | .dangling => .error (.syntaxAt .danglingBackslash r.source.position)

def atEnd (r : Reader) : Bool := r.outer.isEmpty && r.source.nextIs ')'

/-- Fuel bounds the number of tokens. -/
def run : Nat → Reader → Except Fault Reader
  | 0, r => .ok r
  | fuel + 1, r =>
    match r.source.next? with
    | none => .ok r
    | some t => if r.atEnd then .ok r else r.step t >>= run fuel

def ofPattern (pattern : List Char) (flags : FlagSet) : Except Fault Reader := do
  let s ← Source.settle ⟨pattern.length, tokens pattern⟩
  pure ⟨s, flags, .none, ⟨.whole, 0, flags.has .verbose, [], []⟩, []⟩

end Reader

structure Expression where
  node : Node
  flags : FlagSet
  groups : Nat
  names : List (String × Nat)

namespace Expression

def settleFlags (s : FlagSet) : Except Fault FlagSet :=
  if s.has .locale then .error .localeFlag
  else if !s.has .ascii then .ok (s.insert .unicode)
  else if s.has .unicode then .error .asciiAndUnicode
  else .ok s

def checkAwaited (g : Groups) : Except Fault Unit :=
  match g.awaited.find? fun (n, _) => g.count ≤ n with
  | some (n, position) => .error (.syntaxAt (.unknownReference n) position)
  | none => .ok ()

def ofReader (r : Reader) : Except Fault Expression := do
  if !r.outer.isEmpty then .error (.syntaxAt .unterminatedGroup r.frame.start)
  let flags ← settleFlags r.flags
  if r.source.next?.isSome then .error (r.source.fault .unbalanced 0)
  checkAwaited r.groups
  pure ⟨r.frame.body, flags, r.groups.count - 1, r.groups.names⟩

def read [Interpreter] (pattern : List Char) (flags : FlagSet) : Except Fault Expression := do
  let r ← Reader.ofPattern pattern flags
  let r ← r.run r.source.rest.length
  ofReader r

end Expression

end PatternGuard.Regex
