import PatternGuard.Number.Shortest

namespace PatternGuard

inductive Json
  | null
  | bool (b : Bool)
  | int (n : Int)
  | float (x : Float)
  | text (s : String)
  | array (items : List Json)
  | object (members : List (String × Json))

namespace Json

def member? (key : String) : Json → Option Json
  | .object ms => ms.lookup key
  | _ => none

def texts (ss : List String) : Json := .array (ss.map .text)

end Json

end PatternGuard

namespace PatternGuard.Json

def isBlank (c : Char) : Bool := c == ' ' || c == '\n' || c == '\r' || c == '\t'

def skipBlank (cs : List Char) : List Char := cs.dropWhile isBlank

def unitValue? (a b c d : Char) : Option Nat := do
  let a ← Number.hexValue? a
  let b ← Number.hexValue? b
  let c ← Number.hexValue? c
  let d ← Number.hexValue? d
  pure (((a * 16 + b) * 16 + c) * 16 + d)

def shortEscape? (c : Char) : Option Char :=
  if c == '\x22' || c == '\\' || c == '/' then some c
  else if c == 'n' then some '\n'
  else if c == 'r' then some '\r'
  else if c == 't' then some '\t'
  else if c == 'b' then some '\x08'
  else if c == 'f' then some '\x0c'
  else none

def readUnits : List Char → Option (List Nat × List Char)
  | [] => none
  | '\\' :: 'u' :: a :: b :: c :: d :: cs =>
    match unitValue? a b c d, readUnits cs with
    | some n, some (ns, rest) => some (n :: ns, rest)
    | _, _ => none
  | '\\' :: c :: cs =>
    match shortEscape? c, readUnits cs with
    | some e, some (ns, rest) => some (e.toNat :: ns, rest)
    | _, _ => none
  | c :: cs =>
    if c == '\x22' then some ([], cs)
    else if c == '\\' then none
    else
      match readUnits cs with
      | some (ns, rest) => some (c.toNat :: ns, rest)
      | none => none

def isHighSurrogate (n : Nat) : Bool := 0xd800 ≤ n && n < 0xdc00

def isLowSurrogate (n : Nat) : Bool := 0xdc00 ≤ n && n < 0xe000

def joinUnits : List Nat → Option (List Char)
  | [] => some []
  | n :: ns =>
    if isHighSurrogate n then
      match ns with
      | m :: rest =>
        if isLowSurrogate m then
          (joinUnits rest).map
            (Char.ofNat (0x10000 + (n - 0xd800) * 0x400 + (m - 0xdc00)) :: ·)
        else none
      | [] => none
    else if isLowSurrogate n then none
    else (joinUnits ns).map (Char.ofNat n :: ·)

def readText (cs : List Char) : Option (String × List Char) :=
  match readUnits cs with
  | some (ns, rest) => (joinUnits ns).map fun s => (String.ofList s, rest)
  | none => none

def readExponent (cs : List Char) : Option (Int × List Char) :=
  let (negative, ds) :=
    match cs with
    | '-' :: r => (true, r)
    | '+' :: r => (false, r)
    | r => (false, r)
  let digits := ds.takeWhile Number.isDigit
  if digits.isEmpty then none
  else
    let n : Int := Number.natValue digits
    some (if negative then -n else n, ds.dropWhile Number.isDigit)

def scientific (negative : Bool) (digits : List Char) (exponent : Int) : Float :=
  let x := Float.ofScientific (Number.natValue digits) (exponent < 0) exponent.natAbs
  if negative then -x else x

def readNumber (negative : Bool) (cs : List Char) : Option (Json × List Char) :=
  let whole := cs.takeWhile Number.isDigit
  let rest := cs.dropWhile Number.isDigit
  if whole.isEmpty then none
  else
    let (fraction, tail) :=
      match rest with
      | '.' :: r => (some (r.takeWhile Number.isDigit), r.dropWhile Number.isDigit)
      | r => (none, r)
    let exponent :=
      match tail with
      | 'e' :: r => some (readExponent r)
      | 'E' :: r => some (readExponent r)
      | _ => none
    let digits := fraction.getD []
    match fraction, exponent with
    | none, none =>
      let n : Int := Number.natValue whole
      some (.int (if negative then -n else n), rest)
    | some [], _ => none
    | _, none => some (.float (scientific negative (whole ++ digits) (-digits.length)), tail)
    | _, some none => none
    | _, some (some (e, after)) =>
      some (.float (scientific negative (whole ++ digits) (e - digits.length)), after)

mutual

/-- Fuel bounds the number of tokens. -/
def readValue : Nat → List Char → Option (Json × List Char)
  | 0, _ => none
  | fuel + 1, cs =>
    match skipBlank cs with
    | [] => none
    | 'n' :: 'u' :: 'l' :: 'l' :: r => some (.null, r)
    | 't' :: 'r' :: 'u' :: 'e' :: r => some (.bool true, r)
    | 'f' :: 'a' :: 'l' :: 's' :: 'e' :: r => some (.bool false, r)
    | c :: r =>
      if c == '\x22' then (readText r).map fun (s, rest) => (.text s, rest)
      else if c == '[' then
        match skipBlank r with
        | ']' :: rest => some (.array [], rest)
        | r =>
          match readValue fuel r with
          | none => none
          | some (j, rest) => (readItems fuel rest).map fun (js, rest) => (.array (j :: js), rest)
      else if c == '\x7b' then
        match skipBlank r with
        | '\x7d' :: rest => some (.object [], rest)
        | r =>
          match readMember fuel r with
          | none => none
          | some (m, rest) =>
            (readMembers fuel rest).map fun (ms, rest) => (.object (m :: ms), rest)
      else if c == '-' then readNumber true r
      else readNumber false (c :: r)

def readItems : Nat → List Char → Option (List Json × List Char)
  | 0, _ => none
  | fuel + 1, cs =>
    match skipBlank cs with
    | ']' :: rest => some ([], rest)
    | ',' :: r =>
      match readValue fuel r with
      | none => none
      | some (j, rest) => (readItems fuel rest).map fun (js, rest) => (j :: js, rest)
    | _ => none

def readMembers : Nat → List Char → Option (List (String × Json) × List Char)
  | 0, _ => none
  | fuel + 1, cs =>
    match skipBlank cs with
    | '\x7d' :: rest => some ([], rest)
    | ',' :: r =>
      match readMember fuel r with
      | none => none
      | some (m, rest) => (readMembers fuel rest).map fun (ms, rest) => (m :: ms, rest)
    | _ => none

def readMember : Nat → List Char → Option ((String × Json) × List Char)
  | 0, _ => none
  | fuel + 1, cs =>
    match skipBlank cs with
    | '\x22' :: r =>
      match readText r with
      | none => none
      | some (k, rest) =>
        match skipBlank rest with
        | ':' :: r => (readValue fuel r).map fun (j, rest) => ((k, j), rest)
        | _ => none
    | _ => none

end

def read? (s : String) : Option Json :=
  let cs := s.toList
  match readValue (2 * cs.length + 2) cs with
  | some (j, rest) => if (skipBlank rest).isEmpty then some j else none
  | none => none

def unitEscape (n : Nat) : List Char := '\\' :: 'u' :: Number.hexText 4 n

def writeChar (c : Char) : List Char :=
  if c == '\x22' then ['\\', '\x22']
  else if c == '\\' then ['\\', '\\']
  else if c == '\n' then ['\\', 'n']
  else if c == '\r' then ['\\', 'r']
  else if c == '\t' then ['\\', 't']
  else if c == '\x08' then ['\\', 'b']
  else if c == '\x0c' then ['\\', 'f']
  else
    let n := c.toNat
    if 0x20 ≤ n && n ≤ 0x7e then [c]
    else if n < 0x10000 then unitEscape n
    else
      unitEscape (0xd800 + (n - 0x10000) / 0x400) ++ unitEscape (0xdc00 + (n - 0x10000) % 0x400)

def writeText (s : String) : List Char :=
  '\x22' :: s.toList.flatMap writeChar ++ ['\x22']

mutual

def write : Json → List Char
  | .null => ['n', 'u', 'l', 'l']
  | .bool true => ['t', 'r', 'u', 'e']
  | .bool false => ['f', 'a', 'l', 's', 'e']
  | .int n => Number.intText n
  | .float x => Number.floatText ⟨"Infinity", "NaN"⟩ x
  | .text s => writeText s
  | .array [] => ['[', ']']
  | .array (j :: js) => '[' :: write j ++ writeItems js
  | .object [] => ['\x7b', '\x7d']
  | .object ((k, j) :: ms) => '\x7b' :: writeText k ++ ':' :: write j ++ writeMembers ms

def writeItems : List Json → List Char
  | [] => [']']
  | j :: js => ',' :: write j ++ writeItems js

def writeMembers : List (String × Json) → List Char
  | [] => ['\x7d']
  | (k, j) :: ms => ',' :: writeText k ++ ':' :: write j ++ writeMembers ms

end

def line (j : Json) : String := String.ofList j.write

end PatternGuard.Json
