import PatternGuard.Unicode.Category

namespace PatternGuard.Number

def digitChar (d : Nat) : Char := Char.ofNat (0x30 + d)

def isDigit (c : Char) : Bool := 0x30 ≤ c.toNat && c.toNat ≤ 0x39

def natText (n : Nat) : List Char :=
  if n < 10 then [digitChar n] else natText (n / 10) ++ [digitChar (n % 10)]
termination_by n
decreasing_by omega

def natValue (cs : List Char) : Nat :=
  cs.foldl (fun n c => 10 * n + (c.toNat - 0x30)) 0

def intText (n : Int) : List Char :=
  if n < 0 then '-' :: natText n.natAbs else natText n.natAbs

def natString (n : Nat) : String := String.ofList (natText n)

def intString (n : Int) : String := String.ofList (intText n)

def padded (width n : Nat) : List Char :=
  let ds := natText n
  List.replicate (width - ds.length) '0' ++ ds

def hexDigit (d : Nat) : Char := if d < 10 then digitChar d else Char.ofNat (0x57 + d)

def hexText : Nat → Nat → List Char
  | 0, _ => []
  | width + 1, n => hexText width (n / 16) ++ [hexDigit (n % 16)]

def hexValue? (c : Char) : Option Nat :=
  let n := c.toNat
  if 0x30 ≤ n && n ≤ 0x39 then some (n - 0x30)
  else if 0x61 ≤ n && n ≤ 0x66 then some (n - 0x57)
  else if 0x41 ≤ n && n ≤ 0x46 then some (n - 0x37)
  else none

inductive Whole
  | exactly (n : Int)
  | fractional
  | notFinite
  deriving DecidableEq, Repr

def signed (negative : Bool) (n : Nat) : Int := if negative then -(n : Int) else n

def Whole.ofScaled (negative : Bool) (coefficient base : Nat) (exponent : Int) : Whole :=
  if 0 ≤ exponent then .exactly (signed negative (coefficient * base.pow exponent.toNat))
  else
    let unit := base.pow (-exponent).toNat
    if coefficient % unit == 0 then .exactly (signed negative (coefficient / unit)) else .fractional

end PatternGuard.Number

namespace PatternGuard.Number.Spelled

def dropMoreZeros (before : Char) : List Char → Option (List Char)
  | [] => some [before]
  | c :: cs =>
    if c == '0' || c == '_' then dropMoreZeros c cs
    else if c == '.' then some (before :: c :: cs)
    else if c == '-' || isDigit c then some (c :: cs)
    else none

def dropZeros : List Char → Option (List Char)
  | [] => none
  | c :: cs =>
    if c == '0' then dropMoreZeros c cs
    else if c == '-' || isDigit c then some (c :: cs)
    else none

def dropFront : List Char → Option (List Char)
  | '-' :: cs => (dropZeros cs).map ('-' :: ·)
  | '+' :: '-' :: _ => none
  | '+' :: cs => dropZeros cs
  | cs => dropZeros cs

def dropFraction (cs : List Char) : List Char :=
  let fraction := (cs.dropWhile (· != '.')).drop 1
  if fraction.isEmpty || fraction.any (· != '0') then cs else cs.takeWhile (· != '.')

def hasDoubleLine : List Char → Bool
  | '_' :: '_' :: _ => true
  | _ :: cs => hasDoubleLine cs
  | [] => false

def dropLines (cs : List Char) : List Char :=
  if cs.head? == some '_' || cs.getLast? == some '_' || hasDoubleLine cs then cs
  else cs.filter (· != '_')

/-- Drops what pydantic lets stand in the text of an integer beside its digits: a plus sign, leading
zeros, single underscores and a fraction of zeros. -/
def clean? (cs : List Char) : Option (List Char) :=
  (dropFront cs).map fun cs => dropLines (dropFraction cs)

def value? : List Char → Option Int
  | '-' :: cs => if !cs.isEmpty && cs.all isDigit then some (signed true (natValue cs)) else none
  | cs => if !cs.isEmpty && cs.all isDigit then some (signed false (natValue cs)) else none

end PatternGuard.Number.Spelled

namespace PatternGuard.Number

inductive Decimal
  | finite (negative : Bool) (coefficient : Nat) (exponent : Int)
  | infinite (negative : Bool)
  | nan (negative signaling : Bool) (payload : List Char)
  deriving DecidableEq

namespace Decimal

def dropSign : List Char → Bool × List Char
  | '-' :: cs => (true, cs)
  | '+' :: cs => (false, cs)
  | cs => (false, cs)

def readExponent : List Char → Option Int
  | [] => some 0
  | c :: cs =>
    if c == 'e' || c == 'E' then
      let (negative, ds) := dropSign cs
      if ds.isEmpty || !ds.all isDigit then none
      else some (if negative then -(natValue ds : Int) else natValue ds)
    else none

def readFinite (negative : Bool) (cs : List Char) : Option Decimal :=
  let whole := cs.takeWhile isDigit
  let rest := cs.dropWhile isDigit
  let (fraction, tail) :=
    match rest with
    | '.' :: r => (r.takeWhile isDigit, r.dropWhile isDigit)
    | r => ([], r)
  if whole.isEmpty && fraction.isEmpty then none
  else
    (readExponent tail).map fun e =>
      .finite negative (natValue (whole ++ fraction)) (e - fraction.length)

def read? (s : String) : Option Decimal :=
  let blank (c : Char) := Unicode.isBlank c.toNat
  let cs := ((s.toList.dropWhile blank).reverse.dropWhile blank).reverse.filter (· != '_')
  let (negative, body) := dropSign cs
  let name := body.map Char.toLower
  if name == "inf".toList || name == "infinity".toList then some (.infinite negative)
  else if name.take 3 == "nan".toList && (name.drop 3).all isDigit then
    some (.nan negative false ((body.drop 3).dropWhile (· == '0')))
  else if name.take 4 == "snan".toList && (name.drop 4).all isDigit then
    some (.nan negative true ((body.drop 4).dropWhile (· == '0')))
  else readFinite negative body

def finiteText (coefficient : Nat) (exponent : Int) : List Char :=
  let ds := natText coefficient
  let adjusted := exponent + (ds.length - 1 : Nat)
  if exponent ≤ 0 && -6 ≤ adjusted then
    let places := (-exponent).toNat
    if places == 0 then ds
    else
      let full := List.replicate (places + 1 - ds.length) '0' ++ ds
      full.take (full.length - places) ++ '.' :: full.drop (full.length - places)
  else
    let fraction := ds.drop 1
    ds.take 1 ++ (if fraction.isEmpty then [] else '.' :: fraction)
      ++ 'E' :: (if adjusted < 0 then '-' else '+') :: natText adjusted.natAbs

def text : Decimal → List Char
  | .finite negative c e => (if negative then ['-'] else []) ++ finiteText c e
  | .infinite negative => (if negative then ['-'] else []) ++ "Infinity".toList
  | .nan negative signaling payload =>
    (if negative then ['-'] else []) ++ (if signaling then ['s'] else []) ++ "NaN".toList ++ payload

def toWhole : Decimal → Whole
  | .finite negative coefficient exponent => .ofScaled negative coefficient 10 exponent
  | _ => .notFinite

def isZero : Decimal → Bool
  | .finite _ coefficient _ => coefficient == 0
  | _ => false

end Decimal

end PatternGuard.Number
