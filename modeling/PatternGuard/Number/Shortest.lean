import PatternGuard.Number

/-! The `repr` of a float: the shortest decimal that rounds to it, and of these the nearest. -/

namespace PatternGuard.Number

inductive Binary
  | finite (negative : Bool) (mantissa : Nat) (exponent : Int)
  | infinite (negative : Bool)
  | nan
  deriving DecidableEq, Repr

namespace Binary

def ofFloat (x : Float) : Binary :=
  let bits := x.toBits.toNat
  let negative := bits / Nat.pow 2 63 == 1
  let biased : Nat := bits / Nat.pow 2 52 % 2048
  let fraction : Nat := bits % Nat.pow 2 52
  if biased == 2047 then if fraction == 0 then .infinite negative else .nan
  else if biased == 0 then .finite negative fraction (-1074)
  else .finite negative (fraction + Nat.pow 2 52) ((biased : Int) - 1075)

def toWhole : Binary → Whole
  | .finite negative mantissa exponent => .ofScaled negative mantissa 2 exponent
  | _ => .notFinite

def isZero : Binary → Bool
  | .finite _ mantissa _ => mantissa == 0
  | _ => false

end Binary

/-- A positive float `mantissa * 2 ^ exponent`, in quarters of its last place: `center` is the
float, `low` and `high` bound the reals that round to it, and `closed` says whether the bounds
do. -/
structure Rounding where
  low : Nat
  center : Nat
  high : Nat
  exponent : Int
  closed : Bool

def Rounding.ofParts (mantissa : Nat) (exponent : Int) (atPower : Bool) : Rounding where
  low := 4 * mantissa - (if atPower then 1 else 2)
  center := 4 * mantissa
  high := 4 * mantissa + 2
  exponent := exponent - 2
  closed := mantissa % 2 == 0

structure Scaled where
  digits : Nat
  exponent : Int

/-- `n * 2 ^ two * 10 ^ -ten` and `d`, cleared of fractions. -/
def crossed (n : Nat) (two : Int) (d : Nat) (ten : Int) : Nat × Nat :=
  (n * Nat.pow 2 two.toNat * Nat.pow 10 (-ten).toNat,
    d * Nat.pow 10 ten.toNat * Nat.pow 2 (-two).toNat)

def Rounding.contains (r : Rounding) (s : Scaled) : Bool :=
  let (lo, x) := crossed r.low r.exponent s.digits s.exponent
  let (hi, y) := crossed r.high r.exponent s.digits s.exponent
  if r.closed then lo ≤ x && y ≤ hi else lo < x && y < hi

def Rounding.below (r : Rounding) (ten : Int) : Scaled :=
  let (n, d) := crossed r.center r.exponent 1 ten
  ⟨n / d, ten⟩

def Rounding.nearer (r : Rounding) (ten : Int) : Ordering :=
  let (n, d) := crossed r.center r.exponent 1 ten
  compare (2 * (n % d)) d

def climb (d : Nat) : Nat → Nat → Nat → Int
  | 0, _, count => -count
  | fuel + 1, n, count => if d ≤ n then -count else climb d fuel (10 * n) (count + 1)

def Rounding.magnitude (r : Rounding) : Int :=
  let n := r.center * Nat.pow 2 r.exponent.toNat
  let d := Nat.pow 2 (-r.exponent).toNat
  if d ≤ n then (natText (n / d)).length - 1 else climb d 400 n 0

def Rounding.refine (r : Rounding) (top : Int) : Nat → Nat → Scaled
  | 0, count => r.below (top - (count : Int) + 1)
  | fuel + 1, count =>
    let ten := top - (count : Int) + 1
    let down := r.below ten
    let up : Scaled := ⟨down.digits + 1, ten⟩
    match r.contains down, r.contains up with
    | true, false => down
    | false, true => up
    | true, true =>
      match r.nearer ten with
      | .lt => down
      | .gt => up
      | .eq => if down.digits % 2 == 0 then down else up
    | false, false => r.refine top fuel (count + 1)

def Rounding.shortest (r : Rounding) : Scaled := r.refine r.magnitude 17 1

structure FloatFormat where
  lowest : Int
  limit : Int
  exponentWidth : Nat

def FloatFormat.standard : FloatFormat := ⟨-4, 16, 2⟩

def FloatFormat.render (f : FloatFormat) (s : Scaled) : List Char :=
  let all := natText s.digits
  let point : Int := (all.length : Int) - 1 + s.exponent
  let ds := (all.reverse.dropWhile (· == '0')).reverse
  if f.lowest ≤ point && point < f.limit then
    if point < 0 then
      '0' :: '.' :: List.replicate (-point - 1).toNat '0' ++ ds
    else
      let whole := point.toNat + 1
      let padded := ds ++ List.replicate (whole - ds.length) '0'
      let fraction := padded.drop whole
      padded.take whole ++ '.' :: (if fraction.isEmpty then ['0'] else fraction)
  else
    ds.take 1 ++ (if ds.length == 1 then [] else '.' :: ds.drop 1)
      ++ 'e' :: (if point < 0 then '-' else '+') :: padded f.exponentWidth point.natAbs

structure SpecialNames where
  infinity : String
  nan : String

def floatText (names : SpecialNames) (x : Float) : List Char :=
  let sign (negative : Bool) := if negative then ['-'] else []
  match Binary.ofFloat x with
  | .nan => names.nan.toList
  | .infinite negative => sign negative ++ names.infinity.toList
  | .finite negative mantissa exponent =>
    if mantissa == 0 then sign negative ++ ['0', '.', '0']
    else
      let r := Rounding.ofParts mantissa exponent (mantissa == Nat.pow 2 52 && exponent != -1074)
      sign negative ++ FloatFormat.standard.render r.shortest

end PatternGuard.Number
