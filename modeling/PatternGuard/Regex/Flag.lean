import PatternGuard.Value

namespace PatternGuard.Regex

inductive Flag
  | template
  | ignoreCase
  | locale
  | multiline
  | dotAll
  | unicode
  | verbose
  | debug
  | ascii
  deriving DecidableEq, Repr

def Flag.index : Flag → Nat
  | .template => 0
  | .ignoreCase => 1
  | .locale => 2
  | .multiline => 3
  | .dotAll => 4
  | .unicode => 5
  | .verbose => 6
  | .debug => 7
  | .ascii => 8

def Flag.all : List Flag :=
  [.template, .ignoreCase, .locale, .multiline, .dotAll, .unicode, .verbose, .debug, .ascii]

def Flag.ofLetter? : Char → Option Flag
  | 'i' => some .ignoreCase
  | 'L' => some .locale
  | 'm' => some .multiline
  | 's' => some .dotAll
  | 'x' => some .verbose
  | 'a' => some .ascii
  | 't' => some .template
  | 'u' => some .unicode
  | _ => none

def Flag.isAlphabet : Flag → Bool
  | .ascii => true
  | .locale => true
  | .unicode => true
  | _ => false

def Flag.isGlobal : Flag → Bool
  | .debug => true
  | .template => true
  | _ => false

abbrev FlagSet := Int

namespace FlagSet

def has (s : FlagSet) (f : Flag) : Bool := s / Int.pow 2 f.index % 2 == 1

def insert (s : FlagSet) (f : Flag) : FlagSet :=
  if s.has f then s else s + Int.pow 2 f.index

def toList (s : FlagSet) : List Flag := Flag.all.filter s.has

def union (s t : FlagSet) : FlagSet := t.toList.foldl insert s

def ofList (fs : List Flag) : FlagSet := fs.foldl insert 0

def fitsWord (s : FlagSet) : Bool := -Int.pow 2 31 ≤ s && s < Int.pow 2 31

end FlagSet

structure Mode where
  ignoreCase : Bool
  multiline : Bool
  dotAll : Bool
  unicode : Bool
  deriving DecidableEq, Repr

namespace Mode

def ofFlags (s : FlagSet) : Mode where
  ignoreCase := s.has .ignoreCase
  multiline := s.has .multiline
  dotAll := s.has .dotAll
  unicode := s.has .unicode

def enter (m : Mode) (on off : FlagSet) : Mode where
  ignoreCase := (m.ignoreCase || on.has .ignoreCase) && !off.has .ignoreCase
  multiline := (m.multiline || on.has .multiline) && !off.has .multiline
  dotAll := (m.dotAll || on.has .dotAll) && !off.has .dotAll
  unicode := if on.toList.any Flag.isAlphabet then on.has .unicode else m.unicode

end Mode

end PatternGuard.Regex

namespace PatternGuard.Modifier

/-- What iterating over flags yields: a text, another scalar by its `str`, or what cannot be
hashed. -/
inductive Item
  | letter (s : String)
  | foreign (shown : String)
  | unusable
  deriving DecidableEq, Repr

inductive Fault
  | invalid (shown : String)
  | duplicate (letter : String)
  | unusable
  deriving DecidableEq, Repr

def Fault.message : Fault → String
  | .invalid s => "invalid flag '" ++ s ++ "'"
  | .duplicate s => "duplicate flag '" ++ s ++ "'"
  | .unusable => ""

def Fault.toFault : Fault → PatternGuard.Fault
  | .unusable => .wrongType
  | f => ⟨.badValue, f.message⟩

def letters : List (String × Nat) :=
  [("g", 0), ("i", 2), ("m", 8), ("s", 16), ("u", 32), ("y", 0)]

def parseFrom (seen : List String) (bits : Nat) : List Item → Except Fault Nat
  | [] => .ok bits
  | .foreign s :: _ => .error (.invalid s)
  | .unusable :: _ => .error .unusable
  | .letter s :: items =>
    match letters.lookup s with
    | none => .error (.invalid s)
    | some bit =>
      if seen.contains s then .error (.duplicate s) else parseFrom (s :: seen) (bits ||| bit) items

def parse (items : List Item) : Except Fault Nat := parseFrom [] 0 items

def Item.ofValue : Value → Item
  | .text s => .letter s
  | .scalar s => .foreign s.shown
  | .list _ => .unusable
  | .map _ => .unusable

def items? : Value → Option (List Item)
  | .text s => some (s.toList.map fun c => .letter (String.singleton c))
  | .bytes b => some (b.map fun n => .foreign (Number.natString n.toNat))
  | .list vs => some (vs.map .ofValue)
  | .map es => some (es.map fun (k, _) => .letter k)
  | _ => none

/-- `parse_flags`. -/
def flags (v : Value) : Except Fault Int :=
  match v with
  | .null => .ok 0
  | .int n => .ok n
  | .bool b => .ok (if b then 1 else 0)
  | v =>
    match items? v with
    | some items => (parse items).map Int.ofNat
    | none => .error .unusable

end PatternGuard.Modifier
