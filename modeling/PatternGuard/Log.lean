import PatternGuard.Unicode.Case
import PatternGuard.Value

/-! The lines of `JsonLogger`. The clock counts microseconds since 1970 in UTC. -/

namespace PatternGuard.Log

def redacted : String := "[redacted]"

def sensitiveKeys : List String := ["input", "pattern", "text"]

def isSensitive (key : String) : Bool := sensitiveKeys.contains key

mutual

/-- `_redact` recurses into dicts only. Lists are copied as they stand. -/
def redactValue : Value → Value
  | .map entries => .map (redact entries)
  | v => v

def redact : Entries → Entries
  | [] => []
  | (k, v) :: es =>
    (k, if isSensitive k then .text redacted else redactValue v) :: redact es

end

def isLeapYear (y : Nat) : Bool := y % 4 == 0 && (y % 100 != 0 || y % 400 == 0)

def yearLength (y : Nat) : Nat := if isLeapYear y then 366 else 365

def monthLengths (y : Nat) : List Nat :=
  [31, if isLeapYear y then 29 else 28, 31, 30, 31, 30, 31, 31, 30, 31, 30, 31]

/-- The year of a day that is counted from the start of year `y`, and the day in that year. At most
`fuel` years are passed over. -/
def findYear : Nat → Nat → Nat → Nat × Nat
  | 0, y, d => (y, d)
  | fuel + 1, y, d => if d < yearLength y then (y, d) else findYear fuel (y + 1) (d - yearLength y)

def findMonth : List Nat → Nat → Nat → Nat × Nat
  | [], m, d => (m, d)
  | len :: lens, m, d => if d < len then (m, d) else findMonth lens (m + 1) (d - len)

structure Date where
  year : Nat
  month : Nat
  day : Nat
  deriving DecidableEq, Repr

def Date.ofDay (day : Nat) : Date :=
  let (y, inYear) := findYear 9999 1 day
  let (m, inMonth) := findMonth (monthLengths y) 1 inYear
  ⟨y, m, inMonth + 1⟩

def Date.text (d : Date) : List Char :=
  Number.padded 4 d.year ++ '-' :: Number.padded 2 d.month ++ '-' :: Number.padded 2 d.day

def epochDay : Int := 719162

def microsPerDay : Int := 86400000000

def timeText (micros : Nat) : List Char :=
  let seconds := micros / 1000000
  let fraction := micros % 1000000
  Number.padded 2 (seconds / 3600) ++ ':' :: Number.padded 2 (seconds / 60 % 60)
    ++ ':' :: Number.padded 2 (seconds % 60)
    ++ if fraction == 0 then [] else '.' :: Number.padded 6 fraction

def offsetText : List Char := "+00:00".toList

/-- `isoformat`, which leaves out a fraction of zero. -/
def timestampChars (now : Int) : List Char :=
  (Date.ofDay (now / microsPerDay + epochDay).toNat).text
    ++ 'T' :: timeText (now % microsPerDay).toNat ++ offsetText

def timestamp (now : Int) : String := String.ofList (timestampChars now)

def standardComponent : Value := .text "pressurelid"

def payload (component : Value) (now : Int) (level : String) (message : Value) (extra : Entries) :
    Entries :=
  let base : Entries :=
    [("ts", .text (timestamp now)), ("lvl", .text (Unicode.uppercase level)), ("msg", message),
      ("component", component)]
  base.update (redact extra)

def line (component : Value) (now : Int) (level : String) (message : Value) (extra : Entries) :
    String :=
  (Value.map (payload component now level message extra)).toJson.line

def written (component : Value) (now : Int) (level : String) (message : Value) (extra : Entries) :
    String :=
  line component now level message extra ++ "\n"

inductive Severity
  | info
  | warning
  deriving DecidableEq, Repr

def Severity.level : Severity → String
  | .info => "INFO"
  | .warning => "WARN"

def extraEntries (extra : Value) : Except Fault Entries :=
  match extra with
  | .map entries => .ok entries
  | v => if v.isTrue then .error .missingPart else .ok []

/-- `JsonLogger.log`. A level without `upper` and extras without `items` are `AttributeError`s. -/
def write (component : Value) (now : Int) (level message extra : Value) : Except Fault String :=
  match level with
  | .text l => (extraEntries extra).map fun es => written component now l message es
  | _ => .error .missingPart

def takenNames : List String := ["self", "message"]

/-- `JsonLogger.info` and `JsonLogger.warning`. Extras are keyword arguments here, so none can be
called `self` or `message`. -/
def writeAt (severity : Severity) (component : Value) (now : Int) (message extra : Value) :
    Except Fault String :=
  match extra with
  | .map es =>
    if (Keyed.keys es).any takenNames.contains then .error .wrongType
    else .ok (written component now severity.level message es)
  | v =>
    if v.isTrue then .error .wrongType
    else .ok (written component now severity.level message [])

end PatternGuard.Log
