import PatternGuard.Hazard
import PatternGuard.Regex.Pattern

/-! The race of a search against its budget. `Outcome.report` is what `_search_in_child` writes to
its pipe, `Relay.run` is `_relay`, which posts what it reads to the event loop, where `_settle`
settles the futures `started` and `finished`, and `bounded` is `search_with_timeout`. -/

namespace PatternGuard.Search

inductive StartMethod
  | fork
  | spawn
  deriving DecidableEq, Repr

namespace StartMethod

def name : StartMethod → String
  | .fork => "fork"
  | .spawn => "spawn"

def ofPlatform (platform : String) : StartMethod :=
  if platform == "darwin" || platform == "win32" then .spawn else .fork

end StartMethod

/-- How `compiled.search(text)` ends in the child process. `died` is a child that exits before it
reports, and `unfinished` a search that outlives every budget. -/
inductive Outcome
  | returned (v : Value)
  | raised (f : Fault)
  | died
  | unfinished

/-- What is passed for a compiled pattern: one, another object whose `search` ends in a known way,
or `None`. -/
inductive Target
  | pattern (p : Regex.Pattern)
  | standIn (name : String) (outcome : Outcome)
  | absent

namespace Target

def source : Target → String
  | .pattern p => p.source
  | .standIn name _ => name
  | .absent => ""

def search : Target → Value → Outcome
  | .pattern p, .text s =>
    match p.search s with
    | .ok found => .returned (if found then .bool true else .null)
    | .error f => .raised (f.toFault p.source)
  | .pattern _, _ => .raised .wrongType
  | .standIn _ o, _ => o
  | .absent, _ => .raised .missingPart

end Target

inductive Status
  | ready
  | ok
  | error
  | unknown
  deriving DecidableEq, Repr

inductive Payload
  | value (v : Value)
  | fault (f : Fault)

structure Message where
  status : Status
  payload : Payload

structure Pipe where
  messages : List Message
  closed : Bool

def ready : Message := ⟨.ready, .value .null⟩

def Outcome.report : Outcome → Pipe
  | .returned v => ⟨[ready, ⟨.ok, .value (.bool !v.isNull)⟩], true⟩
  | .raised f =>
    if f.isError then ⟨[ready, ⟨.error, .fault f.sent⟩], true⟩ else ⟨[ready], true⟩
  | .died => ⟨[ready], true⟩
  | .unfinished => ⟨[ready], false⟩

inductive Future
  | pending
  | cancelled
  | result (b : Bool)
  | fault (f : Fault)
  deriving DecidableEq, Repr

inductive Slot
  | started
  | finished
  deriving DecidableEq, Repr

structure Board where
  started : Future
  finished : Future
  deriving DecidableEq, Repr

namespace Board

def fresh : Board := ⟨.pending, .pending⟩

def get (b : Board) : Slot → Future
  | .started => b.started
  | .finished => b.finished

def set (b : Board) (f : Future) : Slot → Board
  | .started => { b with started := f }
  | .finished => { b with finished := f }

def cancel (b : Board) (s : Slot) : Board :=
  match b.get s with
  | .pending => b.set .cancelled s
  | _ => b

end Board

inductive Settlement
  | result (v : Value)
  | fault (f : Fault)
  /-- A payload that is no exception, under the status `error`; `set_exception` refuses it. -/
  | foreign
  deriving Inhabited

namespace Settlement

/-- `set_exception` refuses `StopIteration` too. Then the future stays pending. -/
def future? : Settlement → Option Future
  | .result v => some (.result v.isTrue)
  | .fault f => if f.kind = .exhausted then none else some (.fault f)
  | .foreign => none

def ofMessage (m : Message) : Settlement :=
  match m.status, m.payload with
  | .error, .fault f => .fault f
  | .error, .value v => if v.isNull then .result .null else .foreign
  | _, .value v => .result v
  | _, .fault _ => .result (.bool true)

end Settlement

structure Post where
  slot : Slot
  settlement : Settlement

def lostBeforeStart : Fault := ⟨.lostWorker, "regex worker exited before starting the search"⟩

def lostWithoutResult : Fault := ⟨.lostWorker, "regex worker exited without a result"⟩

/-- An event loop that runs each call when it is posted. It is closed after `closesAfter` posts, if
ever, and before its `n`-th post the futures `cancels n` are cancelled. -/
structure Loop where
  closesAfter : Option Nat
  cancels : Nat → List Slot

namespace Loop

def steady : Loop := ⟨none, fun _ => []⟩

def accepts (l : Loop) (n : Nat) : Bool :=
  match l.closesAfter with
  | none => true
  | some k => n < k

end Loop

/-- The state of a relay. `accepted` holds the futures after each post that the loop took, `heard`
turns false when `call_soon_threadsafe` fails, and `failed` says that a future refused what was
posted. -/
structure Relay where
  board : Board
  accepted : List Board
  tried : Nat
  heard : Bool
  failed : Bool
  readerClosed : Bool
  deriving DecidableEq, Repr

namespace Relay

def start : Relay := ⟨.fresh, [], 0, true, false, false⟩

def close (r : Relay) : Relay := { r with readerClosed := true }

def settle (r : Relay) (p : Post) : Relay :=
  match r.board.get p.slot with
  | .pending =>
    match p.settlement.future? with
    | some f =>
      let board := r.board.set f p.slot
      { r with board := board, accepted := r.accepted ++ [board] }
    | none => { r with failed := true }
  | _ => { r with accepted := r.accepted ++ [r.board] }

def post (r : Relay) (l : Loop) (p : Post) : Relay :=
  if r.heard then
    let board := (l.cancels r.tried).foldl Board.cancel r.board
    let next := { r with board := board, tried := r.tried + 1, heard := l.accepts r.tried }
    if next.heard then next.settle p else next
  else r

/-- The first message says that the search has started, whatever is in it, and the second how it
ended. The reading end stays open only while a message is awaited. -/
def run (l : Loop) (p : Pipe) : Relay :=
  match p.messages with
  | [] =>
    if p.closed then
      ((start.post l ⟨.started, .fault lostBeforeStart⟩).post l
        ⟨.finished, .fault lostBeforeStart⟩).close
    else start
  | _ :: rest =>
    let r := start.post l ⟨.started, .result (.bool true)⟩
    if !r.heard then r.close
    else
      match rest with
      | [] => if p.closed then (r.post l ⟨.finished, .fault lostWithoutResult⟩).close else r
      | m :: _ => (r.post l ⟨.finished, .ofMessage m⟩).close

end Relay

/-- `timeout_ms`: an `int`, a `bool` or a `float`. -/
inductive Budget
  | whole (n : Int)
  | flag (b : Bool)
  | real (x : Float)

namespace Budget

def toScalar : Budget → Scalar
  | .whole n => .int n
  | .flag b => .bool b
  | .real x => .float x

def shown (b : Budget) : String := b.toScalar.shown

/-- From here on `timeout_ms / 1000` is an `OverflowError`. -/
def ceiling : Nat := 1000 * (Nat.pow 2 1024 - Nat.pow 2 970)

def fitsTimer : Budget → Bool
  | .whole n => n.natAbs < ceiling
  | _ => true

def ofValue? : Value → Option Budget
  | .int n => some (.whole n)
  | .bool b => some (.flag b)
  | .float x => some (.real x)
  | _ => none

end Budget

inductive Failure
  | fault (f : Fault)
  | timedOut (budget : Budget)

def timeoutMessage (budget : Budget) : String :=
  "Regex execution timed out after " ++ budget.shown ++ "ms"

def tooLong : Fault := ⟨.overflow, "integer division result too large for a float"⟩

/-- `wait_for` once no more messages come. The timer overtakes a future that is pending then, and a
`TimeoutError` of the search is caught as if it were the timer's. -/
def await (b : Board) (budget : Budget) : Except Failure Bool :=
  match b.finished with
  | .result found => .ok found
  | .fault f => .error (if f.kind = .timeout then .timedOut budget else .fault f)
  | _ => .error (.timedOut budget)

def bounded (o : Outcome) (budget : Budget) : Except Failure Bool :=
  let relay := Relay.run .steady o.report
  if budget.fitsTimer then await relay.board budget else .error (.fault tooLong)

def boundedBy (o : Outcome) (budget : Value) : Except Failure Bool :=
  match Budget.ofValue? budget with
  | some b => bounded o b
  | none => .error (.fault .wrongType)

end PatternGuard.Search
