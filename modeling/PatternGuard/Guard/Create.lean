import PatternGuard.Config
import PatternGuard.Log
import PatternGuard.Search
import PatternGuard.Transform

/-! `create`, `createGlob` and `createLiteral` are the methods `create`, `glob_to_regex` and
`from_user_input` of `SafeRegex`; `block` is `_block`. A report holds the outcome of a call, the
lines that it logs and the callbacks that it calls. -/

namespace PatternGuard.Guard

inductive Result
  | accepted (p : Regex.Pattern)
  | rejected (reason : Reason) (error : String)

namespace Result

def isSafe : Result → Bool
  | .accepted _ => true
  | .rejected .. => false

def reason : Result → Reason
  | .accepted _ => .ok
  | .rejected r _ => r

def error? : Result → Option String
  | .accepted _ => none
  | .rejected _ e => some e

def pattern? : Result → Option Regex.Pattern
  | .accepted p => some p
  | .rejected .. => none

end Result

structure Call where
  hook : Hook
  message : String
  subject : Value

structure Report (α : Type) where
  outcome : Except Search.Failure α
  log : List String
  calls : List Call

namespace Report

variable {α : Type}

def silent (outcome : Except Search.Failure α) : Report α := ⟨outcome, [], []⟩

/-- Logs, then calls. An exception of the callback is the outcome of the call. -/
def notified (line : String) (callback : Option Callback) (call : Call)
    (outcome : Except Search.Failure α) : Report α :=
  match callback with
  | none => ⟨outcome, [line], []⟩
  | some c =>
    match c.failure with
    | none => ⟨outcome, [line], [call]⟩
    | some f => ⟨.error (.fault f), [line], [call]⟩

end Report

def component : Value := .text "pressurelid.guard"

def logLine (severity : Log.Severity) (now : Int) (message : String) (extra : Entries) : String :=
  Log.line component now severity.level (.text message) extra

def tooLongMessage (limit : Nat) : String :=
  "Pattern exceeds maximum length of " ++ Number.natString limit

def block (c : Config) (now : Int) (pattern : Value) (size : Nat) (reason : Reason)
    (message : String) : Report Result :=
  let extra := [("reason", .text reason.code), ("length", .int size), ("pattern", pattern)]
  .notified (logLine .warning now "pattern blocked" extra) c.onBlock
    ⟨.onBlock, message, pattern⟩ (.ok (.rejected reason message))

variable [Regex.Interpreter]

def compile (pattern : String) (flags : Value) : Except Fault Regex.Pattern :=
  match Modifier.flags flags with
  | .error f => .error f.toFault
  | .ok bits =>
    match Regex.Pattern.compile pattern bits with
    | .error f => .error (f.toFault pattern)
    | .ok p => .ok p

/-- `except (re.error, ValueError)`: all other classes leave `create`. -/
def isRejection (f : Fault) : Bool :=
  match f.kind with
  | .badPattern => true
  | .badValue => true
  | _ => false

def syntaxMessage (message : String) : String := "Invalid regex syntax: " ++ message

def accept (now : Int) (pattern : String) (flags : Value) : Report Result :=
  match compile pattern flags with
  | .ok p => .silent (.ok (.accepted p))
  | .error f =>
    if isRejection f then
      let extra := [("reason", .text Reason.invalidSyntax.code), ("pattern", .text pattern)]
      ⟨.ok (.rejected .invalidSyntax (syntaxMessage f.message)),
        [logLine .info now "pattern rejected by engine" extra], []⟩
    else .silent (.error (.fault f))

/-- `create`, with any analysis in the place of its two. -/
def createBy (judge : List Char → Hazard.Verdict) (c : Config) (now : Int) (pattern : String)
    (flags : Value) : Report Result :=
  if c.maxLength < pattern.length then
    block c now (.text pattern) pattern.length .patternTooLong (tooLongMessage c.maxLength)
  else
    match judge pattern.toList with
    | .flagged reason message => block c now (.text pattern) pattern.length reason message
    | .clear => accept now pattern flags

def judge (pattern : List Char) : Hazard.Verdict :=
  if Hazard.quickCheck pattern then .clear else Hazard.analyze pattern

def createText (c : Config) (now : Int) (pattern : String) (flags : Value) : Report Result :=
  createBy judge c now pattern flags

/-- A pattern that is no text but has a length is held to the length limit first, and then fails. -/
def create (c : Config) (now : Int) (pattern flags : Value) : Report Result :=
  match pattern with
  | .text s => createText c now s flags
  | v =>
    match v.size? with
    | some n =>
      if c.maxLength < n then
        block c now v n .patternTooLong (tooLongMessage c.maxLength)
      else .silent (.error (.fault .wrongType))
    | none => .silent (.error (.fault .wrongType))

def ignoreCase : Value := .int (Regex.FlagSet.ofList [.ignoreCase])

def createGlob (c : Config) (now : Int) (glob : Value) : Report Result :=
  match glob with
  | .text g => createText c now (Glob.toPattern g) ignoreCase
  | _ => .silent (.error (.fault .wrongType))

def createLiteral (c : Config) (now : Int) (text : Value) : Report Result :=
  match text with
  | .text t => createText c now (Text.escape t) ignoreCase
  | _ => .silent (.error (.fault .wrongType))

end PatternGuard.Guard
