import PatternGuard.Guard.Create

namespace PatternGuard.Manifest

def version : String := "0.1.0"

def exports : List String :=
  ["DEFAULT_CONFIG", "PatternAnalysis", "RegexTimeoutError", "SafeRegex", "SafeRegexConfig",
    "SafeRegexReason", "SafeRegexResult", "ValidationError", "__version__", "analyze_pattern",
    "create_safe_regex", "escape_for_regex", "glob_to_safe_regex", "quick_safety_check"]

end PatternGuard.Manifest

namespace PatternGuard.Guard

def overrunMessage (budget : Nat) : String :=
  "Regex execution exceeded " ++ Number.natString budget ++ "ms timeout"

/-- A call of `test_with_timeout` that has read its configuration and awaits the outcome. -/
structure Pending where
  config : Config
  target : Search.Target
  text : Value

namespace Pending

def finish (p : Pending) (now : Int) : Report Bool :=
  let budget := p.config.timeoutMs
  match Search.bounded (p.target.search p.text) (.whole budget) with
  | .error (.timedOut b) =>
    let message := overrunMessage budget
    let extra :=
      [("reason", .text Reason.executionTimeout.code), ("timeout_ms", .int budget)]
    .notified (logLine .warning now message extra) p.config.onWarning
      ⟨.onWarning, message, .text p.target.source⟩ (.error (.timedOut b))
  | outcome => .silent outcome

end Pending

def test (c : Config) (now : Int) (target : Search.Target) (text : Value) : Report Bool :=
  (Pending.mk c target text).finish now

structure Session where
  config : Config
  last : Option Regex.Pattern

/-- The calls on one `SafeRegex`. A test without a target uses the pattern that was accepted
last. -/
inductive Step
  | create (pattern flags : Value)
  | glob (glob : Value)
  | literal (text : Value)
  | configure (overrides : Keyed Setting)
  | readConfig
  | assign (key : String)
  | test (target : Option Search.Target) (text : Value)

inductive Answer
  | result (r : Result)
  | config (c : Config)
  | done
  | found (b : Bool)

inductive Refusal
  | failure (f : Search.Failure)
  | merge (issues : List Issue)
  | assign (issues : List Issue)

structure StepReport where
  outcome : Except Refusal Answer
  log : List String
  calls : List Call

namespace StepReport

def silent (outcome : Except Refusal Answer) : StepReport := ⟨outcome, [], []⟩

def ofReport {α : Type} (answer : α → Answer) (r : Report α) : StepReport :=
  ⟨match r.outcome with
    | .ok a => .ok (answer a)
    | .error f => .error (.failure f), r.log, r.calls⟩

end StepReport

namespace Session

/-- Overrides are keyword arguments, so none can have the name of a parameter. -/
def merge (taken : List String) (base : Config) (overrides : Keyed Setting) :
    Except Refusal Config :=
  if overrides.keys.any taken.contains then .error (.failure (.fault .wrongType))
  else
    match base.merge overrides with
    | .ok c => .ok c
    | .error issues => .error (.merge issues)

/-- `SafeRegex(config, **overrides)`. An override called `config` is the base if none is passed: the
defaults take the place of a false one, and any other has no fields to read. -/
def start (base : Option Config) (settings : Keyed Setting) : Except Refusal Session :=
  let merged :=
    match base, settings.get? "config" with
    | some c, _ => merge ["self", "config"] c settings
    | none, none => merge ["self"] .standard settings
    | none, some given =>
      if given.isTrue && !settings.keys.contains "self" then .error (.failure (.fault .missingPart))
      else merge ["self"] .standard (settings.erase "config")
  merged.map fun c => ⟨c, none⟩

def target (s : Session) : Search.Target :=
  match s.last with
  | some p => .pattern p
  | none => .absent

def keep (s : Session) (r : Report Result) : Session :=
  match r.outcome with
  | .ok (.accepted p) => { s with last := some p }
  | _ => s

def made (s : Session) (r : Report Result) : Session × StepReport :=
  (s.keep r, .ofReport .result r)

def step [Regex.Interpreter] (s : Session) (now : Int) : Step → Session × StepReport
  | .create pattern flags => s.made (Guard.create s.config now pattern flags)
  | .glob g => s.made (createGlob s.config now g)
  | .literal t => s.made (createLiteral s.config now t)
  | .configure overrides =>
    match merge ["self"] s.config overrides with
    | .ok c => ({ s with config := c }, .silent (.ok .done))
    | .error r => (s, .silent (.error r))
  | .readConfig => (s, .silent (.ok (.config s.config)))
  | .assign key => (s, .silent (.error (.assign (s.config.assign key))))
  | .test target text =>
    (s, .ofReport .found (Guard.test s.config now (target.getD s.target) text))

end Session

end PatternGuard.Guard
