import Mathlib
import PatternGuard.Proofs.Guard.Session
import PatternGuard.Proofs.Guard.Test

/-! Searches that are under way while their guard is configured anew. A search is held to the
configuration that it read at its start. -/

namespace PatternGuard.Guard

-- Closed statements are about the standard interpreter, all others bind one of their own.
attribute [local instance] Regex.Interpreter.standard

open PatternGuard.Search

namespace StepReport

variable {α : Type} {answer : α → Answer} {r : Report α}

end StepReport

def Session.begin (s : Session) (target : Option Target) (text : Value) : Pending :=
  ⟨s.config, target.getD s.target, text⟩

theorem Session.finish_begin (s : Session) (now : Int) (target : Option Target) (text : Value) :
    (s.begin target text).finish now = test s.config now (target.getD s.target) text := by
  rw [begin, test]

theorem Session.step_test [Regex.Interpreter] (s : Session) (now : Int) (target : Option Target)
    (text : Value) :
    s.step now (.test target text) = (s, .ofReport .found ((s.begin target text).finish now)) := rfl

structure Ongoing where
  session : Session
  searches : List (Option Pending)

inductive Event
  | step (st : Step)
  | begin (target : Option Target) (text : Value)
  | finish (n : Nat)

def Event.step? : Event → Option Step
  | .step st => some st
  | _ => none

def steps (es : List (Int × Event)) : List (Int × Step) :=
  es.filterMap fun e => e.2.step?.map (e.1, ·)

namespace Ongoing

variable [Regex.Interpreter] {o : Ongoing} {now : Int} {e : Event} {n : Nat} {p : Option Pending}

def take (o : Ongoing) (now : Int) : Event → Ongoing × Option StepReport
  | .step st =>
    let (next, report) := o.session.step now st
    ({ o with session := next }, some report)
  | .begin target text =>
    ({ o with searches := o.searches ++ [some (o.session.begin target text)] }, none)
  | .finish n =>
    match o.searches[n]? with
    | some (some p) =>
      ({ o with searches := o.searches.set n none }, some (.ofReport .found (p.finish now)))
    | _ => (o, none)

def run (o : Ongoing) : List (Int × Event) → Ongoing
  | [] => o
  | (now, e) :: es => (o.take now e).1.run es

end Ongoing

theorem bounded_returned (v : Value) (n : Nat) :
    bounded (.returned v) (.whole n) =
      if n < Budget.ceiling then .ok !v.isNull else .error (.fault tooLong) := by
  rw [bounded_eq]
  simp only [Budget.fitsTimer, Int.natAbs_natCast, decide_eq_true_eq]
  rfl

theorem test_returned {target : Target} {text v : Value} (h : target.search text = .returned v)
    (c : Config) (now : Int) :
    test c now target text = .silent
      (if c.timeoutMs < Budget.ceiling then .ok !v.isNull else .error (.fault tooLong)) := by
  have hdone : ¬ (target.search text).Overruns := by
    rw [h]
    simp [Outcome.Overruns]
  rw [test_of_not_overruns hdone, h, bounded_returned]

namespace Session

variable {s : Session} {n : Nat}

theorem merge_budget {c : Config} (hc : c.Valid) (hn : 0 < n) :
    c.merge [("timeout_ms", .ofLimit n)] = .ok { c with timeoutMs := n } := by
  have hkeys : (Keyed.keys [("timeout_ms", Setting.ofLimit n)]).Nodup := by
    simp
  apply Config.ofSettings_eq_ok_iff.2
  constructor
  · exact Config.unknownKeys_update (Config.unknownKeys_settings c) hkeys
  · intro α f
    rw [Config.Field.readFrom_update hkeys]
    cases f with
    | timeoutMs => exact Config.limit_ofLimit hn
    | maxLength => exact hc.readFrom_settings .maxLength
    | maxBacktrackDepth => exact hc.readFrom_settings .maxBacktrackDepth
    | onBlock => exact hc.readFrom_settings .onBlock
    | onWarning => exact hc.readFrom_settings .onWarning

theorem step_configure_budget [Regex.Interpreter] (hs : s.config.Valid) (hn : 0 < n) (now : Int) :
    (s.step now (.configure [("timeout_ms", .ofLimit n)])).1.config =
      { s.config with timeoutMs := n } := by
  rw [step_configure_of_ok (by simp) (merge_budget hs hn)]

theorem start_budget (hn : 0 < n) :
    start none [("timeout_ms", .ofLimit n)] =
      .ok ⟨{ Config.standard with timeoutMs := n }, none⟩ := by
  have hvalid : Config.standard.Valid := ⟨by decide, by decide, by decide⟩
  have hmerge : merge ["self"] Config.standard [("timeout_ms", Setting.ofLimit n)] =
      .ok { Config.standard with timeoutMs := n } := by
    rw [merge, if_neg (mt any_taken_self.1 (by simp)), merge_budget hvalid hn]
  exact congrArg (Except.map fun c => Session.mk c none) hmerge

end Session

/-- A search that returns is answered just if `timeout_ms / 1000` does not overflow. All positive
budgets can be configured. -/
theorem search_answers_below_ceiling [Regex.Interpreter] (s : Session) (hs : s.Reachable) (now : Int)
    (target : Option Target) (text v : Value)
    (hreturned : (target.getD s.target).search text = .returned v) :
    0 < s.config.timeoutMs ∧
    s.step now (.test target text) = (s, .silent
      (if s.config.timeoutMs < Budget.ceiling then .ok (.found !v.isNull)
      else .error (.failure (.fault tooLong)))) ∧
    ∀ n, 0 < n →
      (∃ fresh, Session.start none [("timeout_ms", .ofLimit n)] = .ok fresh ∧
        fresh.config.timeoutMs = n) ∧
      (s.step now (.configure [("timeout_ms", .ofLimit n)])).1.config.timeoutMs = n := by
  refine ⟨hs.valid.timeoutMs, ?_, fun n hn => ⟨⟨_, Session.start_budget hn, rfl⟩, ?_⟩⟩
  · rw [Session.step_test, Session.finish_begin, test_returned hreturned]
    split_ifs <;> rfl
  · rw [Session.step_configure_budget hs.valid hn]

theorem search_answers_below_ceiling_in_a_second :
    let s : Session := ⟨.standard, none⟩
    let target : Target := .standIn "stand-in" (.returned (.int 0))
    s.Reachable ∧ target.search (.text "x") = .returned (.int 0) ∧
    (s.step 0 (.test (some target) (.text "x"))).2.outcome = .ok (.found true) := by
  intro s target
  have hs : s.Reachable := .start (Session.start_budget (n := 1000) (by decide))
  obtain ⟨-, hstep, -⟩ := search_answers_below_ceiling s hs 0 (some target) (.text "x") (.int 0) rfl
  have hfits : s.config.timeoutMs < Budget.ceiling := by decide +kernel
  rw [if_pos hfits] at hstep
  exact ⟨hs, rfl, by rw [hstep]; rfl⟩

theorem search_fails_at_ceiling :
    let target : Target := .standIn "stand-in" (.returned (.bool true))
    ∃ s, Session.start none [("timeout_ms", .ofLimit Budget.ceiling)] = .ok s ∧ s.Reachable ∧
      target.search (.text "x") = .returned (.bool true) ∧
      (s.step 0 (.test (some target) (.text "x"))).2.outcome =
        .error (.failure (.fault ⟨.overflow, "integer division result too large for a float"⟩)) := by
  intro target
  have hpos : 0 < Budget.ceiling := by decide +kernel
  have hstart := Session.start_budget hpos
  refine ⟨_, hstart, .start hstart, rfl, ?_⟩
  rw [Session.step_test, Session.finish_begin, test_returned rfl, if_neg (Nat.lt_irrefl _)]
  rfl

end PatternGuard.Guard
