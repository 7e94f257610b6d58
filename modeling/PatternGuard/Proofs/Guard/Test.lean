import Mathlib
import PatternGuard.Guard.Session
import PatternGuard.Proofs.Guard.Create
import PatternGuard.Proofs.Search.Transport

namespace PatternGuard.Guard

open PatternGuard.Search

variable {c : Config} {now : Int} {target : Target} {text : Value}

theorem test_cases (c : Config) (now : Int) (target : Target) (text : Value) :
    (∃ spent, bounded (target.search text) (.whole c.timeoutMs) = .error (.timedOut spent) ∧
      test c now target text =
        .notified
          (logLine .warning now (overrunMessage c.timeoutMs)
            [("reason", .text Reason.executionTimeout.code), ("timeout_ms", .int c.timeoutMs)])
          c.onWarning ⟨.onWarning, overrunMessage c.timeoutMs, .text target.source⟩
          (.error (.timedOut spent))) ∨
    (∀ spent, bounded (target.search text) (.whole c.timeoutMs) ≠ .error (.timedOut spent)) ∧
      test c now target text = .silent (bounded (target.search text) (.whole c.timeoutMs)) := by
  delta test Pending.finish
  -- The match stays closed: to open it, the ceiling of the budgets would have to be computed.
  dsimp -iota only
  generalize bounded (target.search text) (.whole c.timeoutMs) = outcome
  match outcome with
  | .ok _ => exact .inr ⟨by simp, rfl⟩
  | .error (.fault _) => exact .inr ⟨by simp, rfl⟩
  | .error (.timedOut spent) => exact .inl ⟨spent, rfl, rfl⟩

theorem test_silent_iff {outcome : Except Failure Bool} :
    test c now target text = .silent outcome ↔
      bounded (target.search text) (.whole c.timeoutMs) = outcome ∧
        ∀ spent, outcome ≠ .error (.timedOut spent) := by
  constructor
  · intro htest
    rcases test_cases c now target text with ⟨spent, -, hnotified⟩ | ⟨hnever, hsilent⟩
    · have hlog := congrArg Report.log (hnotified.symm.trans htest)
      rw [Report.notified_log, Report.silent_log] at hlog
      cases hlog
    · rw [hsilent, Report.silent_inj] at htest
      subst htest
      exact ⟨rfl, hnever⟩
  · rintro ⟨rfl, hnever⟩
    rcases test_cases c now target text with ⟨spent, hspent, -⟩ | ⟨-, hsilent⟩
    · exact absurd hspent (hnever spent)
    · exact hsilent

theorem test_of_not_overruns (h : ¬ (target.search text).Overruns) :
    test c now target text = .silent (bounded (target.search text) (.whole c.timeoutMs)) :=
  test_silent_iff.2 ⟨rfl, fun _ hspent => h (bounded_timedOut_iff.1 hspent).2.2⟩

/-- An exception of the search leaves `test_with_timeout` as it is and without a trace, unless it is
a `TimeoutError`, which is taken for the timer's, or a `StopIteration`, for which the timer runs
out, or the timer cannot be set. No other search is reported as a timeout, but for one that takes
too long. -/
theorem test_reports_overruns_only (c : Config) (now : Int) (target : Target) (text : Value) :
    (∀ f, target.search text = .raised f → f.Sendable →
      (test c now target text = .silent (.error (.fault f)) ↔
        f.kind ≠ .timeout ∧ f.kind ≠ .exhausted ∧
          ((Budget.whole c.timeoutMs).fitsTimer = true ∨ f = tooLong))) ∧
    ((∃ spent, (test c now target text).outcome = .error (.timedOut spent)) ∨
        (test c now target text).log ≠ [] ∨ (test c now target text).calls ≠ [] →
      target.search text = .unfinished ∨
        ∃ f, target.search text = .raised f ∧ (f.kind = .timeout ∨ f.kind = .exhausted)) := by
  constructor
  · intro f hsearch hsend
    rw [test_silent_iff, hsearch, bounded_raised_iff hsend, and_iff_left]
    intro spent
    simp
  · intro h
    by_contra hoverruns
    simp only [test_of_not_overruns hoverruns, Report.silent_outcome, Report.silent_log,
      Report.silent_calls, ne_eq, not_true, or_false] at h
    obtain ⟨spent, hspent⟩ := h
    exact hoverruns (bounded_timedOut_iff.1 hspent).2.2

theorem test_reports_overruns_only_broken :
    (Fault.Sendable ⟨.badValue, "engine fault"⟩ ∧
      test .standard 0 (.standIn "broken" (.raised ⟨.badValue, "engine fault"⟩)) (.text "x") =
        .silent (.error (.fault ⟨.badValue, "engine fault"⟩))) ∧
    (test .standard 0 (.standIn "slow" .unfinished) (.text "x")).log ≠ [] ∧
    ((Target.standIn "slow" .unfinished).search (.text "x") = .unfinished ∨
      ∃ f, (Target.standIn "slow" .unfinished).search (.text "x") = .raised f ∧
        (f.kind = .timeout ∨ f.kind = .exhausted)) := by
  have hsend : Fault.Sendable ⟨.badValue, "engine fault"⟩ := ⟨rfl, fun name => by simp⟩
  have hfits : (Budget.whole Config.standard.timeoutMs).fitsTimer = true := by decide +kernel
  have hlog : (test .standard 0 (.standIn "slow" .unfinished) (.text "x")).log ≠ [] := by
    rcases test_cases .standard 0 (.standIn "slow" .unfinished) (.text "x")
      with ⟨spent, -, htest⟩ | ⟨hnever, -⟩
    · simp [htest, Report.notified_log]
    · exact absurd (bounded_timedOut_iff.2 ⟨hfits, rfl, .inl rfl⟩) (hnever _)
  obtain ⟨hfault, -⟩ := test_reports_overruns_only .standard 0
    (.standIn "broken" (.raised ⟨.badValue, "engine fault"⟩)) (.text "x")
  obtain ⟨-, honly⟩ :=
    test_reports_overruns_only .standard 0 (.standIn "slow" .unfinished) (.text "x")
  refine ⟨⟨hsend, (hfault ⟨.badValue, "engine fault"⟩ rfl hsend).2 ⟨?_, ?_, .inl hfits⟩⟩, hlog,
    honly (.inr (.inl hlog))⟩
  · simp
  · simp

theorem test_takes_timeout_for_overrun :
    Fault.Sendable ⟨.timeout, "engine fault"⟩ ∧
    (test ⟨500, 1000, 1, none, some ⟨0, none⟩⟩ 0
        (.standIn "broken" (.raised ⟨.timeout, "engine fault"⟩)) (.text "x")).outcome =
      .error (.timedOut (.whole 1000)) ∧
    (test ⟨500, 1000, 1, none, some ⟨0, none⟩⟩ 0
        (.standIn "broken" (.raised ⟨.timeout, "engine fault"⟩)) (.text "x")).log.length = 1 ∧
    (test ⟨500, 1000, 1, none, some ⟨0, none⟩⟩ 0
        (.standIn "broken" (.raised ⟨.timeout, "engine fault"⟩)) (.text "x")).calls =
      [⟨.onWarning, overrunMessage 1000, .text "broken"⟩] := by
  have hbounded :
      bounded (.raised ⟨.timeout, "engine fault"⟩) (.whole 1000) =
        .error (.timedOut (.whole 1000)) :=
    bounded_timedOut_iff.2 ⟨by decide +kernel, rfl, Outcome.overruns_raised.2 (.inl rfl)⟩
  rcases test_cases ⟨500, 1000, 1, none, some ⟨0, none⟩⟩ 0
      (.standIn "broken" (.raised ⟨.timeout, "engine fault"⟩)) (.text "x")
    with ⟨spent, hspent, htest⟩ | ⟨hnever, -⟩
  · obtain ⟨-, rfl, -⟩ := bounded_timedOut_iff.1 hspent
    rw [htest]
    exact ⟨⟨rfl, fun name => by simp⟩, rfl, rfl, rfl⟩
  · exact absurd hbounded (hnever _)

end PatternGuard.Guard
