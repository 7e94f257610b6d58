import Mathlib
import PatternGuard.Proofs.Search.Relay

namespace PatternGuard

def Fault.Sendable (f : Fault) : Prop := f.isError = true ∧ ∀ name, f.kind ≠ .unsendable name

namespace Search

def Outcome.settled : Outcome → Future
  | .returned v => .result !v.isNull
  | .raised f =>
    match f.kind with
    | .ending _ => .fault lostWithoutResult
    | .unsendable name => .fault ⟨.runtime, name ++ ": " ++ f.message⟩
    | .exhausted => .pending
    | _ => .fault f
  | .died => .fault lostWithoutResult
  | .unfinished => .pending

theorem Outcome.settled_of_sendable {f : Fault} (hsend : f.Sendable) (hheld : f.kind ≠ .exhausted) :
    (raised f).settled = .fault f := by
  obtain ⟨herror, hname⟩ := hsend
  obtain ⟨kind, message⟩ := f
  cases kind with
  | ending name => cases herror
  | unsendable name => exact absurd rfl (hname name)
  | exhausted => exact absurd rfl hheld
  | _ => rfl

theorem Outcome.settled_of_ending {f : Fault} (h : f.isError = false) :
    (raised f).settled = .fault lostWithoutResult := by
  obtain ⟨kind, message⟩ := f
  cases kind with
  | ending name => rfl
  | _ => cases h

theorem Outcome.report_messages (o : Outcome) :
    ∃ more, o.report.messages = ready :: more ∧ more.length ≤ 1 := by
  cases o with
  | raised f =>
    rw [report]
    split_ifs
    · exact ⟨_, rfl, Nat.le_refl 1⟩
    · exact ⟨_, rfl, Nat.zero_le 1⟩
  | returned v => exact ⟨_, rfl, Nat.le_refl 1⟩
  | died => exact ⟨_, rfl, Nat.zero_le 1⟩
  | unfinished => exact ⟨_, rfl, Nat.zero_le 1⟩

theorem Outcome.report_closed (o : Outcome) : o.report.closed = true ↔ o ≠ .unfinished := by
  cases o with
  | raised f =>
    rw [report]
    split_ifs <;> simp
  | _ => simp [report]

namespace Relay

theorem started_of_ready (ms : List Message) (closed : Bool) :
    (run .steady ⟨ready :: ms, closed⟩).board.started = .result true := by
  cases ms with
  | nil => cases closed <;> rfl
  | cons m ms =>
    have hrun : (run .steady ⟨ready :: m :: ms, closed⟩).board =
        (Board.mk (.result true) .pending).afterAll [.posted ⟨.finished, .ofMessage m⟩] :=
      @postAll_board start rfl .steady [⟨.started, .result (.bool true)⟩, ⟨.finished, .ofMessage m⟩]
    have hstarted : (Board.mk (.result true) .pending).get .started ≠ .pending := by
      simp [Board.get]
    have hkept := Board.get_afterAll_of_settled hstarted [.posted ⟨.finished, .ofMessage m⟩]
    rw [hrun]
    exact hkept

theorem board_report (o : Outcome) : (run .steady o.report).board = ⟨.result true, o.settled⟩ := by
  cases o with
  | returned v => rfl
  | raised f =>
    obtain ⟨kind, message⟩ := f
    cases kind <;> rfl
  | died => rfl
  | unfinished => rfl

/-- The child sends `ready` and at most one message more, from which the relay settles `finished` as
the search ended: with whether there is a match, with its exception, a description of one that
cannot be pickled, or a `ChildProcessError`. A `StopIteration` leaves it pending. -/
theorem run_transports_outcome (o : Outcome) :
    (∃ more, o.report.messages = ready :: more ∧ more.length ≤ 1) ∧
    (o.report.closed = true ↔ o ≠ .unfinished) ∧
    (∀ ms closed, ready :: ms <+: o.report.messages →
      (run .steady ⟨ready :: ms, closed⟩).board.started = .result true) ∧
    (∀ v, o = .returned v → (run .steady o.report).board = ⟨.result true, .result !v.isNull⟩) ∧
    (∀ f, o = .raised f → f.Sendable → f.kind ≠ .exhausted →
      (run .steady o.report).board = ⟨.result true, .fault f⟩) ∧
    (∀ f, o = .raised f → f.kind = .exhausted →
      (run .steady o.report).board = ⟨.result true, .pending⟩ ∧
        (run .steady o.report).failed = true) ∧
    (∀ name message, o = .raised ⟨.unsendable name, message⟩ →
      (run .steady o.report).board =
        ⟨.result true, .fault ⟨.runtime, name ++ ": " ++ message⟩⟩) ∧
    ((∃ f, o = .raised f ∧ f.isError = false) ∨ o = .died →
      (run .steady o.report).board = ⟨.result true, .fault lostWithoutResult⟩) ∧
    (run .steady ⟨[], true⟩).board = ⟨.fault lostBeforeStart, .fault lostBeforeStart⟩ ∧
    lostWithoutResult.kind = .lostWorker ∧ lostBeforeStart.kind = .lostWorker := by
  have hboard := board_report o
  refine ⟨o.report_messages, o.report_closed, fun ms closed _ => started_of_ready ms closed,
    ?_, ?_, ?_, ?_, ?_, rfl, rfl, rfl⟩
  · rintro v rfl
    exact hboard
  · rintro f rfl hsend hheld
    rw [hboard, Outcome.settled_of_sendable hsend hheld]
  · rintro ⟨kind, message⟩ rfl hkind
    have hkind : kind = .exhausted := hkind
    subst hkind
    exact ⟨hboard, rfl⟩
  · rintro name message rfl
    exact hboard
  · rintro (⟨f, rfl, hending⟩ | rfl)
    · rw [hboard, Outcome.settled_of_ending hending]
    · exact hboard

theorem run_transports_zero_and_fault :
    (run .steady (Outcome.returned (.int 0)).report).board = ⟨.result true, .result true⟩ ∧
    (Fault.Sendable ⟨.badValue, "engine fault"⟩ ∧
      (run .steady (Outcome.raised ⟨.badValue, "engine fault"⟩).report).board =
        ⟨.result true, .fault ⟨.badValue, "engine fault"⟩⟩) ∧
    (run .steady (Outcome.raised ⟨.unsendable "Unpicklable", "engine fault"⟩).report).board =
      ⟨.result true, .fault ⟨.runtime, "Unpicklable: engine fault"⟩⟩ ∧
    (run .steady (Outcome.raised ⟨.ending "SystemExit", "0"⟩).report).board =
      ⟨.result true, .fault lostWithoutResult⟩ := by
  have hsend : Fault.Sendable ⟨.badValue, "engine fault"⟩ := ⟨rfl, fun name => by simp⟩
  obtain ⟨-, -, -, hvalue, -⟩ := run_transports_outcome (.returned (.int 0))
  obtain ⟨-, -, -, -, hfault, -⟩ := run_transports_outcome (.raised ⟨.badValue, "engine fault"⟩)
  obtain ⟨-, -, -, -, -, -, hdescribed, -⟩ :=
    run_transports_outcome (.raised ⟨.unsendable "Unpicklable", "engine fault"⟩)
  obtain ⟨-, -, -, -, -, -, -, hlost, -⟩ :=
    run_transports_outcome (.raised ⟨.ending "SystemExit", "0"⟩)
  exact ⟨hvalue _ rfl, ⟨hsend, hfault _ rfl hsend (by simp)⟩, hdescribed _ _ rfl,
    hlost (.inl ⟨_, rfl, rfl⟩)⟩

end Relay

end Search

end PatternGuard

namespace PatternGuard.Search

variable {o : Outcome} {f : Fault}

def Outcome.Overruns (o : Outcome) : Prop :=
  o = .unfinished ∨ ∃ f, o = .raised f ∧ (f.kind = .timeout ∨ f.kind = .exhausted)

theorem Outcome.overruns_raised :
    (raised f).Overruns ↔ f.kind = .timeout ∨ f.kind = .exhausted := by
  simp [Overruns]

theorem bounded_eq (o : Outcome) (budget : Budget) :
    bounded o budget =
      if budget.fitsTimer then await ⟨.result true, o.settled⟩ budget
      else .error (.fault tooLong) := by
  rw [bounded, Relay.board_report]

theorem await_settled_of_overruns (h : o.Overruns) (budget : Budget) :
    await ⟨.result true, o.settled⟩ budget = .error (.timedOut budget) := by
  rcases h with rfl | ⟨⟨kind, message⟩, rfl, hkind⟩
  · rfl
  · dsimp only at hkind
    rcases hkind with rfl | rfl
    · rfl
    · rfl

theorem await_settled_of_not_overruns (h : ¬ o.Overruns) (budget spent : Budget) :
    await ⟨.result true, o.settled⟩ budget ≠ .error (.timedOut spent) := by
  cases o with
  | returned v => simp [await, Outcome.settled]
  | raised f =>
    obtain ⟨kind, message⟩ := f
    rw [Outcome.overruns_raised] at h
    cases kind <;> simp_all [await, Outcome.settled, lostWithoutResult]
  | died => simp [await, Outcome.settled, lostWithoutResult]
  | unfinished => exact absurd (.inl rfl) h

theorem bounded_timedOut_iff {budget spent : Budget} :
    bounded o budget = .error (.timedOut spent) ↔
      budget.fitsTimer = true ∧ spent = budget ∧ o.Overruns := by
  rw [bounded_eq]
  by_cases hfits : budget.fitsTimer = true
  · rw [if_pos hfits]
    by_cases h : o.Overruns
    · simp [await_settled_of_overruns h, hfits, h, eq_comm]
    · simp [await_settled_of_not_overruns h, h]
  · simp [hfits]

theorem bounded_raised_iff (hsend : f.Sendable) {budget : Budget} :
    bounded (.raised f) budget = .error (.fault f) ↔
      f.kind ≠ .timeout ∧ f.kind ≠ .exhausted ∧ (budget.fitsTimer = true ∨ f = tooLong) := by
  rw [bounded_eq]
  by_cases hfits : budget.fitsTimer = true
  · rw [if_pos hfits]
    by_cases h : (Outcome.raised f).Overruns
    · have hkind := Outcome.overruns_raised.1 h
      rw [await_settled_of_overruns h]
      simp only [Except.error.injEq, reduceCtorEq, false_iff]
      intro ⟨htimeout, hexhausted, _⟩
      exact hkind.elim htimeout hexhausted
    · have hkind := not_or.1 (mt Outcome.overruns_raised.2 h)
      rw [Outcome.settled_of_sendable hsend hkind.2]
      simp [await, hkind, hfits]
  · have hkind : f = tooLong → f.kind ≠ .timeout ∧ f.kind ≠ .exhausted := by
      rintro rfl
      simp [tooLong]
    simp only [hfits, Bool.false_eq_true, if_false, Except.error.injEq, Failure.fault.injEq,
      false_or]
    constructor
    · intro h
      exact ⟨(hkind h.symm).1, (hkind h.symm).2, h.symm⟩
    · intro ⟨_, _, h⟩
      exact h.symm

end PatternGuard.Search
