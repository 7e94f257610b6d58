import Mathlib
import PatternGuard.Proofs.Guard.Test

namespace PatternGuard.Guard

-- Closed statements are about the standard interpreter, all others bind one of their own.
attribute [local instance] Regex.Interpreter.standard

variable {c : Config} {now : Int} {reason : Reason} {message : String}

def blockLine (now : Int) (size : Nat) (reason : Reason) : String :=
  logLine .warning now "pattern blocked"
    [("reason", .text reason.code), ("length", .int size), ("pattern", .text Log.redacted)]

def refusalLine (now : Int) : String :=
  logLine .info now "pattern rejected by engine"
    [("reason", .text Reason.invalidSyntax.code), ("pattern", .text Log.redacted)]

def overrunLine (now : Int) (budget : Nat) : String :=
  logLine .warning now (overrunMessage budget)
    [("reason", .text Reason.executionTimeout.code), ("timeout_ms", .int budget)]

theorem logLine_congr {extra extra' : Entries} (h : Log.redact extra = Log.redact extra')
    (severity : Log.Severity) :
    logLine severity now message extra = logLine severity now message extra' := by
  rw [logLine, logLine, Log.line, Log.line, Log.payload, Log.payload, h]

theorem block_eq_notified (c : Config) (now : Int) (v : Value) (size : Nat) (reason : Reason)
    (message : String) :
    block c now v size reason message =
      .notified (blockLine now size reason) c.onBlock ⟨.onBlock, message, v⟩
        (.ok (.rejected reason message)) := by
  have hline : logLine .warning now "pattern blocked"
      [("reason", .text reason.code), ("length", .int size), ("pattern", v)] =
        blockLine now size reason := logLine_congr rfl .warning
  rw [block, hline]

theorem accept_cases [Regex.Interpreter] (now : Int) (pattern : String) (flags : Value) :
    (∃ p, p.source = pattern ∧ accept now pattern flags = .silent (.ok (.accepted p))) ∨
    (∃ error, accept now pattern flags =
      ⟨.ok (.rejected .invalidSyntax error), [refusalLine now], []⟩) ∨
    ∃ f, accept now pattern flags = .silent (.error (.fault f)) := by
  cases hcompile : compile pattern flags with
  | ok p => exact .inl ⟨p, source_of_compile hcompile, accept_of_compile hcompile now⟩
  | error f =>
    by_cases hf : isRejection f = true
    · have hline : logLine .info now "pattern rejected by engine"
          [("reason", .text Reason.invalidSyntax.code), ("pattern", .text pattern)] =
            refusalLine now := logLine_congr rfl .info
      rw [accept, hcompile]
      exact .inr (.inl ⟨syntaxMessage f.message, by simp only [if_pos hf, hline]⟩)
    · exact .inr (.inr ⟨f, accept_of_failure hcompile (eq_false_of_ne_true hf) now⟩)

theorem Making.run_cases [Regex.Interpreter] (m : Making) (c : Config) (now : Int) :
    (∃ p, m.checked = .text p.source ∧
      ∀ callback, m.run { c with onBlock := callback } now = .silent (.ok (.accepted p))) ∨
    (∃ size reason error, m.checked.size? = some size ∧ reason ∈ safetyReasons ∧
      ∀ callback, m.run { c with onBlock := callback } now =
        .notified (blockLine now size reason) callback ⟨.onBlock, error, m.checked⟩
          (.ok (.rejected reason error))) ∨
    (∃ error, ∀ callback, m.run { c with onBlock := callback } now =
      ⟨.ok (.rejected .invalidSyntax error), [refusalLine now], []⟩) ∨
    ∃ f, ∀ callback, m.run { c with onBlock := callback } now = .silent (.error (.fault f)) := by
  simp only [run_eq_create]
  rcases create_cases c now m.checked m.flags with
    ⟨size, reason, error, hsize, hreason, hblock⟩ | ⟨pattern, hpattern, haccept⟩ | hsilent
  · refine .inr (.inl ⟨size, reason, error, hsize, hreason, fun callback => ?_⟩)
    rw [hblock, block_eq_notified]
  · rcases accept_cases now pattern m.flags with ⟨p, hp, hp'⟩ | ⟨error, herror⟩ | ⟨f, hf⟩
    · exact .inl ⟨p, hp ▸ hpattern, fun callback => (haccept callback).trans hp'⟩
    · exact .inr (.inr (.inl ⟨error, fun callback => (haccept callback).trans herror⟩))
    · exact .inr (.inr (.inr ⟨f, fun callback => (haccept callback).trans hf⟩))
  · exact .inr (.inr (.inr ⟨.wrongType, hsilent⟩))

theorem Making.rejected_log [Regex.Interpreter] {m : Making}
    (h : (m.run c now).outcome = .ok (.rejected reason message)) :
    (reason ∈ safetyReasons ∧
      ∃ size, m.checked.size? = some size ∧ (m.run c now).log = [blockLine now size reason]) ∨
    reason = .invalidSyntax ∧ (m.run c now).log = [refusalLine now] := by
  rcases m.run_cases c now with
    ⟨p, -, hrun⟩ | ⟨size, given, error, hsize, hgiven, hrun⟩ | ⟨error, hrun⟩ | ⟨f, hrun⟩
  all_goals rw [show m.run c now = _ from hrun c.onBlock] at h ⊢
  · cases h
  · rw [← block_eq_notified] at h
    obtain ⟨rfl, -⟩ := block_rejected h
    exact .inl ⟨hgiven, size, hsize, Report.notified_log ..⟩
  · cases h
    exact .inr ⟨rfl, rfl⟩
  · cases h

theorem Making.log_onBlock [Regex.Interpreter] (m : Making) (c : Config) (now : Int)
    (callback : Option Callback) :
    (m.run { c with onBlock := callback } now).log = (m.run c now).log := by
  rcases m.run_cases c now with
    ⟨p, -, hrun⟩ | ⟨size, given, error, -, -, hrun⟩ | ⟨error, hrun⟩ | ⟨f, hrun⟩
  all_goals rw [hrun callback, show m.run c now = _ from hrun c.onBlock]
  rw [Report.notified_log, Report.notified_log]

theorem test_log_of_timedOut {target : Search.Target} {text : Value} {spent : Search.Budget}
    (h : (test c now target text).outcome = .error (.timedOut spent)) :
    (test c now target text).log = [overrunLine now c.timeoutMs] := by
  rcases test_cases c now target text with ⟨_, -, htest⟩ | ⟨hnever, htest⟩
  · rw [htest, Report.notified_log]
    rfl
  · rw [htest, Report.silent_outcome] at h
    exact absurd h (hnever spent)

theorem test_log_onWarning (c : Config) (now : Int) (target : Search.Target) (text : Value)
    (callback : Option Callback) :
    (test { c with onWarning := callback } now target text).log = (test c now target text).log := by
  rcases test_cases c now target text with ⟨spent, hspent, htest⟩ | ⟨hnever, htest⟩
  · rcases test_cases { c with onWarning := callback } now target text with
      ⟨_, -, htest'⟩ | ⟨hnever', -⟩
    · rw [htest, htest', Report.notified_log, Report.notified_log]
    · exact absurd hspent (hnever' spent)
  · rw [htest]
    exact congrArg Report.log (test_silent_iff.2 ⟨rfl, hnever⟩)

/-- Blocked patterns of one length and one reason leave the same log, and so do any two patterns
that the engine refuses, and any two searches that overrun one budget. Callbacks change nothing in
it. -/
theorem log_discloses_length_and_reason [Regex.Interpreter] (now : Int) :
    (∀ (c c' : Config) (m m' : Making) (reason : Reason) (message message' : String),
      reason ∈ safetyReasons →
      (m.run c now).outcome = .ok (.rejected reason message) →
      (m'.run c' now).outcome = .ok (.rejected reason message') →
      m.checked.size? = m'.checked.size? →
      (m.run c now).log = (m'.run c' now).log) ∧
    (∀ (c c' : Config) (m m' : Making) (message message' : String),
      (m.run c now).outcome = .ok (.rejected .invalidSyntax message) →
      (m'.run c' now).outcome = .ok (.rejected .invalidSyntax message') →
      (m.run c now).log = (m'.run c' now).log) ∧
    (∀ (c c' : Config) (target target' : Search.Target) (text text' : Value)
      (spent spent' : Search.Budget),
      c.timeoutMs = c'.timeoutMs →
      (test c now target text).outcome = .error (.timedOut spent) →
      (test c' now target' text').outcome = .error (.timedOut spent') →
      (test c now target text).log = (test c' now target' text').log) ∧
    ∀ (c : Config) (callback : Option Callback),
      (∀ m : Making, (m.run { c with onBlock := callback } now).log = (m.run c now).log) ∧
      ∀ target text, (test { c with onWarning := callback } now target text).log =
        (test c now target text).log := by
  refine ⟨?_, ?_, ?_, ?_⟩
  · intro c c' m m' reason message message' hreason h h' hsize
    rcases Making.rejected_log h with ⟨-, size, hs, hlog⟩ | ⟨rfl, -⟩
    · rcases Making.rejected_log h' with ⟨-, size', hs', hlog'⟩ | ⟨rfl, -⟩
      · obtain rfl : size = size' := Option.some.inj (hs.symm.trans (hsize.trans hs'))
        rw [hlog, hlog']
      · exact absurd hreason (by decide)
    · exact absurd hreason (by decide)
  · intro c c' m m' message message' h h'
    rcases Making.rejected_log h with ⟨hreason, -⟩ | ⟨-, hlog⟩
    · exact absurd hreason (by decide)
    · rcases Making.rejected_log h' with ⟨hreason, -⟩ | ⟨-, hlog'⟩
      · exact absurd hreason (by decide)
      · rw [hlog, hlog']
  · intro c c' target target' text text' spent spent' hbudget h h'
    rw [test_log_of_timedOut h, test_log_of_timedOut h', hbudget]
  · intro c callback
    exact ⟨fun m => m.log_onBlock c now callback,
      fun target text => test_log_onWarning c now target text callback⟩

theorem log_discloses_no_letters :
    Reason.nestedQuantifiers ∈ safetyReasons ∧
    (Making.run .standard 0 (.pattern (.text "(a+)+") .null)).outcome =
      .ok (.rejected .nestedQuantifiers Hazard.Signature.nestedQuantifier.message) ∧
    (Making.run ⟨5, 1, 1, some ⟨0, none⟩, none⟩ 0 (.pattern (.text "(b*)*") (.int 2))).outcome =
      .ok (.rejected .nestedQuantifiers Hazard.Signature.nestedQuantifier.message) ∧
    (Making.run .standard 0 (.pattern (.text "(a+)+") .null)).log =
      (Making.run ⟨5, 1, 1, some ⟨0, none⟩, none⟩ 0 (.pattern (.text "(b*)*") (.int 2))).log := by
  have hreason : Reason.nestedQuantifiers ∈ safetyReasons := by decide
  have ha : (Making.run .standard 0 (.pattern (.text "(a+)+") .null)).outcome =
      .ok (.rejected .nestedQuantifiers Hazard.Signature.nestedQuantifier.message) := rfl
  have hb : (Making.run ⟨5, 1, 1, some ⟨0, none⟩, none⟩ 0
        (.pattern (.text "(b*)*") (.int 2))).outcome =
      .ok (.rejected .nestedQuantifiers Hazard.Signature.nestedQuantifier.message) := rfl
  exact ⟨hreason, ha, hb,
    (log_discloses_length_and_reason 0).1 _ _ _ _ _ _ _ hreason ha hb rfl⟩

end PatternGuard.Guard
