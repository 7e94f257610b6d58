import Mathlib
import PatternGuard.Guard.Create
import PatternGuard.Proofs.Hazard.QuickCheck
import PatternGuard.Proofs.Regex.Reading

namespace PatternGuard.Guard

theorem judge_eq_analyze : judge = Hazard.analyze := by
  funext p
  rw [judge]
  split_ifs with h
  · exact (Hazard.analyze_of_quickCheck h).symm
  · rfl

/-- Patterns that `quick_safety_check` clears are cleared by `analyze_pattern`, so `create` comes to
the same result, log and calls without it. -/
theorem create_without_quickCheck [Regex.Interpreter] :
    (∀ p : List Char, Hazard.quickCheck p = true →
      (∀ sig : Hazard.Signature, sig.occursIn p = false) ∧ Hazard.nesting p = 0 ∧
        Hazard.analyze p = .clear) ∧
    ∀ (c : Config) (now : Int) (pattern : String) (flags : Value),
      create c now (.text pattern) flags = createBy Hazard.analyze c now pattern flags := by
  constructor
  · intro p h
    refine ⟨fun sig => ?_, Hazard.nesting_of_quickCheck h, Hazard.analyze_of_quickCheck h⟩
    rw [← Bool.not_eq_true, Hazard.Signature.occursIn_iff]
    exact Hazard.not_holds_of_quickCheck h sig
  · intro c now pattern flags
    rw [create, createText, judge_eq_analyze]

namespace Report

open PatternGuard.Search

variable {α : Type} {outcome outcome' : Except Failure α}

@[simp] theorem silent_outcome : (silent outcome).outcome = outcome := rfl

@[simp] theorem silent_log : (silent outcome).log = [] := rfl

@[simp] theorem silent_calls : (silent outcome).calls = [] := rfl

theorem silent_inj : silent outcome = silent outcome' ↔ outcome = outcome' :=
  ⟨fun h => congrArg Report.outcome h, fun h => congrArg silent h⟩

theorem notified_log (line : String) (callback : Option Callback) (call : Call) :
    (notified line callback call outcome).log = [line] := by
  rcases callback with - | ⟨id, - | f⟩ <;> rfl

theorem notified_outcome {callback : Option Callback}
    (hreturns : ∀ b ∈ callback, b.failure = none) (line : String) (call : Call) :
    (notified line callback call outcome).outcome = outcome := by
  rcases callback with - | ⟨id, - | f⟩
  · rfl
  · rfl
  · cases hreturns _ rfl

theorem notified_ok {line : String} {callback : Option Callback} {call : Call} {a : α}
    (h : (notified line callback call outcome).outcome = .ok a) : outcome = .ok a := by
  rcases callback with - | ⟨id, - | f⟩
  · exact h
  · exact h
  · cases h

end Report

section CreateText

variable {c : Config} {pattern : String}

theorem block_outcome (hsilent : ∀ b ∈ c.onBlock, b.failure = none) (now : Int) (v : Value)
    (size : Nat) (reason : Reason) (message : String) :
    (block c now v size reason message).outcome = .ok (.rejected reason message) :=
  Report.notified_outcome hsilent ..

theorem block_rejected {now : Int} {v : Value} {size : Nat} {given reason : Reason}
    {m message : String}
    (h : (block c now v size given m).outcome = .ok (.rejected reason message)) :
    given = reason ∧ m = message := by
  cases Report.notified_ok h
  exact ⟨rfl, rfl⟩

variable [Regex.Interpreter]

theorem createText_cases (c : Config) (now : Int) (pattern : String) (flags : Value) :
    (c.maxLength < pattern.length ∧
      createText c now pattern flags =
        block c now (.text pattern) pattern.length .patternTooLong (tooLongMessage c.maxLength)) ∨
    (∃ reason message, pattern.length ≤ c.maxLength ∧
      Hazard.analyze pattern.toList = .flagged reason message ∧
      createText c now pattern flags =
        block c now (.text pattern) pattern.length reason message) ∨
    pattern.length ≤ c.maxLength ∧ Hazard.analyze pattern.toList = .clear ∧
      createText c now pattern flags = accept now pattern flags := by
  rw [createText, createBy, judge_eq_analyze]
  by_cases hlength : c.maxLength < pattern.length
  · rw [if_pos hlength]
    exact .inl ⟨hlength, rfl⟩
  · rw [if_neg hlength]
    cases hverdict : Hazard.analyze pattern.toList with
    | flagged reason message =>
      exact .inr (.inl ⟨reason, message, Nat.not_lt.1 hlength, rfl, rfl⟩)
    | clear => exact .inr (.inr ⟨Nat.not_lt.1 hlength, rfl, rfl⟩)

theorem compile_error_cases {flags : Value} {f : Fault} (h : compile pattern flags = .error f) :
    (∃ g, Modifier.flags flags = .error g ∧ f = g.toFault) ∨
    ∃ bits g, Modifier.flags flags = .ok bits ∧ Regex.Pattern.compile pattern bits = .error g ∧
      f = g.toFault pattern := by
  unfold compile at h
  split at h
  · rename_i g hflags
    exact .inl ⟨g, hflags, (Except.error.inj h).symm⟩
  · rename_i bits hflags
    split at h
    · rename_i g hcompile
      exact .inr ⟨bits, g, hflags, hcompile, (Except.error.inj h).symm⟩
    · cases h

theorem source_of_compile {flags : Value} {p : Regex.Pattern}
    (h : compile pattern flags = .ok p) : p.source = pattern := by
  unfold compile at h
  split at h
  · cases h
  · split at h
    · cases h
    · rename_i hcompile
      rw [← Except.ok.inj h]
      exact Regex.Pattern.source_of_compile hcompile

theorem accept_of_compile {flags : Value} {p : Regex.Pattern} (h : compile pattern flags = .ok p)
    (now : Int) : accept now pattern flags = .silent (.ok (.accepted p)) := by
  rw [accept, h]

theorem accept_of_rejection {flags : Value} {f : Fault} (h : compile pattern flags = .error f)
    (hf : isRejection f = true) (now : Int) :
    (accept now pattern flags).outcome =
      .ok (.rejected .invalidSyntax (syntaxMessage f.message)) := by
  rw [accept, h]
  exact congrArg Report.outcome (if_pos hf)

theorem accept_of_failure {flags : Value} {f : Fault} (h : compile pattern flags = .error f)
    (hf : isRejection f = false) (now : Int) :
    accept now pattern flags = .silent (.error (.fault f)) := by
  rw [accept, h]
  exact if_neg (by rw [hf]; exact Bool.false_ne_true)

theorem accept_rejected_cases {now : Int} {flags : Value} {reason : Reason} {error : String}
    (h : (accept now pattern flags).outcome = .ok (.rejected reason error)) :
    reason = .invalidSyntax ∧ ∃ f, compile pattern flags = .error f ∧ isRejection f = true ∧
      error = syntaxMessage f.message := by
  cases hcompile : compile pattern flags with
  | ok p =>
    rw [accept_of_compile hcompile] at h
    cases h
  | error f =>
    by_cases hf : isRejection f = true
    · rw [accept_of_rejection hcompile hf] at h
      cases h
      exact ⟨rfl, f, rfl, hf, rfl⟩
    · rw [accept_of_failure hcompile (eq_false_of_ne_true hf)] at h
      cases h

theorem compile_of_accept {now : Int} {flags : Value} {p : Regex.Pattern}
    (h : (accept now pattern flags).outcome = .ok (.accepted p)) :
    compile pattern flags = .ok p := by
  cases hcompile : compile pattern flags with
  | ok q =>
    rw [accept_of_compile hcompile] at h
    cases h
    rfl
  | error f =>
    by_cases hf : isRejection f = true
    · rw [accept_of_rejection hcompile hf] at h
      cases h
    · rw [accept_of_failure hcompile (eq_false_of_ne_true hf)] at h
      cases h

theorem compile_of_createText {now : Int} {flags : Value} {p : Regex.Pattern}
    (h : (createText c now pattern flags).outcome = .ok (.accepted p)) :
    compile pattern flags = .ok p := by
  rcases createText_cases c now pattern flags with
    ⟨-, hblock⟩ | ⟨reason, message, -, -, hblock⟩ | ⟨-, -, haccept⟩
  · rw [hblock] at h
    cases Report.notified_ok h
  · rw [hblock] at h
    cases Report.notified_ok h
  · rw [haccept] at h
    exact compile_of_accept h

theorem createText_of_length_gt (hsilent : ∀ b ∈ c.onBlock, b.failure = none)
    (h : c.maxLength < pattern.length) (now : Int) (flags : Value) :
    (createText c now pattern flags).outcome =
      .ok (.rejected .patternTooLong (tooLongMessage c.maxLength)) := by
  rw [createText, createBy, if_pos h]
  exact block_outcome hsilent _ _ _ _ _

theorem compile_ignoreCase {p : Regex.Pattern}
    (h : Regex.Pattern.compile pattern .ignoringCase = .ok p) :
    compile pattern ignoreCase = .ok p := by
  have hflags : Modifier.flags ignoreCase = .ok Regex.FlagSet.ignoringCase := rfl
  simp only [compile, hflags, h]

theorem createText_eq_accept (h : pattern.length ≤ c.maxLength)
    (hclear : Hazard.analyze pattern.toList = .clear) (now : Int) (flags : Value) :
    createText c now pattern flags = accept now pattern flags := by
  rw [createText, createBy, if_neg (Nat.not_lt.2 h), judge_eq_analyze, hclear]

theorem createText_of_clear {p : Regex.Pattern} (h : pattern.length ≤ c.maxLength)
    (hclear : Hazard.analyze pattern.toList = .clear)
    (hcompile : Regex.Pattern.compile pattern .ignoringCase = .ok p) (now : Int) :
    createText c now pattern ignoreCase = .silent (.ok (.accepted p)) := by
  rw [createText_eq_accept h hclear, accept_of_compile (compile_ignoreCase hcompile)]

theorem createText_of_flagged {reason : Reason} {message : String}
    (hsilent : ∀ b ∈ c.onBlock, b.failure = none) (h : pattern.length ≤ c.maxLength)
    (hflagged : Hazard.analyze pattern.toList = .flagged reason message) (now : Int)
    (flags : Value) :
    (createText c now pattern flags).outcome = .ok (.rejected reason message) := by
  rw [createText, createBy, if_neg (Nat.not_lt.2 h), judge_eq_analyze, hflagged]
  exact block_outcome hsilent _ _ _ _ _

theorem createText_decided_by_length {p : Regex.Pattern}
    (hsilent : ∀ b ∈ c.onBlock, b.failure = none)
    (hclear : Hazard.analyze pattern.toList = .clear)
    (hcompile : Regex.Pattern.compile pattern .ignoringCase = .ok p) (now : Int) :
    ∃ r, (createText c now pattern ignoreCase).outcome = .ok r ∧
      (r.isSafe = false ↔ c.maxLength < pattern.length) ∧
      (r.isSafe = false → r.reason = .patternTooLong) ∧
      (r.isSafe = true → r = .accepted p) := by
  by_cases h : c.maxLength < pattern.length
  · refine ⟨_, createText_of_length_gt hsilent h now ignoreCase, ?_, ?_, ?_⟩
    · simp [Result.isSafe, h]
    · simp [Result.reason]
    · simp [Result.isSafe]
  · refine ⟨.accepted p, ?_, ?_, ?_, ?_⟩
    · rw [createText_of_clear (Nat.not_lt.1 h) hclear hcompile]
      rfl
    · simp [Result.isSafe, h]
    · simp [Result.isSafe]
    · simp

end CreateText

inductive Making
  | pattern (pattern flags : Value)
  | glob (glob : Value)
  | literal (text : Value)

namespace Making

def run [Regex.Interpreter] (c : Config) (now : Int) : Making → Report Result
  | .pattern p flags => create c now p flags
  | .glob g => createGlob c now g
  | .literal t => createLiteral c now t

def checked : Making → Value
  | .pattern p _ => p
  | .glob (.text g) => .text (Glob.toPattern g)
  | .literal (.text t) => .text (Text.escape t)
  | _ => .null

def flags : Making → Value
  | .pattern _ flags => flags
  | _ => ignoreCase

theorem run_eq_create [Regex.Interpreter] (m : Making) (c : Config) (now : Int) :
    m.run c now = create c now m.checked m.flags := by
  cases m with
  | pattern p flags => rfl
  | glob g =>
    cases g with
    | scalar s => cases s <;> rfl
    | list items => rfl
    | map entries => rfl
  | literal t =>
    cases t with
    | scalar s => cases s <;> rfl
    | list items => rfl
    | map entries => rfl

end Making

def safetyReasons : List Reason :=
  [.patternTooLong, .nestedQuantifiers, .overlappingAlternation, .catastrophicBacktracking]

theorem mem_safetyReasons_of_analyze {p : List Char} {reason : Reason} {message : String}
    (h : Hazard.analyze p = .flagged reason message) : reason ∈ safetyReasons := by
  rcases Hazard.eq_of_analyze_flagged h with ⟨sig, rfl, -⟩ | ⟨rfl, -⟩
  · cases sig <;> decide
  · decide

theorem create_cases [Regex.Interpreter] (c : Config) (now : Int) (v flags : Value) :
    (∃ size reason message, v.size? = some size ∧ reason ∈ safetyReasons ∧
      ∀ callback, create { c with onBlock := callback } now v flags =
        block { c with onBlock := callback } now v size reason message) ∨
    (∃ pattern, v = .text pattern ∧
      ∀ callback, create { c with onBlock := callback } now v flags = accept now pattern flags) ∨
    ∀ callback, create { c with onBlock := callback } now v flags =
      .silent (.error (.fault .wrongType)) := by
  unfold create
  dsimp only
  split
  · rename_i s
    unfold createText createBy
    rw [judge_eq_analyze]
    dsimp only
    split_ifs
    · exact .inl ⟨_, _, _, rfl, by decide, fun _ => rfl⟩
    · cases hverdict : Hazard.analyze s.toList with
      | flagged reason message =>
        exact .inl ⟨_, _, _, rfl, mem_safetyReasons_of_analyze hverdict, fun _ => rfl⟩
      | clear => exact .inr (.inl ⟨s, rfl, fun _ => rfl⟩)
  · split
    · rename_i hsize
      split_ifs
      · exact .inl ⟨_, _, _, hsize, by decide, fun _ => rfl⟩
      · exact .inr (.inr fun _ => rfl)
    · exact .inr (.inr fun _ => rfl)

end PatternGuard.Guard
