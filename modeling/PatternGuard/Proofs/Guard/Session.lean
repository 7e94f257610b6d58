import Mathlib
import PatternGuard.Guard.Session
import PatternGuard.Proofs.Config

namespace PatternGuard.Guard

-- Closed statements are about the standard interpreter, all others bind one of their own.
attribute [local instance] Regex.Interpreter.standard

def Step.overrides? : Step → Option (Keyed Setting)
  | .configure o => if "self" ∈ o.keys then none else some o
  | _ => none

namespace Session

def run [Regex.Interpreter] (s : Session) : List (Int × Step) → Session × List StepReport
  | [] => (s, [])
  | (now, st) :: steps =>
    let (next, report) := s.step now st
    let (last, reports) := next.run steps
    (last, report :: reports)

/-- The sessions that steps lead to. -/
inductive Reachable [Regex.Interpreter] : Session → Prop
  | start {base : Option Config} {settings : Keyed Setting} {s : Session} :
      Session.start base settings = .ok s → Reachable s
  | step {s : Session} (now : Int) (st : Step) : Reachable s → Reachable (s.step now st).1

variable {s : Session} {now : Int} {o : Keyed Setting}

theorem run_cons [Regex.Interpreter] (s : Session) (now : Int) (st : Step)
    (steps : List (Int × Step)) :
    s.run ((now, st) :: steps) =
      (((s.step now st).1.run steps).1, (s.step now st).2 :: ((s.step now st).1.run steps).2) := rfl

theorem any_taken_self : o.keys.any ["self"].contains = true ↔ "self" ∈ o.keys := by
  simp [List.any_eq_true]

theorem step_configure_of_self [Regex.Interpreter] (h : "self" ∈ o.keys) :
    s.step now (.configure o) = (s, .silent (.error (.failure (.fault .wrongType)))) := by
  simp only [step, merge, if_pos (any_taken_self.2 h)]

theorem step_configure_of_ok [Regex.Interpreter] {c : Config} (hself : "self" ∉ o.keys)
    (h : s.config.merge o = .ok c) :
    s.step now (.configure o) = ({ s with config := c }, .silent (.ok .done)) := by
  simp only [step, merge, if_neg (mt any_taken_self.1 hself), h]

theorem step_configure_of_error [Regex.Interpreter] {issues : List Issue} (hself : "self" ∉ o.keys)
    (h : s.config.merge o = .error issues) :
    s.step now (.configure o) = (s, .silent (.error (.merge issues))) := by
  simp only [step, merge, if_neg (mt any_taken_self.1 hself), h]

theorem keep_config (s : Session) (r : Report Result) : (s.keep r).config = s.config := by
  rw [keep]
  split <;> rfl

theorem step_config [Regex.Interpreter] (s : Session) (now : Int) (st : Step) :
    (s.step now st).1.config = st.overrides?.elim s.config s.config.mergeKept := by
  cases st with
  | create pattern flags => exact s.keep_config _
  | glob g => exact s.keep_config _
  | literal t => exact s.keep_config _
  | configure o =>
    by_cases hself : "self" ∈ o.keys
    · rw [step_configure_of_self hself, Step.overrides?, if_pos hself]
      rfl
    · rw [Step.overrides?, if_neg hself, Option.elim_some, Config.mergeKept]
      cases hmerge : s.config.merge o with
      | ok c => rw [step_configure_of_ok hself hmerge]
      | error issues => rw [step_configure_of_error hself hmerge]
  | readConfig => rfl
  | assign key => rfl
  | test target text => rfl

theorem run_config [Regex.Interpreter] (s : Session) (steps : List (Int × Step)) :
    (s.run steps).1.config = s.config.mergeAll (steps.filterMap (·.2.overrides?)) := by
  induction steps generalizing s with
  | nil => rfl
  | cons st steps ih =>
    obtain ⟨now, st⟩ := st
    rw [run_cons, ih, step_config]
    cases h : st.overrides? <;> simp [h, Config.mergeAll]

theorem merge_ok {taken : List String} {b c : Config} (h : merge taken b o = .ok c) :
    b.merge o = .ok c := by
  unfold merge at h
  split at h
  · cases h
  · split at h
    · rename_i hmerge
      rw [hmerge, ← Except.ok.inj h]
    · cases h

theorem eq_config_of_map {r : Except Refusal Config}
    (h : r.map (fun c => (⟨c, none⟩ : Session)) = .ok s) : r = .ok s.config := by
  cases r with
  | ok c =>
    cases h
    rfl
  | error refusal => cases h

theorem start_some {b : Config} (h : start (some b) o = .ok s) : b.merge o = .ok s.config :=
  merge_ok (eq_config_of_map h)

theorem start_none (h : start none o = .ok s) :
    Config.standard.merge (o.erase "config") = .ok s.config := by
  unfold start at h
  cases hgiven : o.get? "config" with
  | none =>
    rw [hgiven] at h
    rw [Keyed.erase_eq_self hgiven]
    exact merge_ok (eq_config_of_map h)
  | some given =>
    rw [hgiven] at h
    dsimp only at h
    split at h
    · cases h
    · exact merge_ok (eq_config_of_map h)

theorem Reachable.valid [Regex.Interpreter] (h : s.Reachable) : s.config.Valid := by
  induction h with
  | @start base settings s hstart =>
    cases base with
    | none => exact Config.merge_valid (start_none hstart)
    | some b => exact Config.merge_valid (start_some hstart)
  | @step s now st _ ih =>
    rw [step_config]
    cases st.overrides? with
    | none => exact ih
    | some o => exact Config.mergeKept_valid ih o

end Session

/-- A run of `configure` calls leaves what one merge of all overrides that succeed leaves, and
limits stay positive. Two merges in a row fail with the errors of one, and a merge that fails
changes nothing. -/
theorem configured_as_merged_once [Regex.Interpreter] (b : Config) (hb : b.Valid) :
    (∀ os : List (Keyed Setting), (b.mergeAll os).Valid ∧
      ((∀ o ∈ os, o.keys.Nodup) →
        b.merge (Config.joined (b.succeeding os)) = .ok (b.mergeAll os))) ∧
    (∀ (o o' : Keyed Setting) (c : Config), o.keys.Nodup → o'.keys.Nodup →
      b.merge o = .ok c → c.merge o' = b.merge (o.update o')) ∧
    (∀ (o : Keyed Setting) (issues : List Issue), o.keys.Nodup → b.merge o = .error issues →
      b.mergeKept o = b ∧ issues ≠ [] ∧
      ∃ declared : List Issue, issues = declared ++ Config.unknownKeys o ∧
        (declared.map (·.key)).Sublist Config.keys) ∧
    b.merge [] = .ok b ∧
    (∀ s : Session, s.Reachable → s.config.Valid) ∧
    (∀ (settings : Keyed Setting) (s : Session),
      Session.start (some b) settings = .ok s → b.merge settings = .ok s.config) ∧
    ∀ s : Session, s.config = b →
      (∀ steps : List (Int × Step),
        (s.run steps).1.config = b.mergeAll (steps.filterMap (·.2.overrides?))) ∧
      ∀ (now : Int) (o : Keyed Setting) (refusal : Refusal),
        (s.step now (.configure o)).2.outcome = .error refusal →
          (s.step now (.configure o)).1 = s ∧
          if "self" ∈ o.keys then refusal = .failure (.fault .wrongType)
          else ∃ issues, refusal = .merge issues ∧ b.merge o = .error issues := by
  refine ⟨?_, ?_, ?_, Config.merge_nil hb, fun s => Session.Reachable.valid, ?_, ?_⟩
  · intro os
    exact ⟨Config.mergeAll_valid hb os, Config.merge_joined_succeeding hb⟩
  · intro o o' c ho ho'
    exact Config.merge_merge ho ho'
  · intro o issues ho herror
    exact ⟨Config.mergeKept_of_error herror, Config.merge_error ho herror⟩
  · intro settings s hstart
    exact Session.start_some hstart
  · rintro s rfl
    refine ⟨s.run_config, ?_⟩
    intro now o refusal hrefused
    by_cases hself : "self" ∈ o.keys
    · rw [Session.step_configure_of_self hself] at hrefused ⊢
      cases hrefused
      exact ⟨rfl, by rw [if_pos hself]⟩
    · cases hmerge : s.config.merge o with
      | ok c =>
        rw [Session.step_configure_of_ok hself hmerge] at hrefused
        cases hrefused
      | error issues =>
        rw [Session.step_configure_of_error hself hmerge] at hrefused ⊢
        cases hrefused
        rw [if_neg hself]
        exact ⟨rfl, issues, rfl, rfl⟩

theorem configured_as_merged_once_past_failure :
    Config.standard.Valid ∧
    (∀ o ∈ [[("timeout_ms", Setting.value (.bool true))],
        [("max_length", .value (.int 0)), ("depth", .value .null)],
        [("max_length", .value (.int 7)), ("on_block", .callback ⟨0, none⟩)]],
      (Keyed.keys o).Nodup) ∧
    Config.standard.mergeAll [[("timeout_ms", .value (.bool true))],
        [("max_length", .value (.int 0)), ("depth", .value .null)],
        [("max_length", .value (.int 7)), ("on_block", .callback ⟨0, none⟩)]] =
      ⟨7, 1, 100000, some ⟨0, none⟩, none⟩ ∧
    Config.standard.merge [("timeout_ms", .value (.bool true)), ("max_length", .value (.int 7)),
        ("on_block", .callback ⟨0, none⟩)] = .ok ⟨7, 1, 100000, some ⟨0, none⟩, none⟩ ∧
    Config.standard.merge [("max_length", .value (.int 0)), ("depth", .value .null)] =
      .error [⟨"max_length", .notPositive⟩, ⟨"depth", .unknownKey⟩] ∧
    Config.standard.mergeKept [("max_length", .value (.int 0)), ("depth", .value .null)] =
      .standard := by
  have hvalid : Config.standard.Valid := ⟨by decide, by decide, by decide⟩
  obtain ⟨hruns, -, hfailed, -⟩ := configured_as_merged_once .standard hvalid
  have hdistinct : ∀ o ∈ [[("timeout_ms", Setting.value (.bool true))],
      [("max_length", .value (.int 0)), ("depth", .value .null)],
      [("max_length", .value (.int 7)), ("on_block", .callback ⟨0, none⟩)]],
      (Keyed.keys o).Nodup := by
    simp
  have herror : Config.standard.merge [("max_length", .value (.int 0)), ("depth", .value .null)] =
      .error [⟨"max_length", .notPositive⟩, ⟨"depth", .unknownKey⟩] := rfl
  exact ⟨hvalid, hdistinct, rfl, (hruns _).2 hdistinct, herror, (hfailed _ _ (by simp) herror).1⟩

end PatternGuard.Guard
