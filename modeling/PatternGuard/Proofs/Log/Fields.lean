import Mathlib
import PatternGuard.Proofs.Log.Redaction

namespace PatternGuard.Log

variable {component message : Value} {level k : String} {now : Int} {extra : Entries} {j : Json}

def canonical (component : Value) (now : Int) (level : String) : Keyed Json :=
  [("ts", .text (timestamp now)), ("lvl", .text (Unicode.uppercase level)),
    ("component", component.toJson)]

def filled (component : Value) (now : Int) (level : String) (message : Value) : Entries :=
  [("ts", .text (timestamp now)), ("lvl", .text (Unicode.uppercase level)), ("msg", message),
    ("component", component)]

theorem payload_eq (component : Value) (now : Int) (level : String) (message : Value)
    (extra : Entries) :
    payload component now level message extra =
      (filled component now level message).update (redact extra) := rfl

theorem keys_payload (hkeys : (Keyed.keys extra).Nodup) :
    Keyed.keys (payload component now level message extra) =
      ["ts", "lvl", "msg", "component"] ++
        (Keyed.keys extra).filter (· ∉ ["ts", "lvl", "msg", "component"]) := by
  rw [← keys_redact extra] at hkeys ⊢
  exact Keyed.keys_update hkeys (filled component now level message)

theorem get?_payload (hkeys : (Keyed.keys extra).Nodup) (k : String) :
    Keyed.get? k (payload component now level message extra) =
      (Keyed.get? k (redact extra)).or (Keyed.get? k (filled component now level message)) := by
  rw [payload_eq, Keyed.get?_update]
  rw [keys_redact]
  exact hkeys

theorem get?_filled_of_mem_canonical (h : (k, j) ∈ canonical component now level)
    (message : Value) :
    (Keyed.get? k (filled component now level message)).map Value.toJson = some j := by
  simp only [canonical, List.mem_cons, Prod.mk.injEq, List.not_mem_nil, or_false] at h
  rcases h with ⟨rfl, rfl⟩ | ⟨rfl, rfl⟩ | ⟨rfl, rfl⟩
  · rfl
  · rfl
  · rfl

theorem not_isSensitive_of_mem_canonical (h : (k, j) ∈ canonical component now level) :
    isSensitive k = false := by
  simp only [canonical, List.mem_cons, Prod.mk.injEq, List.not_mem_nil, or_false] at h
  rcases h with ⟨rfl, -⟩ | ⟨rfl, -⟩ | ⟨rfl, -⟩ <;> decide

theorem member?_payload_of_mem_canonical (hkeys : (Keyed.keys extra).Nodup)
    (h : (k, j) ∈ canonical component now level) :
    (Value.map (payload component now level message extra)).toJson.member? k =
      some ((Keyed.get? k extra).elim j fun v => (redactValue v).toJson) := by
  rw [Value.member?_toJson_map, get?_payload hkeys, get?_redact, not_isSensitive_of_mem_canonical h]
  cases Keyed.get? k extra with
  | none => exact get?_filled_of_mem_canonical h message
  | some v => rfl

theorem writeAt_eq (severity : Severity) (component : Value) (now : Int) (message : Value)
    (extra : Entries) :
    writeAt severity component now message (.map extra) =
      if "self" ∈ Keyed.keys extra ∨ "message" ∈ Keyed.keys extra then .error .wrongType
      else write component now (.text severity.level) message (.map extra) := by
  have htaken : (Keyed.keys extra).any takenNames.contains = true ↔
      "self" ∈ Keyed.keys extra ∨ "message" ∈ Keyed.keys extra := by
    simp [takenNames, List.any_eq_true, and_or_left, exists_or]
  simp only [writeAt, htaken]
  rfl

theorem uppercase_level (severity : Severity) :
    Unicode.uppercase severity.level = severity.level := by
  cases severity <;> decide +kernel

/-- `ts`, `lvl` and `component` of a line are the logger's own, unless an extra has their name and
is written in their place. -/
theorem write_says_added_fields (component message : Value) (level : String) (now : Int)
    (extra : Entries) (hkeys : (Keyed.keys extra).Nodup) :
    let entry := (Value.map (payload component now level message extra)).toJson
    write component now (.text level) message (.map extra) = .ok (entry.line ++ "\n") ∧
    (∀ k j, (k, j) ∈ canonical component now level →
      entry.member? k = some ((Keyed.get? k extra).elim j fun v => (redactValue v).toJson)) ∧
    ∀ severity : Severity, Unicode.uppercase severity.level = severity.level ∧
      writeAt severity component now message (.map extra) =
        if "self" ∈ Keyed.keys extra ∨ "message" ∈ Keyed.keys extra then .error .wrongType
        else write component now (.text severity.level) message (.map extra) := by
  refine ⟨rfl, fun k j h => member?_payload_of_mem_canonical hkeys h, fun severity => ?_⟩
  exact ⟨uppercase_level severity, writeAt_eq severity component now message extra⟩

theorem write_says_added_fields_of_component :
    (Keyed.keys [("component", Value.text "other"), ("length", .int 3)]).Nodup ∧
    let entry := (Value.map (payload (.text "app") 0 "warn" (.text "m")
      [("component", .text "other"), ("length", .int 3)])).toJson
    entry.member? "component" = some (.text "other") ∧
    entry.member? "ts" = some (.text (timestamp 0)) ∧
    entry.member? "lvl" = some (.text "WARN") := by
  have hkeys : (Keyed.keys [("component", Value.text "other"), ("length", .int 3)]).Nodup := by
    decide
  obtain ⟨-, hfields, -⟩ := write_says_added_fields (.text "app") (.text "m") "warn" 0 _ hkeys
  have hlevel : Unicode.uppercase "warn" = "WARN" := by decide +kernel
  refine ⟨hkeys, hfields "component" (Value.text "app").toJson (by simp [canonical]),
    hfields "ts" (.text (timestamp 0)) (by simp [canonical]), ?_⟩
  rw [← hlevel]
  exact hfields "lvl" (.text (Unicode.uppercase "warn")) (by simp [canonical])

theorem write_forged_by_additions :
    let extra : Entries :=
      [("ts", .text "never"), ("lvl", .text "DEBUG"), ("component", .text "other")]
    let entry := (Value.map (payload (.text "pressurelid") 0 "WARN" (.text "m") extra)).toJson
    writeAt .warning (.text "pressurelid") 0 (.text "m") (.map extra) = .ok (entry.line ++ "\n") ∧
    entry.member? "ts" ≠ some (.text (timestamp 0)) ∧
    entry.member? "lvl" ≠ some (.text "WARN") ∧
    entry.member? "component" ≠ some (.text "pressurelid") := by
  intro extra entry
  have hmember : ∀ k j, (k, j) ∈ canonical (.text "pressurelid") 0 "WARN" → entry.member? k =
      some ((Keyed.get? k extra).elim j fun v => (redactValue v).toJson) :=
    fun k j => member?_payload_of_mem_canonical (by decide)
  have hts : entry.member? "ts" = some (.text "never") :=
    hmember "ts" (.text (timestamp 0)) (by simp [canonical])
  have hlvl : entry.member? "lvl" = some (.text "DEBUG") :=
    hmember "lvl" (.text (Unicode.uppercase "WARN")) (by simp [canonical])
  have hcomponent : entry.member? "component" = some (.text "other") :=
    hmember "component" (Value.text "pressurelid").toJson (by simp [canonical])
  have htime : "never" ≠ timestamp 0 := by
    intro h
    have hmem : 'T' ∈ (timestamp 0).toList := by
      simp [timestamp, timestampChars]
    rw [← h] at hmem
    exact absurd hmem (by decide)
  rw [hts, hlvl, hcomponent]
  exact ⟨rfl, by simpa using htime, by simp, by simp⟩

end PatternGuard.Log
