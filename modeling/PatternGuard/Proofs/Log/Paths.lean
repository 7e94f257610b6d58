import Mathlib
import PatternGuard.Proofs.Log.Redaction

namespace PatternGuard.Log

variable {k : String} {ks before : List String}

theorem isSensitive_iff : isSensitive k = true ↔ k = "pattern" ∨ k = "input" ∨ k = "text" := by
  simp only [isSensitive, sensitiveKeys, List.contains_eq_mem, decide_eq_true_eq, List.mem_cons,
    List.not_mem_nil, or_false]
  tauto

theorem at?_redactValue (h : ∀ k ∈ ks, isSensitive k = false) (v : Value) :
    (redactValue v).at? ks = (v.at? ks).map redactValue := by
  induction ks generalizing v with
  | nil => simp
  | cons k ks ih =>
    obtain ⟨hk, hks⟩ := List.forall_mem_cons.1 h
    cases v with
    | scalar s => rfl
    | list items => rfl
    | map es =>
      simp only [redactValue, Value.at?_map, get?_redact, hk, Bool.false_eq_true, if_false]
      cases Keyed.get? k es with
      | none => rfl
      | some v => exact ih hks v

theorem at?_redactValue_of_sensitive (hbefore : ∀ l ∈ before, isSensitive l = false)
    (hk : isSensitive k = true) (v : Value) (after : List String) :
    (redactValue v).at? (before ++ k :: after) =
      (v.at? (before ++ [k])).bind fun _ => (Value.text redacted).at? after := by
  rw [Value.at?_append, at?_redactValue hbefore, Value.at?_append]
  cases v.at? before with
  | none => rfl
  | some u =>
    cases u with
    | scalar s => rfl
    | list items => rfl
    | map es =>
      simp only [Option.map_some, Option.bind_some, redactValue, Value.at?_map, get?_redact, hk,
        if_true]
      cases Keyed.get? k es <;> simp

theorem redactValue_redactValue (v : Value) : redactValue (redactValue v) = redactValue v := by
  induction v using Value.induction with
  | scalar s => rfl
  | list items ih => rfl
  | map es ih =>
    simp only [redactValue, redact_eq, List.map_map]
    congr 1
    apply List.map_congr_left
    intro e he
    simp only [Function.comp_apply]
    split_ifs with hk
    · rfl
    · rw [ih e he]

theorem redact_redact (es : Entries) : redact (redact es) = redact es := by
  have h := redactValue_redactValue (.map es)
  simpa only [redactValue, Value.map.injEq] using h

theorem isSome_at?_redact_iff (v : Value) (ks : List String) :
    ((redactValue v).at? ks).isSome = true ↔
      (v.at? ks).isSome = true ∧ ∀ k ∈ ks.dropLast, isSensitive k = false := by
  cases hfirst : ks.find? isSensitive with
  | none =>
    have hks : ∀ k ∈ ks, isSensitive k = false := by
      simpa using List.find?_eq_none.1 hfirst
    rw [at?_redactValue hks, Option.isSome_map, iff_self_and]
    intro _ k hk
    exact hks k (List.mem_of_mem_dropLast hk)
  | some k =>
    obtain ⟨hk, before, after, rfl, hbefore⟩ := List.find?_eq_some_iff_append.1 hfirst
    have hbefore : ∀ l ∈ before, isSensitive l = false := by
      simpa using hbefore
    rw [at?_redactValue_of_sensitive hbefore hk]
    cases after with
    | nil =>
      rw [List.dropLast_concat, and_iff_left hbefore]
      cases v.at? (before ++ [k]) <;> simp
    | cons l after =>
      -- The sensitive key does not stand at the end, and below the mask there is nothing.
      have hmem : k ∈ (before ++ k :: l :: after).dropLast := by
        rw [List.dropLast_append_of_ne_nil (by simp)]
        simp
      simp only [Value.at?_scalar, Option.bind_fun_none, Option.isSome_none, Bool.false_eq_true,
        false_iff, not_and]
      intro _ h
      rw [h k hmem] at hk
      cases hk

/-- A path leads to the mask where it first meets a sensitive key, and to no place behind it. Other
paths lead to what they led to. Redaction adds no path, and doing it twice is doing it once. -/
theorem redact_masks_on_paths (es : Entries) :
    (∀ before k after v, (Value.map es).at? (before ++ k :: after) = some v →
      (∀ l ∈ before, isSensitive l = false) → isSensitive k = true →
      (Value.map (redact es)).at? (before ++ [k]) = some (.text "[redacted]") ∧
      ∀ l more, (Value.map (redact es)).at? (before ++ k :: l :: more) = none) ∧
    (∀ ks v, (Value.map es).at? ks = some v → (∀ k ∈ ks, isSensitive k = false) →
      match v with
      | .map fs => ∃ gs, (Value.map (redact es)).at? ks = some (.map gs) ∧
          Keyed.keys gs = Keyed.keys fs
      | v => (Value.map (redact es)).at? ks = some v) ∧
    (∀ ks, ((Value.map (redact es)).at? ks).isSome = true ↔
      ((Value.map es).at? ks).isSome = true ∧ ∀ k ∈ ks.dropLast, isSensitive k = false) ∧
    redact (redact es) = redact es ∧
    ∀ k, isSensitive k = true ↔ k = "pattern" ∨ k = "input" ∨ k = "text" := by
  have hmap : Value.map (redact es) = redactValue (.map es) := by
    rw [redactValue]
  rw [hmap]
  refine ⟨?_, ?_, isSome_at?_redact_iff (.map es), redact_redact es, fun k => isSensitive_iff⟩
  · intro before k after v hv hbefore hk
    constructor
    · have hpath : ((Value.map es).at? (before ++ [k])).isSome = true := by
        apply Value.isSome_at?_of_append
        rw [List.append_assoc, List.singleton_append, hv]
        rfl
      rw [at?_redactValue_of_sensitive hbefore hk, Option.eq_some_of_isSome hpath]
      rfl
    · intro l more
      rw [at?_redactValue_of_sensitive hbefore hk]
      simp
  · intro ks v hv hks
    rw [at?_redactValue hks, hv]
    cases v with
    | scalar s => rfl
    | list items => rfl
    | map fs => exact ⟨redact fs, by rw [Option.map_some, redactValue], keys_redact fs⟩

theorem redact_masks_on_paths_of_request :
    let es : Entries :=
      [("request", .map [("input", .map [("text", .text "a")]), ("size", .int 1)])]
    (Value.map es).at? ["request", "input", "text"] = some (.text "a") ∧
    (Value.map (redact es)).at? ["request", "input"] = some (.text "[redacted]") ∧
    (Value.map (redact es)).at? ["request", "input", "text"] = none ∧
    (Value.map (redact es)).at? ["request", "size"] = some (.int 1) := by
  intro es
  obtain ⟨hmasked, hkept, -⟩ := redact_masks_on_paths es
  have hinput : (Value.map es).at? ["request", "input", "text"] = some (.text "a") := rfl
  have hsize : (Value.map es).at? ["request", "size"] = some (.int 1) := rfl
  obtain ⟨hmask, hbelow⟩ :=
    hmasked ["request"] "input" ["text"] (.text "a") hinput (by decide) (by decide)
  exact ⟨hinput, hmask, hbelow "text" [], hkept ["request", "size"] (.int 1) hsize (by decide)⟩

end PatternGuard.Log
