import Mathlib
import PatternGuard.Log
import PatternGuard.Proofs.Value

namespace PatternGuard

inductive Json.HasMember : Json → String → Json → Prop
  | here {ms : List (String × Json)} {k : String} {v : Json} :
      (k, v) ∈ ms → HasMember (.object ms) k v
  | inObject {ms : List (String × Json)} {k l : String} {v w : Json} :
      (l, w) ∈ ms → HasMember w k v → HasMember (.object ms) k v
  | inArray {js : List Json} {k : String} {v w : Json} :
      w ∈ js → HasMember w k v → HasMember (.array js) k v

namespace Log

/-- The members of sensitive keys are masked, at any depth. -/
def Masked (j : Json) : Prop :=
  ∀ k v, j.HasMember k v → isSensitive k = true → v = .text redacted

theorem masked_text (s : String) : Masked (.text s) := by
  intro k v h
  cases h

theorem masked_scalar (s : Scalar) : Masked s.toJson := by
  intro k v h
  cases s <;> cases h

theorem masked_array_iff {js : List Json} : Masked (.array js) ↔ ∀ j ∈ js, Masked j := by
  constructor
  · intro h j hj k v hm
    exact h k v (.inArray hj hm)
  · intro h k v hm
    cases hm with
    | inArray hj hm => exact h _ hj k v hm

theorem masked_object_iff {ms : List (String × Json)} :
    Masked (.object ms) ↔
      ∀ m ∈ ms, if isSensitive m.1 then m.2 = .text redacted else Masked m.2 := by
  constructor
  · rintro h ⟨k, v⟩ hm
    dsimp only
    split_ifs with hk
    · exact h k v (.here hm) hk
    · intro l w hw
      exact h l w (.inObject hm hw)
  · intro h k v hm hk
    cases hm with
    | here hm => simpa [hk] using h _ hm
    | @inObject _ _ l _ w hw hm =>
      have hw := h _ hw
      dsimp only at hw
      split_ifs at hw with hl
      · subst hw
        cases hm
      · exact hw k v hm hk

/-- A list that a value holds through dicts alone, under no sensitive key. -/
inductive Holds : Value → List Value → Prop
  | list {items : List Value} : Holds (.list items) items
  | map {es : Entries} {k : String} {v : Value} {items : List Value} :
      (k, v) ∈ es → isSensitive k = false → Holds v items → Holds (.map es) items

theorem redact_eq (es : Entries) :
    redact es =
      es.map fun e => (e.1, if isSensitive e.1 then .text redacted else redactValue e.2) := by
  induction es with
  | nil => rfl
  | cons e es ih => rw [redact, ih]; rfl

theorem keys_redact (es : Entries) : Keyed.keys (redact es) = Keyed.keys es := by
  simp [Keyed.keys, redact_eq, Function.comp_def]

theorem get?_redact (es : Entries) (k : String) :
    Keyed.get? k (redact es) =
      (Keyed.get? k es).map fun v => if isSensitive k then .text redacted else redactValue v := by
  induction es with
  | nil => rfl
  | cons e es ih =>
    rw [redact, Keyed.get?_cons, Keyed.get?_cons, ih]
    split_ifs with hk <;> simp_all

theorem masked_entries_iff {es : Entries} :
    Masked (Value.map es).toJson ↔
      ∀ e ∈ es, if isSensitive e.1 then e.2.toJson = .text redacted else Masked e.2.toJson := by
  rw [Value.toJson_map, masked_object_iff, List.forall_mem_map]

theorem masked_redact_iff {es : Entries} :
    Masked (Value.map (redact es)).toJson ↔
      ∀ e ∈ es, isSensitive e.1 = false → Masked (redactValue e.2).toJson := by
  rw [masked_entries_iff, redact_eq, List.forall_mem_map]
  refine forall₂_congr fun e _ => ?_
  cases h : isSensitive e.1 with
  | false => simp
  | true => simp [Value.toJson, Scalar.toJson]

theorem holds_map_iff {es : Entries} {items : List Value} :
    Holds (.map es) items ↔ ∃ e ∈ es, isSensitive e.1 = false ∧ Holds e.2 items := by
  constructor
  · rintro (_ | ⟨he, hk, hv⟩)
    exact ⟨_, he, hk, hv⟩
  · rintro ⟨e, he, hk, hv⟩
    exact .map he hk hv

theorem masked_redactValue_iff (v : Value) :
    Masked (redactValue v).toJson ↔ ∀ items, Holds v items → Masked (Value.list items).toJson := by
  induction v using Value.induction with
  | scalar s =>
    refine iff_of_true (masked_scalar s) fun items h => ?_
    cases h
  | list items =>
    constructor
    · rintro h _ ⟨⟩
      exact h
    · intro h
      exact h items .list
  | map es ih =>
    rw [redactValue, masked_redact_iff]
    simp only [holds_map_iff]
    constructor
    · rintro h items ⟨e, he, hk, hv⟩
      exact (ih e he).1 (h e he hk) items hv
    · intro h e he hk
      exact (ih e he).2 fun items hv => h items ⟨e, he, hk, hv⟩

variable {component message level : String} {now : Int} {extra : Entries}

theorem masked_payload_iff (hkeys : (Keyed.keys extra).Nodup) :
    Masked (Value.map (payload (.text component) now level (.text message) extra)).toJson ↔
      Masked (Value.map (redact extra)).toJson := by
  simp only [masked_entries_iff, payload]
  constructor
  · intro h e he
    exact h e (Keyed.mem_update_of_mem_right ((keys_redact extra).symm ▸ hkeys) he)
  · intro h e he
    rcases Keyed.mem_of_mem_update he with he | he
    · simp only [List.mem_cons, List.not_mem_nil, or_false] at he
      rcases he with rfl | rfl | rfl | rfl <;>
        exact masked_text _
    · exact h e he

/-- A line has all its sensitive members masked just if the lists in the extras, which are not
redacted, have. -/
theorem write_masks_outside_lists (component message level : String) (now : Int) (extra : Entries)
    (hkeys : (Keyed.keys extra).Nodup) :
    write (.text component) now (.text level) (.text message) (.map extra) =
      .ok ((Value.map (payload (.text component) now level (.text message) extra)).toJson.line
        ++ "\n") ∧
    (Masked (Value.map (payload (.text component) now level (.text message) extra)).toJson ↔
      ∀ items, Holds (.map extra) items → Masked (Value.list items).toJson) := by
  refine ⟨rfl, ?_⟩
  rw [masked_payload_iff hkeys, ← masked_redactValue_iff, redactValue]

theorem write_masks_nested_maps :
    (Keyed.keys [("request", Value.map [("input", .text "a"), ("sizes", .list [.int 1])])]).Nodup ∧
    Masked (Value.map (payload (.text "app") 0 "info" (.text "m")
      [("request", .map [("input", .text "a"), ("sizes", .list [.int 1])])])).toJson := by
  have hkeys : (Keyed.keys [("request", Value.map [("input", .text "a"),
      ("sizes", .list [.int 1])])]).Nodup := by decide
  refine ⟨hkeys, (write_masks_outside_lists "app" "m" "info" 0 _ hkeys).2.2 fun items h => ?_⟩
  have hitems : items = [.int 1] := by
    simp only [holds_map_iff, List.mem_cons, List.not_mem_nil, or_false,
      exists_eq_left, exists_eq_or_imp] at h
    obtain ⟨-, ⟨hinput, -⟩ | ⟨-, ⟨⟩⟩⟩ := h
    · exact absurd hinput (by decide)
    · rfl
  subst hitems
  simp only [Value.toJson, masked_array_iff, itemsToJson, List.forall_mem_singleton]
  exact masked_scalar (.int 1)

theorem write_leaks_list_members :
    ¬ Masked (Value.map (payload (.text "pressurelid") 0 "info" (.text "m")
      [("items", .list [.map [("pattern", .text "secret")]])])).toJson := by
  intro h
  have hmember : (Value.map (payload (.text "pressurelid") 0 "info" (.text "m")
      [("items", .list [.map [("pattern", .text "secret")]])])).toJson.HasMember "pattern"
      (.text "secret") := by
    rw [Value.toJson_map]
    refine .inObject (l := "items") (w := .array [.object [("pattern", .text "secret")]]) ?_ ?_
    · exact List.mem_map.2 ⟨("items", .list [.map [("pattern", .text "secret")]]),
        Keyed.mem_update_of_mem_right (by decide) List.mem_cons_self, rfl⟩
    · exact .inArray List.mem_cons_self (.here List.mem_cons_self)
  have hsecret := h "pattern" (.text "secret") hmember (by decide)
  simp [redacted] at hsecret

end Log

end PatternGuard
