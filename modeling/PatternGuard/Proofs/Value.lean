import Mathlib
import PatternGuard.Value

namespace PatternGuard.Keyed

variable {α : Type} {es more : Keyed α} {e : String × α} {k l : String} {v : α}

@[simp] theorem keys_nil : keys ([] : Keyed α) = [] := rfl

@[simp] theorem keys_cons (e : String × α) (es : Keyed α) : keys (e :: es) = e.1 :: keys es := rfl

theorem keys_map_snd {β : Type} (f : α → β) (es : Keyed α) :
    keys (es.map fun e => (e.1, f e.2)) = keys es := by
  simp [keys, Function.comp_def]

theorem keys_put (k : String) (v : α) (es : Keyed α) :
    keys (put k v es) = if k ∈ keys es then keys es else keys es ++ [k] := by
  induction es with
  | nil => rfl
  | cons e es ih =>
    obtain ⟨l, w⟩ := e
    rw [put]
    by_cases hl : l = k
    · simp [hl]
    · simp only [beq_iff_eq, hl, if_false, keys_cons, ih, List.mem_cons, Ne.symm hl, false_or]
      by_cases hk : k ∈ keys es
      · simp [hk]
      · simp [hk]

theorem keys_update (hmore : (keys more).Nodup) (es : Keyed α) :
    keys (update es more) = keys es ++ (keys more).filter (· ∉ keys es) := by
  induction more generalizing es with
  | nil => exact (List.append_nil _).symm
  | cons e more ih =>
    obtain ⟨k, v⟩ := e
    obtain ⟨hk, hmore⟩ := List.nodup_cons.1 hmore
    rw [update, ih hmore, keys_put, keys_cons, List.filter_cons]
    by_cases hmem : k ∈ keys es
    · simp [hmem]
    · simp only [hmem, not_false_eq_true, decide_true, if_true, if_false, List.append_assoc,
        List.singleton_append]
      congr 2
      apply List.filter_congr
      intro l hl
      have hne : l ≠ k := fun h => hk (h ▸ hl)
      simp [hne]

theorem nodup_keys_update (hes : (keys es).Nodup) (hmore : (keys more).Nodup) :
    (keys (update es more)).Nodup := by
  rw [keys_update hmore]
  apply hes.append (hmore.filter _)
  intro k hk hfilter
  exact absurd hk (by simpa using (List.mem_filter.1 hfilter).2)

theorem get?_cons (k : String) (e : String × α) (es : Keyed α) :
    get? k (e :: es) = if k = e.1 then some e.2 else get? k es := by
  obtain ⟨l, v⟩ := e
  by_cases h : k = l
  · simp [get?, h]
  · have hbeq : (k == l) = false := beq_false_of_ne h
    simp [get?, List.lookup, hbeq, h]

theorem get?_map_snd {β : Type} (f : α → β) (es : Keyed α) (k : String) :
    get? k (es.map fun e => (e.1, f e.2)) = (get? k es).map f := by
  induction es with
  | nil => rfl
  | cons e es ih =>
    rw [List.map_cons, get?_cons, get?_cons, ih]
    split_ifs <;> rfl

theorem get?_eq_none (h : k ∉ keys es) : get? k es = none := by
  induction es with
  | nil => rfl
  | cons e es ih =>
    rw [keys_cons, List.mem_cons, not_or] at h
    rw [get?_cons, if_neg h.1, ih h.2]

theorem erase_eq_self (h : get? k es = none) : erase k es = es := by
  rw [erase, List.filter_eq_self]
  intro e he
  have hne := List.lookup_eq_none_iff.1 h e he
  rw [bne_iff_ne] at hne ⊢
  exact hne.symm

theorem get?_put (k l : String) (v : α) (es : Keyed α) :
    get? l (put k v es) = if l = k then some v else get? l es := by
  induction es with
  | nil => exact get?_cons l (k, v) []
  | cons e es ih =>
    obtain ⟨m, w⟩ := e
    rw [put]
    by_cases hm : m = k
    · simp only [hm, beq_self_eq_true, if_true, get?_cons]
      split_ifs <;> rfl
    · simp only [beq_iff_eq, hm, if_false, get?_cons, ih]
      by_cases hl : l = m
      · simp [hl, hm]
      · simp [hl]

theorem get?_update (hmore : (keys more).Nodup) (es : Keyed α) (k : String) :
    get? k (update es more) = (get? k more).or (get? k es) := by
  induction more generalizing es with
  | nil => rfl
  | cons e more ih =>
    obtain ⟨l, w⟩ := e
    obtain ⟨hl, hmore⟩ := List.nodup_cons.1 hmore
    rw [update, ih hmore, get?_put, get?_cons]
    by_cases hk : k = l
    · rw [hk, get?_eq_none hl]
      simp
    · simp [hk]

theorem mem_of_get? (h : get? k es = some v) : (k, v) ∈ es := by
  induction es with
  | nil => cases h
  | cons e es ih =>
    rw [get?_cons] at h
    split_ifs at h with hk
    · rw [hk, ← Option.some.inj h]
      exact List.mem_cons_self
    · exact List.mem_cons_of_mem _ (ih h)

theorem mem_put_self : (k, v) ∈ put k v es := by
  induction es with
  | nil => exact List.mem_singleton_self _
  | cons x es ih =>
    rw [put]
    split_ifs with hx
    · rw [eq_of_beq hx]
      exact List.mem_cons_self
    · exact List.mem_cons_of_mem _ ih

theorem mem_put_of_mem (h : e ∈ es) (hne : e.1 ≠ k) : e ∈ put k v es := by
  induction es with
  | nil => cases h
  | cons x es ih =>
    rw [put]
    rcases List.mem_cons.1 h with rfl | h
    · rw [if_neg (by simpa using hne)]
      exact List.mem_cons_self
    · split_ifs
      · exact List.mem_cons_of_mem _ h
      · exact List.mem_cons_of_mem _ (ih h)

theorem eq_or_mem_of_mem_put (h : e ∈ put k v es) : e = (k, v) ∨ e ∈ es := by
  induction es with
  | nil => exact .inl (List.mem_singleton.1 h)
  | cons x es ih =>
    rw [put] at h
    split_ifs at h with hx
    · rw [eq_of_beq hx] at h
      exact (List.mem_cons.1 h).imp_right (List.mem_cons_of_mem _)
    · rcases List.mem_cons.1 h with rfl | h
      · exact .inr List.mem_cons_self
      · exact (ih h).imp_right (List.mem_cons_of_mem _)

theorem mem_of_mem_update (h : e ∈ update es more) : e ∈ es ∨ e ∈ more := by
  induction more generalizing es with
  | nil => exact .inl h
  | cons x more ih =>
    rcases ih h with h | h
    · rcases eq_or_mem_of_mem_put h with rfl | h
      · exact .inr List.mem_cons_self
      · exact .inl h
    · exact .inr (List.mem_cons_of_mem _ h)

theorem mem_update_of_mem_left (h : e ∈ es) (hne : e.1 ∉ keys more) : e ∈ update es more := by
  induction more generalizing es with
  | nil => exact h
  | cons x more ih =>
    obtain ⟨hx, hmore⟩ := not_or.1 (mt List.mem_cons.2 hne)
    exact ih (mem_put_of_mem h hx) hmore

theorem mem_update_of_mem_right (hkeys : (keys more).Nodup) (h : e ∈ more) :
    e ∈ update es more := by
  induction more generalizing es with
  | nil => cases h
  | cons x more ih =>
    obtain ⟨k, v⟩ := x
    obtain ⟨hk, hmore⟩ := List.nodup_cons.1 hkeys
    rw [update]
    rcases List.mem_cons.1 h with rfl | h
    · exact mem_update_of_mem_left mem_put_self hk
    · exact ih hmore h

end PatternGuard.Keyed

namespace PatternGuard.Value

@[elab_as_elim]
theorem induction {motive : Value → Prop} (scalar : ∀ s, motive (.scalar s))
    (list : ∀ items, (∀ v ∈ items, motive v) → motive (.list items))
    (map : ∀ es : Entries, (∀ e ∈ es, motive e.2) → motive (.map es)) (v : Value) : motive v := by
  match v with
  | .scalar s => exact scalar s
  | .list items =>
    apply list
    intro v hv
    exact induction scalar list map v
  | .map es =>
    apply map
    intro e he
    exact induction scalar list map e.2
termination_by sizeOf v
decreasing_by
  · have hlt : sizeOf v < sizeOf items := List.sizeOf_lt_of_mem hv
    simp only [Value.list.sizeOf_spec]
    omega
  · have hlt : sizeOf e < sizeOf es := List.sizeOf_lt_of_mem he
    cases e
    simp only [Prod.mk.sizeOf_spec, Value.map.sizeOf_spec] at hlt ⊢
    omega

/-- The value at a path of keys. -/
def at? : Value → List String → Option Value
  | v, [] => some v
  | .map es, k :: ks => (Keyed.get? k es).bind (at? · ks)
  | _, _ :: _ => none

@[simp] theorem at?_nil (v : Value) : v.at? [] = some v := by
  cases v <;> rfl

@[simp] theorem at?_scalar (s : Scalar) (k : String) (ks : List String) :
    (Value.scalar s).at? (k :: ks) = none := rfl

@[simp] theorem at?_list (items : List Value) (k : String) (ks : List String) :
    (Value.list items).at? (k :: ks) = none := rfl

@[simp] theorem at?_map (es : Entries) (k : String) (ks : List String) :
    (Value.map es).at? (k :: ks) = (Keyed.get? k es).bind (at? · ks) := rfl

theorem at?_append (v : Value) (ks ls : List String) :
    v.at? (ks ++ ls) = (v.at? ks).bind (at? · ls) := by
  induction ks generalizing v with
  | nil => simp
  | cons k ks ih =>
    cases v with
    | scalar s => rfl
    | list items => rfl
    | map es => simp [ih, Option.bind_assoc]

theorem isSome_at?_of_append {v : Value} {ks ls : List String}
    (h : (v.at? (ks ++ ls)).isSome = true) : (v.at? ks).isSome = true := by
  rw [at?_append] at h
  cases hv : v.at? ks with
  | none =>
    rw [hv] at h
    cases h
  | some u => rfl

theorem toJson_list (items : List Value) :
    (Value.list items).toJson = .array (items.map toJson) := by
  rw [toJson]
  congr 1
  induction items with
  | nil => rfl
  | cons v vs ih => rw [itemsToJson, ih, List.map_cons]

theorem toJson_map (es : Entries) :
    (Value.map es).toJson = .object (es.map fun e => (e.1, e.2.toJson)) := by
  rw [toJson]
  congr 1
  induction es with
  | nil => rfl
  | cons e es ih =>
    obtain ⟨k, v⟩ := e
    rw [entriesToJson, ih, List.map_cons]

theorem member?_toJson_map (es : Entries) (k : String) :
    (Value.map es).toJson.member? k = (Keyed.get? k es).map toJson := by
  rw [toJson_map, Json.member?]
  exact Keyed.get?_map_snd toJson es k

end PatternGuard.Value
