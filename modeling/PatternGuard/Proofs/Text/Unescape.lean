import Mathlib
import PatternGuard.Proofs.Text.Escape

namespace PatternGuard.Text

def metacharacters : List Char :=
  ['.', '*', '+', '?', '^', '$', '\x7b', '\x7d', '(', ')', '|', '[', ']', '\\']

theorem isSpecial_iff {c : Char} : isSpecial c = true ↔ c ∈ metacharacters := by
  simp only [isSpecial, isGlobSpecial, metacharacters, Bool.or_eq_true, beq_iff_eq, List.mem_cons,
    List.not_mem_nil, or_false]
  tauto

/-- One character that is no metacharacter, or one that is, behind a backslash. -/
inductive EscapeUnit : List Char → Prop
  | plain {c : Char} : c ∉ metacharacters → EscapeUnit [c]
  | escaped {c : Char} : c ∈ metacharacters → EscapeUnit ['\\', c]

def dropBackslash : List Char → List Char
  | ['\\', c] => [c]
  | u => u

def unitOf (c : Char) : List Char := if c ∈ metacharacters then ['\\', c] else [c]

variable {c : Char} {u a b : List Char}

theorem escapeUnit_unitOf (c : Char) : EscapeUnit (unitOf c) := by
  rw [unitOf]
  split_ifs with hc
  · exact .escaped hc
  · exact .plain hc

theorem EscapeUnit.exists_eq_unitOf (h : EscapeUnit u) : ∃ c, u = unitOf c := by
  cases h with
  | plain hc => exact ⟨_, (if_neg hc).symm⟩
  | escaped hc => exact ⟨_, (if_pos hc).symm⟩

theorem dropBackslash_unitOf (c : Char) : dropBackslash (unitOf c) = [c] := by
  rw [unitOf]
  split_ifs with hc
  · rfl
  · simp [dropBackslash]

theorem escapeChars_eq_flatten (cs : List Char) : escapeChars cs = (cs.map unitOf).flatten := by
  rw [escapeChars, escapeWhere, ← List.flatMap_def]
  apply List.flatMap_congr
  intro c _
  simp only [unitOf, isSpecial_iff]

theorem escapeChars_cons (c : Char) (cs : List Char) :
    escapeChars (c :: cs) = unitOf c ++ escapeChars cs := by
  rw [escapeChars_eq_flatten, escapeChars_eq_flatten, List.map_cons, List.flatten_cons]

theorem escapeChars_append (cs ds : List Char) :
    escapeChars (cs ++ ds) = escapeChars cs ++ escapeChars ds := by
  simp only [escapeChars_eq_flatten, List.map_append, List.flatten_append]

theorem escape_append (s t : String) : escape (s ++ t) = escape s ++ escape t := by
  rw [escape, String.toList_append, escapeChars_append, String.ofList_append, escape, escape]

theorem unescapeChars_unitOf_append (c : Char) (cs : List Char) :
    unescapeChars (unitOf c ++ cs) = (unescapeChars cs).map (c :: ·) := by
  rw [unitOf]
  split_ifs with hc
  · exact if_pos (isSpecial_iff.2 hc)
  · rw [List.singleton_append, unescapeChars]
    · exact if_neg (mt isSpecial_iff.1 hc)
    · rintro d ds rfl
      exact absurd (by decide) hc

theorem unescapeChars_escapeChars (cs : List Char) : unescapeChars (escapeChars cs) = some cs := by
  induction cs with
  | nil => rfl
  | cons c cs ih => rw [escapeChars_cons, unescapeChars_unitOf_append, ih, Option.map_some]

theorem escapeChars_injective : Function.Injective escapeChars := by
  intro cs ds h
  simpa [unescapeChars_escapeChars] using congrArg unescapeChars h

theorem escape_injective : Function.Injective escape := by
  intro s t h
  apply String.toList_injective
  apply escapeChars_injective
  simpa using congrArg String.toList h

theorem eq_map_unitOf {us : List (List Char)} {cs : List Char} (hus : ∀ u ∈ us, EscapeUnit u)
    (h : us.flatten = escapeChars cs) : us = cs.map unitOf := by
  have hrange : us ∈ Set.range (List.map unitOf) := by
    rw [Set.range_list_map]
    intro u hu
    obtain ⟨c, hc⟩ := (hus u hu).exists_eq_unitOf
    exact ⟨c, hc.symm⟩
  obtain ⟨ds, rfl⟩ := hrange
  rw [← escapeChars_eq_flatten] at h
  rw [escapeChars_injective h]

def endingBackslashes (cs : List Char) : Nat := (cs.rtakeWhile (· == '\\')).length

theorem endingBackslashes_backslash (cs : List Char) :
    endingBackslashes (cs ++ ['\\']) = endingBackslashes cs + 1 := by
  simp [endingBackslashes]

theorem endingBackslashes_of_ne (hc : c ≠ '\\') (cs : List Char) :
    endingBackslashes (cs ++ [c]) = 0 := by
  simp [endingBackslashes, hc]

theorem escapeChars_concat (cs : List Char) (c : Char) :
    escapeChars (cs ++ [c]) = escapeChars cs ++ unitOf c := by
  rw [escapeChars_append, escapeChars_cons]
  exact congrArg (escapeChars cs ++ ·) (List.append_nil _)

theorem even_endingBackslashes (cs : List Char) : Even (endingBackslashes (escapeChars cs)) := by
  induction cs using List.reverseRecOn with
  | nil => exact ⟨0, rfl⟩
  | append_singleton cs c ih =>
    rw [escapeChars_concat]
    by_cases hc : c = '\\'
    · have hunit : unitOf c = ['\\'] ++ ['\\'] := by rw [hc]; rfl
      rw [hunit, ← List.append_assoc, endingBackslashes_backslash, endingBackslashes_backslash]
      exact ih.add even_two
    · have hzero : endingBackslashes (escapeChars cs ++ unitOf c) = 0 := by
        rw [unitOf]
        split_ifs
        · rw [← List.singleton_append, ← List.append_assoc]
          exact endingBackslashes_of_ne hc _
        · exact endingBackslashes_of_ne hc _
      rw [hzero]
      exact ⟨0, rfl⟩

theorem eq_backslash_of_unitOf {d : Char} (h : unitOf d = a ++ c :: b) (hc : c ∈ metacharacters)
    (hne : c ≠ '\\') : a = ['\\'] := by
  rw [unitOf] at h
  split_ifs at h with hd
  · cases a with
    | nil => exact absurd (List.cons.inj h).1.symm hne
    | cons e a =>
      obtain ⟨rfl, h⟩ := List.cons.inj h
      cases a with
      | nil => rfl
      | cons f a => simp at h
  · cases a with
    | nil =>
      obtain ⟨rfl, -⟩ := List.cons.inj h
      exact absurd hc hd
    | cons e a => simp at h

theorem odd_endingBackslashes {cs : List Char} (h : escapeChars cs = a ++ c :: b)
    (hc : c ∈ metacharacters) (hne : c ≠ '\\') : Odd (endingBackslashes a) := by
  induction cs using List.reverseRecOn generalizing b with
  | nil => simp [escapeChars, escapeWhere] at h
  | append_singleton cs d ih =>
    rw [escapeChars_concat] at h
    rcases append_eq_append_cons h with ⟨m, hm, -⟩ | ⟨m, rfl, hm⟩
    · exact ih hm
    · rw [eq_backslash_of_unitOf hm hc hne, endingBackslashes_backslash]
      exact (even_endingBackslashes cs).add_one

/-- An escaped text splits into units in one way, one for each character of the text, and so reads
back. Escaping commutes with concatenation, and an odd number of backslashes stands before each
other metacharacter. -/
theorem escape_splits_uniquely (t : String) :
    (∃! us : List (List Char), (∀ u ∈ us, EscapeUnit u) ∧ us.flatten = (escape t).toList) ∧
    (∀ us : List (List Char), (∀ u ∈ us, EscapeUnit u) → us.flatten = (escape t).toList →
      us.map dropBackslash = t.toList.map ([·])) ∧
    unescapeChars (escape t).toList = some t.toList ∧
    Function.Injective escape ∧
    (∀ t' : String, escape (t ++ t') = escape t ++ escape t') ∧
    ∀ (a : List Char) (c : Char) (b : List Char), (escape t).toList = a ++ c :: b →
      c ∈ metacharacters → c ≠ '\\' → Odd (endingBackslashes a) := by
  rw [toList_escape]
  refine ⟨⟨t.toList.map unitOf, ⟨?_, ?_⟩, ?_⟩, ?_, ?_, escape_injective, escape_append t, ?_⟩
  · intro u hu
    obtain ⟨c, -, rfl⟩ := List.mem_map.1 hu
    exact escapeUnit_unitOf c
  · exact (escapeChars_eq_flatten t.toList).symm
  · intro us ⟨hus, hflat⟩
    exact eq_map_unitOf hus hflat
  · intro us hus hflat
    rw [eq_map_unitOf hus hflat, List.map_map]
    exact List.map_congr_left fun c _ => dropBackslash_unitOf c
  · exact unescapeChars_escapeChars t.toList
  · intro a c b h hc hne
    exact odd_endingBackslashes h hc hne

example : escape "\\*" = "\\\\\\*" := by decide

end PatternGuard.Text
