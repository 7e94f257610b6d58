import Mathlib
import PatternGuard.Proofs.Json.Text

namespace PatternGuard.Json

/-- No float stands in a value, at any depth. -/
inductive Floatless : Json → Prop
  | null : Floatless .null
  | bool (b : Bool) : Floatless (.bool b)
  | int (n : Int) : Floatless (.int n)
  | text (s : String) : Floatless (.text s)
  | array {js : List Json} : (∀ j ∈ js, Floatless j) → Floatless (.array js)
  | object {ms : List (String × Json)} : (∀ m ∈ ms, Floatless m.2) → Floatless (.object ms)

variable {j : Json} {js : List Json} {ms : List (String × Json)} {c : Char} {rest : List Char}

theorem skipBlank_cons (h : isBlank c = false) (cs : List Char) :
    skipBlank (c :: cs) = c :: cs := by
  rw [skipBlank, List.dropWhile_cons_of_neg (by simp [h])]

theorem readValue_quote (fuel : Nat) (cs : List Char) :
    readValue (fuel + 1) ('\x22' :: cs) = (readText cs).map fun r => (.text r.1, r.2) := rfl

theorem readValue_minus (fuel : Nat) (cs : List Char) :
    readValue (fuel + 1) ('-' :: cs) = readNumber true cs := rfl

theorem readValue_bracket {fuel : Nat} {cs after : List Char} (hblank : isBlank c = false)
    (hc : c ≠ ']') (hj : readValue fuel (c :: cs) = some (j, after))
    (hjs : readItems fuel after = some (js, rest)) :
    readValue (fuel + 1) ('[' :: c :: cs) = some (.array (j :: js), rest) := by
  rw [readValue, skipBlank_cons (by decide)]
  simp only [List.cons.injEq, Char.reduceEq, imp_false, not_and, IsEmpty.forall_iff, implies_true,
    Char.reduceBEq, Bool.false_eq_true, if_false, if_true, skipBlank_cons hblank]
  split
  · rename_i heq
    exact absurd (List.cons.inj heq).1 hc
  · simp only [hj, hjs, Option.map_some]

theorem readItems_comma {fuel : Nat} {cs after : List Char}
    (hj : readValue fuel cs = some (j, after)) (hjs : readItems fuel after = some (js, rest)) :
    readItems (fuel + 1) (',' :: cs) = some (j :: js, rest) := by
  rw [readItems, skipBlank_cons (by decide)]
  simp only [hj, hjs, Option.map_some]

theorem readMember_quote {fuel : Nat} {cs after : List Char} {k : String}
    (hk : readText cs = some (k, ':' :: after)) (hj : readValue fuel after = some (j, rest)) :
    readMember (fuel + 1) ('\x22' :: cs) = some ((k, j), rest) := by
  rw [readMember, skipBlank_cons (by decide)]
  simp only [hk, skipBlank_cons (show isBlank ':' = false by decide), hj, Option.map_some]

variable {m : String × Json}

theorem readValue_brace {fuel : Nat} {cs after : List Char}
    (hm : readMember fuel ('\x22' :: cs) = some (m, after))
    (hms : readMembers fuel after = some (ms, rest)) :
    readValue (fuel + 1) ('\x7b' :: '\x22' :: cs) = some (.object (m :: ms), rest) := by
  have hquote : isBlank '\x22' = false := by decide
  rw [readValue, skipBlank_cons (by decide)]
  simp [skipBlank_cons hquote, hm, hms]

theorem readMembers_comma {fuel : Nat} {cs after : List Char}
    (hm : readMember fuel cs = some (m, after)) (hms : readMembers fuel after = some (ms, rest)) :
    readMembers (fuel + 1) (',' :: cs) = some (m :: ms, rest) := by
  rw [readMembers, skipBlank_cons (by decide)]
  simp only [hm, hms, Option.map_some]

def Closes (rest : List Char) : Prop := ∀ c ∈ rest.head?, c = ',' ∨ c = ']' ∨ c = '\x7d'

theorem ne_of_isDigit {x : Char} (h : Number.isDigit c = true) (hx : Number.isDigit x = false) :
    c ≠ x := by
  intro hcx
  rw [hcx, hx] at h
  cases h

theorem isBlank_of_isDigit (h : Number.isDigit c = true) : isBlank c = false := by
  have hne : ∀ x, Number.isDigit x = false → c ≠ x := fun x => ne_of_isDigit h
  simp [isBlank, hne ' ' rfl, hne '\n' rfl, hne '\r' rfl, hne '\t' rfl]

theorem readValue_digit (fuel : Nat) (cs : List Char) (h : Number.isDigit c = true) :
    readValue (fuel + 1) (c :: cs) = readNumber false (c :: cs) := by
  have hne : ∀ x, Number.isDigit x = false → c ≠ x := fun x => ne_of_isDigit h
  rw [readValue, skipBlank_cons (isBlank_of_isDigit h)]
  simp [hne 'n' rfl, hne 't' rfl, hne 'f' rfl, hne '\x22' rfl, hne '[' rfl, hne '\x7b' rfl,
    hne '-' rfl]

theorem readNumber_natText (negative : Bool) (n : Nat) (h : Closes rest) :
    readNumber negative (Number.natText n ++ rest) =
      some (.int (if negative then -(n : Int) else n), rest) := by
  have hdigits : ∀ d ∈ Number.natText n, Number.isDigit d = true :=
    fun d => Number.isDigit_of_mem_natText
  have hend : rest.takeWhile Number.isDigit = [] ∧ rest.dropWhile Number.isDigit = rest := by
    cases rest with
    | nil => exact ⟨rfl, rfl⟩
    | cons c rest =>
      rcases h c rfl with rfl | rfl | rfl <;> exact ⟨rfl, rfl⟩
  rw [readNumber, List.takeWhile_append_of_pos hdigits, List.dropWhile_append_of_pos hdigits, hend.1,
    hend.2, List.append_nil, Number.natValue_natText]
  simp only [List.isEmpty_iff, Number.natText_ne_nil, if_false]
  cases rest with
  | nil => rfl
  | cons c rest =>
    rcases h c rfl with rfl | rfl | rfl <;> rfl

def ReadsBack (j : Json) : Prop :=
  ∀ fuel rest, (write j).length ≤ fuel → Closes rest →
    readValue fuel (write j ++ rest) = some (j, rest)

theorem readsBack_null : ReadsBack .null := by
  intro fuel rest hfuel _
  cases fuel with
  | zero => cases hfuel
  | succ fuel => rfl

theorem readsBack_bool (b : Bool) : ReadsBack (.bool b) := by
  intro fuel rest hfuel _
  cases fuel with
  | zero => cases b <;> cases hfuel
  | succ fuel => cases b <;> rfl

theorem readsBack_int (n : Int) : ReadsBack (.int n) := by
  intro fuel rest hfuel hrest
  rw [write, Number.intText] at hfuel ⊢
  cases fuel with
  | zero =>
    split_ifs at hfuel with hneg
    · cases hfuel
    · exact absurd (List.length_eq_zero_iff.1 (Nat.le_zero.1 hfuel)) (Number.natText_ne_nil _)
  | succ fuel =>
    split_ifs with hneg
    · rw [List.cons_append, readValue_minus, readNumber_natText true _ hrest]
      simp only [if_true, Option.some.injEq, Prod.mk.injEq, int.injEq, and_true]
      omega
    · obtain ⟨c, cs, htext, hc⟩ := Number.exists_natText_eq_cons n.natAbs
      have hread := readNumber_natText false n.natAbs hrest
      rw [htext, List.cons_append] at hread ⊢
      rw [readValue_digit _ _ hc, hread]
      simp only [Bool.false_eq_true, if_false, Option.some.injEq, Prod.mk.injEq, int.injEq, and_true]
      omega

theorem readsBack_text (s : String) : ReadsBack (.text s) := by
  intro fuel rest hfuel hrest
  cases fuel with
  | zero => cases hfuel
  | succ fuel =>
    simp only [write, writeText, List.cons_append, List.append_assoc, List.nil_append]
    rw [readValue_quote, readText_writeText, Option.map_some]

theorem Floatless.write_head (h : j.Floatless) :
    ∃ c cs, write j = c :: cs ∧ isBlank c = false ∧ c ≠ ']' := by
  cases h with
  | null => exact ⟨'n', _, rfl, rfl, by decide⟩
  | bool b => cases b <;> exact ⟨_, _, rfl, rfl, by decide⟩
  | int n =>
    rw [write, Number.intText]
    split_ifs with hneg
    · exact ⟨'-', _, rfl, rfl, by decide⟩
    · obtain ⟨c, cs, htext, hc⟩ := Number.exists_natText_eq_cons n.natAbs
      exact ⟨c, cs, htext, isBlank_of_isDigit hc, ne_of_isDigit hc rfl⟩
  | text s => exact ⟨'\x22', _, rfl, rfl, by decide⟩
  | @array js _ => cases js <;> exact ⟨'[', _, rfl, rfl, by decide⟩
  | @object ms _ => cases ms <;> exact ⟨'\x7b', _, rfl, rfl, by decide⟩

theorem closes_writeItems_append (js : List Json) (rest : List Char) :
    Closes (writeItems js ++ rest) := by
  intro c hc
  cases js with
  | nil => exact .inr (.inl (Option.some.inj hc).symm)
  | cons j js => exact .inl (Option.some.inj hc).symm

theorem readItems_writeItems (h : ∀ j ∈ js, ReadsBack j) :
    ∀ fuel rest, (writeItems js).length ≤ fuel →
      readItems fuel (writeItems js ++ rest) = some (js, rest) := by
  induction js with
  | nil =>
    intro fuel rest hfuel
    cases fuel with
    | zero => cases hfuel
    | succ fuel => rfl
  | cons j js ih =>
    intro fuel rest hfuel
    obtain ⟨hj, hjs⟩ := List.forall_mem_cons.1 h
    cases fuel with
    | zero => cases hfuel
    | succ fuel =>
      rw [writeItems, List.cons_append, List.length_cons, List.length_append] at hfuel
      rw [writeItems, List.cons_append, List.cons_append, List.append_assoc]
      apply readItems_comma
      · exact hj fuel _ (by omega) (closes_writeItems_append js rest)
      · exact ih hjs fuel rest (by omega)

theorem readsBack_array (hhead : ∀ j ∈ js, j.Floatless) (h : ∀ j ∈ js, ReadsBack j) :
    ReadsBack (.array js) := by
  intro fuel rest hfuel _
  cases fuel with
  | zero => cases js <;> cases hfuel
  | succ fuel =>
    cases js with
    | nil => rfl
    | cons j js =>
      obtain ⟨hj, hjs⟩ := List.forall_mem_cons.1 h
      obtain ⟨c, cs, hwrite, hblank, hc⟩ := (hhead j List.mem_cons_self).write_head
      rw [write, List.cons_append, List.length_cons, List.length_append] at hfuel
      have hread := hj fuel (writeItems js ++ rest) (by omega) (closes_writeItems_append js rest)
      rw [write, List.cons_append, List.cons_append, List.append_assoc]
      rw [hwrite, List.cons_append] at hread ⊢
      exact readValue_bracket hblank hc hread (readItems_writeItems hjs fuel rest (by omega))

theorem closes_writeMembers_append (ms : List (String × Json)) (rest : List Char) :
    Closes (writeMembers ms ++ rest) := by
  intro c hc
  cases ms with
  | nil => exact .inr (.inr (Option.some.inj hc).symm)
  | cons m ms => exact .inl (Option.some.inj hc).symm

theorem readMember_write (hj : ReadsBack j) (k : String) {fuel : Nat}
    (hfuel : (write j).length < fuel) (hrest : Closes rest) :
    readMember fuel (writeText k ++ ':' :: (write j ++ rest)) = some ((k, j), rest) := by
  cases fuel with
  | zero => cases hfuel
  | succ fuel =>
    simp only [writeText, List.cons_append, List.append_assoc, List.nil_append]
    apply readMember_quote
    · exact readText_writeText k _
    · exact hj fuel rest (by omega) hrest

theorem readMembers_writeMembers (h : ∀ m ∈ ms, ReadsBack m.2) :
    ∀ fuel rest, (writeMembers ms).length ≤ fuel →
      readMembers fuel (writeMembers ms ++ rest) = some (ms, rest) := by
  induction ms with
  | nil =>
    intro fuel rest hfuel
    cases fuel with
    | zero => cases hfuel
    | succ fuel => rfl
  | cons m ms ih =>
    obtain ⟨k, j⟩ := m
    intro fuel rest hfuel
    obtain ⟨(hj : ReadsBack j), hms⟩ := List.forall_mem_cons.1 h
    cases fuel with
    | zero => cases hfuel
    | succ fuel =>
      simp only [writeMembers, List.cons_append, List.append_assoc, List.length_cons,
        List.length_append] at hfuel ⊢
      apply readMembers_comma
      · exact readMember_write hj k (by omega) (closes_writeMembers_append ms rest)
      · exact ih hms fuel rest (by omega)

theorem readsBack_object (h : ∀ m ∈ ms, ReadsBack m.2) : ReadsBack (.object ms) := by
  intro fuel rest hfuel _
  cases fuel with
  | zero => cases ms <;> cases hfuel
  | succ fuel =>
    cases ms with
    | nil => rfl
    | cons m ms =>
      obtain ⟨k, j⟩ := m
      obtain ⟨(hj : ReadsBack j), hms⟩ := List.forall_mem_cons.1 h
      simp only [write, List.cons_append, List.append_assoc, List.length_cons,
        List.length_append] at hfuel ⊢
      apply readValue_brace
      · exact readMember_write hj k (by omega) (closes_writeMembers_append ms rest)
      · exact readMembers_writeMembers hms fuel rest (by omega)

theorem Floatless.readsBack (h : j.Floatless) : ReadsBack j := by
  induction h with
  | null => exact readsBack_null
  | bool b => exact readsBack_bool b
  | int n => exact readsBack_int n
  | text s => exact readsBack_text s
  | array hjs ih => exact readsBack_array hjs ih
  | object _ ih => exact readsBack_object ih

theorem Floatless.read?_line (h : j.Floatless) : read? j.line = some j := by
  have hread := h.readsBack (2 * (write j).length + 2) [] (by omega) (fun c hc => by cases hc)
  rw [List.append_nil] at hread
  simp only [read?, line, String.toList_ofList, hread]
  rfl

theorem isPrintable_of_mem_intText {n : Int} (h : c ∈ Number.intText n) : IsPrintable c := by
  have hdigit : ∀ d ∈ Number.natText n.natAbs, IsPrintable d := by
    intro d hd
    have hd := Number.isDigit_of_mem_natText hd
    simp only [Number.isDigit, Bool.and_eq_true, decide_eq_true_eq] at hd
    exact ⟨by omega, by omega⟩
  rw [Number.intText] at h
  split_ifs at h with hneg
  · rcases List.mem_cons.1 h with rfl | h
    · decide
    · exact hdigit c h
  · exact hdigit c h

theorem forall_isPrintable_writeItems (h : ∀ j ∈ js, ∀ c ∈ write j, IsPrintable c) :
    ∀ c ∈ writeItems js, IsPrintable c := by
  induction js with
  | nil => simp [writeItems, IsPrintable]
  | cons j js ih =>
    obtain ⟨hj, hjs⟩ := List.forall_mem_cons.1 h
    rw [writeItems, List.cons_append, List.forall_mem_cons, List.forall_mem_append]
    exact ⟨by decide, hj, ih hjs⟩

theorem forall_isPrintable_writeMembers (h : ∀ m ∈ ms, ∀ c ∈ write m.2, IsPrintable c) :
    ∀ c ∈ writeMembers ms, IsPrintable c := by
  induction ms with
  | nil => simp [writeMembers, IsPrintable]
  | cons m ms ih =>
    obtain ⟨k, j⟩ := m
    obtain ⟨hj, hms⟩ := List.forall_mem_cons.1 h
    simp only [writeMembers, List.cons_append, List.append_assoc, List.forall_mem_cons,
      List.forall_mem_append]
    exact ⟨by decide, fun c => isPrintable_of_mem_writeText, by decide, hj, ih hms⟩

theorem Floatless.forall_isPrintable (h : j.Floatless) : ∀ c ∈ write j, IsPrintable c := by
  induction h with
  | null => simp [write, IsPrintable]
  | bool b => cases b <;> simp [write, IsPrintable]
  | int n =>
    rw [write]
    exact fun c => isPrintable_of_mem_intText
  | text s =>
    rw [write]
    exact fun c => isPrintable_of_mem_writeText
  | @array js _ ih =>
    cases js with
    | nil => simp [write, IsPrintable]
    | cons j js =>
      obtain ⟨hj, hjs⟩ := List.forall_mem_cons.1 ih
      rw [write, List.cons_append, List.forall_mem_cons, List.forall_mem_append]
      exact ⟨by decide, hj, forall_isPrintable_writeItems hjs⟩
  | @object ms _ ih =>
    cases ms with
    | nil => simp [write, IsPrintable]
    | cons m ms =>
      obtain ⟨k, j⟩ := m
      obtain ⟨hj, hms⟩ := List.forall_mem_cons.1 ih
      simp only [write, List.cons_append, List.append_assoc, List.forall_mem_cons,
        List.forall_mem_append]
      exact ⟨by decide, fun c => isPrintable_of_mem_writeText, by decide, hj,
        forall_isPrintable_writeMembers hms⟩

end PatternGuard.Json
