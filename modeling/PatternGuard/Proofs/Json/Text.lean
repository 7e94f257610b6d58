import Mathlib
import PatternGuard.Json
import PatternGuard.Proofs.Number

namespace PatternGuard.Json

def units (c : Char) : List Nat :=
  if c.toNat < 0x10000 then [c.toNat]
  else [0xd800 + (c.toNat - 0x10000) / 0x400, 0xdc00 + (c.toNat - 0x10000) % 0x400]

def IsPrintable (c : Char) : Prop := 0x20 ≤ c.toNat ∧ c.toNat ≤ 0x7e

instance (c : Char) : Decidable (IsPrintable c) :=
  inferInstanceAs (Decidable (0x20 ≤ c.toNat ∧ c.toNat ≤ 0x7e))

variable {c : Char} {n : Nat} {cs : List Char}

theorem toNat_valid (c : Char) : c.toNat < 0xd800 ∨ 0xdfff < c.toNat ∧ c.toNat < 0x110000 :=
  c.valid

theorem joinUnits_units_append (c : Char) (ns : List Nat) :
    joinUnits (units c ++ ns) = (joinUnits ns).map (c :: ·) := by
  have hvalid := toNat_valid c
  by_cases hplane : c.toNat < 0x10000
  · have hhigh : isHighSurrogate c.toNat = false := by
      simp only [isHighSurrogate, Bool.and_eq_false_iff, decide_eq_false_iff_not]
      omega
    have hlow : isLowSurrogate c.toNat = false := by
      simp only [isLowSurrogate, Bool.and_eq_false_iff, decide_eq_false_iff_not]
      omega
    rw [units, if_pos hplane, List.singleton_append, joinUnits.eq_def]
    simp only [hhigh, hlow, Bool.false_eq_true, if_false, Char.ofNat_toNat]
  · have hhigh : isHighSurrogate (0xd800 + (c.toNat - 0x10000) / 0x400) = true := by
      simp only [isHighSurrogate, Bool.and_eq_true, decide_eq_true_eq]
      omega
    have hlow : isLowSurrogate (0xdc00 + (c.toNat - 0x10000) % 0x400) = true := by
      simp only [isLowSurrogate, Bool.and_eq_true, decide_eq_true_eq]
      omega
    have hjoined : 0x10000 + (0xd800 + (c.toNat - 0x10000) / 0x400 - 0xd800) * 0x400 +
        (0xdc00 + (c.toNat - 0x10000) % 0x400 - 0xdc00) = c.toNat := by
      omega
    rw [units, if_neg hplane, List.cons_append, List.singleton_append, joinUnits]
    simp only [hhigh, hlow, if_true, hjoined, Char.ofNat_toNat]

theorem joinUnits_flatMap_units (cs : List Char) : joinUnits (cs.flatMap units) = some cs := by
  induction cs with
  | nil => rfl
  | cons c cs ih => rw [List.flatMap_cons, joinUnits_units_append, ih, Option.map_some]

theorem hexText_four (n : Nat) :
    Number.hexText 4 n =
      [Number.hexDigit (n / 16 / 16 / 16 % 16), Number.hexDigit (n / 16 / 16 % 16),
        Number.hexDigit (n / 16 % 16), Number.hexDigit (n % 16)] := rfl

theorem unitValue?_hexDigits (h : n < 0x10000) :
    unitValue? (Number.hexDigit (n / 16 / 16 / 16 % 16)) (Number.hexDigit (n / 16 / 16 % 16))
      (Number.hexDigit (n / 16 % 16)) (Number.hexDigit (n % 16)) = some n := by
  have hdigit : ∀ m, Number.hexValue? (Number.hexDigit (m % 16)) = some (m % 16) :=
    fun m => Number.hexValue?_hexDigit (m % 16) (Nat.mod_lt m (by decide))
  simp only [unitValue?, hdigit, bind, Option.bind, pure, Option.some.injEq]
  omega

theorem readUnits_unitEscape_append (h : n < 0x10000) (rest : List Char) :
    readUnits (unitEscape n ++ rest) = (readUnits rest).map fun r => (n :: r.1, r.2) := by
  rw [unitEscape, hexText_four]
  simp only [List.cons_append, List.nil_append]
  rw [readUnits, unitValue?_hexDigits h]
  cases readUnits rest <;> rfl

theorem units_of_lt (h : c.toNat < 0x10000) : units c = [c.toNat] := by
  rw [units, if_pos h]

theorem readUnits_shortEscape {letter : Char} (h : shortEscape? letter = some c)
    (hletter : letter ≠ 'u') (hplane : c.toNat < 0x10000) (rest : List Char) :
    readUnits (['\\', letter] ++ rest) = (readUnits rest).map fun r => (units c ++ r.1, r.2) := by
  rw [List.cons_append, List.singleton_append, readUnits, h, units_of_lt hplane]
  · cases readUnits rest <;> rfl
  · intro _ _ _ _ _ hu
    exact absurd hu hletter

theorem readUnits_plain (hquote : c ≠ '\x22') (hbackslash : c ≠ '\\') (rest : List Char) :
    readUnits (c :: rest) = (readUnits rest).map fun r => (c.toNat :: r.1, r.2) := by
  rw [readUnits]
  · simp only [beq_iff_eq, hquote, hbackslash, if_false]
    cases readUnits rest <;> rfl
  · intro _ _ _ _ _ h
    exact absurd h hbackslash
  · intro _ _ h
    exact absurd h hbackslash

/-- The ways to spell a character in a JSON text. -/
inductive Spells (c : Char) : List Char → Prop
  | short {letter : Char} : shortEscape? letter = some c → letter ≠ 'u' → IsPrintable letter →
      c.toNat < 0x10000 → Spells c ['\\', letter]
  | plain : IsPrintable c → c ≠ '\x22' → c ≠ '\\' → Spells c [c]
  | unit : c.toNat < 0x10000 → Spells c (unitEscape c.toNat)
  | pair : ¬ c.toNat < 0x10000 →
      Spells c (unitEscape (0xd800 + (c.toNat - 0x10000) / 0x400) ++
        unitEscape (0xdc00 + (c.toNat - 0x10000) % 0x400))

theorem spells_writeChar (c : Char) : Spells c (writeChar c) := by
  rw [writeChar]
  simp only [beq_iff_eq, Bool.and_eq_true, decide_eq_true_eq]
  split_ifs with hquote hbackslash hn hr ht hb hf hprintable hplane
  · subst hquote
    exact .short rfl (by decide) (by decide) (by decide)
  · subst hbackslash
    exact .short rfl (by decide) (by decide) (by decide)
  · subst hn
    exact .short rfl (by decide) (by decide) (by decide)
  · subst hr
    exact .short rfl (by decide) (by decide) (by decide)
  · subst ht
    exact .short rfl (by decide) (by decide) (by decide)
  · subst hb
    exact .short rfl (by decide) (by decide) (by decide)
  · subst hf
    exact .short rfl (by decide) (by decide) (by decide)
  · exact .plain hprintable hquote hbackslash
  · exact .unit hplane
  · exact .pair hplane

theorem Spells.readUnits_append (h : Spells c cs) (rest : List Char) :
    readUnits (cs ++ rest) = (readUnits rest).map fun r => (units c ++ r.1, r.2) := by
  cases h with
  | short hletter hu _ hplane => exact readUnits_shortEscape hletter hu hplane rest
  | plain hprintable hquote hbackslash =>
    rw [units_of_lt (Nat.lt_of_le_of_lt hprintable.2 (by decide))]
    exact readUnits_plain hquote hbackslash rest
  | unit hplane =>
    rw [units_of_lt hplane]
    exact readUnits_unitEscape_append hplane rest
  | pair hplane =>
    have hvalid := toNat_valid c
    rw [units, if_neg hplane, List.append_assoc, readUnits_unitEscape_append (by omega),
      readUnits_unitEscape_append (by omega)]
    cases readUnits rest <;> rfl

theorem readUnits_flatMap_writeChar (cs rest : List Char) :
    readUnits (cs.flatMap writeChar ++ '\x22' :: rest) = some (cs.flatMap units, rest) := by
  induction cs with
  | nil => rfl
  | cons c cs ih =>
    rw [List.flatMap_cons, List.append_assoc, (spells_writeChar c).readUnits_append, ih,
      Option.map_some, List.flatMap_cons]

theorem readText_writeText (s : String) (rest : List Char) :
    readText (s.toList.flatMap writeChar ++ '\x22' :: rest) = some (s, rest) := by
  rw [readText, readUnits_flatMap_writeChar]
  simp only [joinUnits_flatMap_units, Option.map_some, String.ofList_toList]

theorem isPrintable_hexDigit : ∀ d < 16, IsPrintable (Number.hexDigit d) := by
  decide

theorem isPrintable_of_mem_unitEscape (h : c ∈ unitEscape n) : IsPrintable c := by
  have hdigit : ∀ m, IsPrintable (Number.hexDigit (m % 16)) :=
    fun m => isPrintable_hexDigit (m % 16) (Nat.mod_lt m (by decide))
  rw [unitEscape, hexText_four] at h
  simp only [List.mem_cons, List.not_mem_nil, or_false] at h
  rcases h with rfl | rfl | rfl | rfl | rfl | rfl
  · decide
  · decide
  all_goals exact hdigit _

theorem Spells.isPrintable_of_mem {x : Char} (h : Spells c cs) (hx : x ∈ cs) : IsPrintable x := by
  cases h with
  | short _ _ hletter _ =>
    rcases List.mem_pair.1 hx with rfl | rfl
    · decide
    · exact hletter
  | plain hprintable _ _ =>
    rw [List.mem_singleton.1 hx]
    exact hprintable
  | unit _ => exact isPrintable_of_mem_unitEscape hx
  | pair _ =>
    rcases List.mem_append.1 hx with hx | hx
    · exact isPrintable_of_mem_unitEscape hx
    · exact isPrintable_of_mem_unitEscape hx

theorem isPrintable_of_mem_writeText {s : String} (h : c ∈ writeText s) : IsPrintable c := by
  rw [writeText, List.mem_append, List.mem_cons] at h
  rcases h with (rfl | h) | h
  · decide
  · obtain ⟨x, -, hx⟩ := List.mem_flatMap.1 h
    exact (spells_writeChar x).isPrintable_of_mem hx
  · rw [List.mem_singleton.1 h]
    decide

end PatternGuard.Json
