import Mathlib
import PatternGuard.Proofs.Hazard.Shape

namespace PatternGuard.Hazard

namespace Signature

theorem index_getElem {i : Nat} (hi : i < all.length) : (all[i]).index = i :=
  List.Nodup.idxOf_getElem (by decide) i hi

theorem index_lt (sig : Signature) : sig.index < all.length := by
  cases sig <;> decide

theorem getElem_index (sig : Signature) (h : sig.index < all.length) : all[sig.index] = sig := by
  cases sig <;> rfl

theorem first?_eq_some {p : List Char} {sig : Signature} :
    first? p = some sig ↔
      sig.Holds p ∧ ∀ other : Signature, other.index < sig.index → ¬ other.Holds p := by
  rw [first?, List.find?_eq_some_iff_getElem, occursIn_iff]
  refine and_congr_right fun _ => ?_
  constructor
  · rintro ⟨i, hi, rfl, hbefore⟩ other hlt hother
    rw [index_getElem] at hlt
    have := hbefore other.index hlt
    rw [getElem_index, Bool.not_eq_true', ← Bool.not_eq_true, occursIn_iff] at this
    exact this hother
  · intro hbefore
    refine ⟨sig.index, sig.index_lt, sig.getElem_index _, fun i hi => ?_⟩
    have hlt := hi.trans sig.index_lt
    rw [Bool.not_eq_true', ← Bool.not_eq_true, occursIn_iff]
    exact hbefore _ (by rwa [index_getElem hlt])

theorem first?_eq_none {p : List Char} :
    first? p = none ↔ ∀ sig : Signature, ¬ sig.Holds p := by
  simp only [first?, List.find?_eq_none, occursIn_iff]
  exact ⟨fun h sig => h sig (by cases sig <;> decide), fun h sig _ => h sig⟩

theorem exists_first?_of_holds {p : List Char} {sig : Signature} (h : sig.Holds p) :
    ∃ found : Signature, first? p = some found ∧ found.index ≤ sig.index := by
  cases hfirst : first? p with
  | none => exact absurd h (first?_eq_none.1 hfirst sig)
  | some found =>
    refine ⟨found, rfl, ?_⟩
    by_contra hlt
    exact (first?_eq_some.1 hfirst).2 sig (Nat.lt_of_not_le hlt) h

end Signature

theorem analyze_of_first {p : List Char} {sig : Signature} (h : Signature.first? p = some sig) :
    analyze p = .flagged sig.reason sig.message := by
  rw [analyze, h]

theorem analyze_of_none {p : List Char} (h : Signature.first? p = none) :
    analyze p =
      if 2 < nesting p then .flagged .nestedQuantifiers (depthMessage (nesting p)) else .clear := by
  rw [analyze, h]
  rfl

theorem eq_of_analyze_flagged {p : List Char} {reason : Reason} {message : String}
    (h : analyze p = .flagged reason message) :
    (∃ sig : Signature, reason = sig.reason ∧ message = sig.message) ∨
      reason = .nestedQuantifiers ∧ message = depthMessage (nesting p) := by
  cases hfirst : Signature.first? p with
  | some sig =>
    rw [analyze_of_first hfirst] at h
    injection h with hreason hmessage
    exact .inl ⟨sig, hreason.symm, hmessage.symm⟩
  | none =>
    rw [analyze_of_none hfirst] at h
    split_ifs at h
    injection h with hreason hmessage
    exact .inr ⟨hreason.symm, hmessage.symm⟩

theorem analyze_of_not_holds {p : List Char} (h : ∀ sig : Signature, ¬ sig.Holds p)
    (hnesting : nesting p = 0) : analyze p = .clear := by
  rw [analyze_of_none (Signature.first?_eq_none.2 h), hnesting]
  rfl

theorem not_holds_of_analyze {p : List Char} (h : analyze p = .clear) (sig : Signature) :
    ¬ sig.Holds p := by
  cases hfirst : Signature.first? p with
  | none => exact Signature.first?_eq_none.1 hfirst sig
  | some found =>
    rw [analyze_of_first hfirst] at h
    cases h

theorem analyze_ne_clear_iff {p : List Char} :
    analyze p ≠ .clear ↔ (∃ sig : Signature, sig.Holds p) ∨ deepestAllowed < nesting p := by
  cases hfirst : Signature.first? p with
  | some found =>
    rw [analyze_of_first hfirst]
    exact iff_of_true (by simp) (.inl ⟨found, (Signature.first?_eq_some.1 hfirst).1⟩)
  | none =>
    rw [analyze_of_none hfirst, or_iff_right (not_exists.2 (Signature.first?_eq_none.1 hfirst))]
    by_cases hdepth : 2 < nesting p
    · simp [hdepth, deepestAllowed]
    · simp [hdepth, deepestAllowed]

theorem exists_flagged_of_ne_clear {p : List Char} (h : analyze p ≠ .clear) :
    ∃ reason message, analyze p = .flagged reason message := by
  cases hverdict : analyze p with
  | clear => exact absurd hverdict h
  | flagged reason message => exact ⟨reason, message, rfl⟩

/-- Signatures are found just where their shapes are. The first one in order decides, and without
any the nesting depth does. -/
theorem analyze_decides_shapes (p : List Char) :
    (∀ sig : Signature, sig.occursIn p = true ↔ sig.Holds p) ∧
    (∀ sig : Signature, Signature.first? p = some sig ↔
      sig.Holds p ∧ ∀ other : Signature, other.index < sig.index → ¬ other.Holds p) ∧
    (Signature.first? p = none ↔ ∀ sig : Signature, ¬ sig.Holds p) ∧
    (∀ sig : Signature, Signature.first? p = some sig →
      analyze p = .flagged sig.reason sig.message) ∧
    ((∀ sig : Signature, ¬ sig.Holds p) →
      analyze p =
        if 2 < nesting p then
          .flagged .nestedQuantifiers
            ("Pattern has excessive quantifier nesting depth ("
              ++ Number.natString (nesting p) ++ ")")
        else .clear) :=
  ⟨fun _ => Signature.occursIn_iff, fun _ => Signature.first?_eq_some, Signature.first?_eq_none,
    fun _ h => analyze_of_first h, fun h => analyze_of_none (Signature.first?_eq_none.2 h)⟩

end PatternGuard.Hazard
