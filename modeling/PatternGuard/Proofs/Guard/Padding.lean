import Mathlib
import PatternGuard.Proofs.Guard.Create

namespace PatternGuard.Hazard

variable {a p b : List Char}

namespace Scan

structure Within (s t : Scan) : Prop where
  escaped : s.escaped = t.escaped
  depth : s.depth ≤ t.depth
  deepest : s.deepest ≤ t.deepest

theorem Within.step {s t : Scan} (h : s.Within t) (c : Char) : (s.step c).Within (t.step c) where
  escaped := by simp
  depth := by
    have hdepth := h.depth
    rw [step_depth, step_depth, h.escaped]
    split_ifs <;> omega
  deepest := by
    rw [step_deepest, step_deepest, h.escaped]
    split_ifs
    · exact max_le_max h.deepest h.depth
    · exact h.deepest

theorem Within.foldl {s t : Scan} (h : s.Within t) (cs : List Char) :
    (cs.foldl Scan.step s).Within (cs.foldl Scan.step t) := by
  induction cs generalizing s t with
  | nil => exact h
  | cons c cs ih => exact ih (h.step c)

theorem deepest_le_step (s : Scan) (c : Char) : s.deepest ≤ (s.step c).deepest := by
  rw [step_deepest]
  split_ifs
  · exact le_max_left _ _
  · exact le_rfl

theorem deepest_le_foldl (s : Scan) (cs : List Char) :
    s.deepest ≤ (cs.foldl step s).deepest := by
  induction cs generalizing s with
  | nil => exact le_rfl
  | cons c cs ih => exact (s.deepest_le_step c).trans (ih (s.step c))

theorem start_within_foldl (ha : a.getLast? ≠ some '\\') :
    start.Within (a.foldl step start) where
  escaped := by
    rw [escaped_foldl]
    exact (beq_eq_false_iff_ne.2 ha).symm
  depth := Nat.zero_le _
  deepest := Nat.zero_le _

end Scan

theorem nesting_le_append (p b : List Char) : nesting p ≤ nesting (p ++ b) := by
  rw [nesting, nesting, List.foldl_append]
  exact Scan.deepest_le_foldl _ b

theorem nesting_le_prepend (ha : a.getLast? ≠ some '\\') (p : List Char) :
    nesting p ≤ nesting (a ++ p) := by
  rw [nesting, nesting, List.foldl_append]
  exact ((Scan.start_within_foldl ha).foldl p).deepest

theorem nesting_le_padded (ha : a.getLast? ≠ some '\\') (p b : List Char) :
    max (nesting a) (nesting p) ≤ nesting (a ++ p ++ b) := by
  apply (max_le _ _).trans (nesting_le_append (a ++ p) b)
  · exact nesting_le_append a p
  · exact nesting_le_prepend ha p

namespace Signature

variable {sig : Signature}

theorem Begins.append {s : List Char} (h : sig.Begins s) (t : List Char) : sig.Begins (s ++ t) := by
  cases sig with
  | nestedQuantifier =>
    obtain ⟨u, q, v, c, b, rfl, h⟩ := h
    exact ⟨u, q, v, c, b ++ t, by simp, h⟩
  | repeatedAlternation =>
    obtain ⟨u, v, c, b, rfl, h⟩ := h
    exact ⟨u, v, c, b ++ t, by simp, h⟩
  | countedGroup =>
    obtain ⟨u, n, b, rfl, h⟩ := h
    exact ⟨u, n, b ++ t, by simp, h⟩
  | deepQuantifier =>
    obtain ⟨u, v, c, w, d, b, rfl, h⟩ := h
    exact ⟨u, v, c, w, d, b ++ t, by simp, h⟩
  | adjacentSets =>
    obtain ⟨x, c, y, d, b, rfl, h⟩ := h
    exact ⟨x, c, y, d, b ++ t, by simp, h⟩

theorem Holds.padded (h : sig.Holds p) (a b : List Char) : sig.Holds (a ++ p ++ b) := by
  obtain ⟨x, s, rfl, hs⟩ := h
  exact ⟨a ++ x, s ++ b, by simp, hs.append b⟩

end Signature

theorem analyze_padded_ne_clear (h : analyze p ≠ .clear) (ha : a.getLast? ≠ some '\\')
    (b : List Char) : analyze (a ++ p ++ b) ≠ .clear := by
  rw [analyze_ne_clear_iff] at h ⊢
  apply h.imp
  · rintro ⟨sig, hsig⟩
    exact ⟨sig, hsig.padded a b⟩
  · intro hdepth
    exact hdepth.trans_le ((le_max_right _ _).trans (nesting_le_padded ha p b))

end PatternGuard.Hazard

namespace PatternGuard.Guard

open PatternGuard.Hazard

-- Closed statements are about the standard interpreter, all others bind one of their own.
attribute [local instance] Regex.Interpreter.standard

/-- A pattern that `analyze_pattern` flags stays flagged between a prefix and a suffix, and `create`
rejects it there, unless the prefix ends in a backslash. Behind such a prefix signatures are found
all the same. -/
theorem create_rejects_padded [Regex.Interpreter] (p a b : String) :
    (analyze p.toList ≠ .clear → a.toList.getLast? ≠ some '\\' →
      analyze (a ++ p ++ b).toList ≠ .clear) ∧
    (∀ sig : Signature, sig.occursIn p.toList = true →
      ∃ found, Signature.first? (a ++ p ++ b).toList = some found ∧ found.index ≤ sig.index) ∧
    (a.toList.getLast? ≠ some '\\' →
      max (nesting a.toList) (nesting p.toList) ≤ nesting (a ++ p ++ b).toList) ∧
    (analyze p.toList ≠ .clear ∧ a.toList.getLast? ≠ some '\\' ∨
        (∃ sig : Signature, sig.occursIn p.toList = true) →
      ∃ reason ∈ safetyReasons, ∃ message,
        analyze (a ++ p ++ b).toList = .flagged reason message ∧
        ∀ c : Config, (∀ callback ∈ c.onBlock, callback.failure = none) →
          (a ++ p ++ b).length ≤ c.maxLength → ∀ (now : Int) (flags : Value),
            (create c now (.text (a ++ p ++ b)) flags).outcome = .ok (.rejected reason message)) := by
  simp only [Signature.occursIn_iff, String.toList_append]
  refine ⟨?_, ?_, ?_, ?_⟩
  · intro hp ha
    exact analyze_padded_ne_clear hp ha b.toList
  · intro sig hsig
    exact Signature.exists_first?_of_holds (hsig.padded a.toList b.toList)
  · intro ha
    exact nesting_le_padded ha p.toList b.toList
  · intro hp
    have hpadded : analyze (a.toList ++ p.toList ++ b.toList) ≠ .clear := by
      rcases hp with ⟨hp, ha⟩ | ⟨sig, hsig⟩
      · exact analyze_padded_ne_clear hp ha b.toList
      · exact analyze_ne_clear_iff.2 (.inl ⟨sig, hsig.padded a.toList b.toList⟩)
    obtain ⟨reason, message, hflagged⟩ := exists_flagged_of_ne_clear hpadded
    refine ⟨reason, mem_safetyReasons_of_analyze hflagged, message, hflagged, ?_⟩
    intro c hsilent hlength now flags
    exact createText_of_flagged hsilent hlength (by simpa using hflagged) now flags

theorem create_rejects_padded_groups :
    (∃ reason ∈ safetyReasons, ∃ message,
      (create .standard 0 (.text ("\\" ++ "(a+)+" ++ "$")) .null).outcome =
        .ok (.rejected reason message)) ∧
    (analyze "(((a?)))".toList ≠ .clear ∧ "(x))".toList.getLast? ≠ some '\\' ∧
      analyze ("(x))" ++ "(((a?)))" ++ ")").toList ≠ .clear) := by
  have hgroup : ∃ sig : Signature, sig.occursIn "(a+)+".toList = true :=
    ⟨.nestedQuantifier, by decide⟩
  have hdeep : analyze "(((a?)))".toList ≠ .clear := analyze_ne_clear_iff.2 (.inr (by decide))
  have hlast : "(x))".toList.getLast? ≠ some '\\' := by decide
  obtain ⟨-, -, -, hrejects⟩ := create_rejects_padded "(a+)+" "\\" "$"
  obtain ⟨hflags, -, -, -⟩ := create_rejects_padded "(((a?)))" "(x))" ")"
  obtain ⟨reason, hreason, message, -, hcreate⟩ := hrejects (.inr hgroup)
  refine ⟨⟨reason, hreason, message, ?_⟩, hdeep, hlast, hflags hdeep hlast⟩
  exact hcreate .standard (by simp [Config.standard]) (by decide) 0 .null

end PatternGuard.Guard
