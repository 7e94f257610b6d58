import Mathlib
import PatternGuard.Proofs.Hazard.Nesting
import PatternGuard.Proofs.Hazard.Verdict

namespace PatternGuard.Hazard

open PatternGuard.Text

theorem eq_of_isUnbounded {c : Char} (hc : isUnbounded c = true) : c = '+' ∨ c = '*' := by
  simpa [isUnbounded] using hc

theorem repeats_of_isUnbounded {c : Char} (hc : isUnbounded c = true) : repeats c = true := by
  rcases eq_of_isUnbounded hc with rfl | rfl <;> rfl

namespace Signature

variable {sig : Signature} {p : List Char}

theorem Holds.open_mem (h : sig.Holds p) (hsets : sig ≠ .adjacentSets) : '(' ∈ p := by
  obtain ⟨a, s, rfl, h⟩ := h
  suffices '(' ∈ s by simp [this]
  cases sig with
  | nestedQuantifier => obtain ⟨u, q, v, c, b, rfl, -⟩ := h; simp
  | repeatedAlternation => obtain ⟨u, v, c, b, rfl, -⟩ := h; simp
  | countedGroup => obtain ⟨u, n, b, rfl, -⟩ := h; simp
  | deepQuantifier => obtain ⟨u, v, c, w, d, b, rfl, -⟩ := h; simp
  | adjacentSets => exact absurd rfl hsets

theorem Holds.unbounded_mem (h : sig.Holds p) (hcounts : sig ≠ .countedGroup) :
    ∃ c ∈ p, isUnbounded c = true := by
  obtain ⟨a, s, rfl, h⟩ := h
  suffices ∃ c ∈ s, isUnbounded c = true by
    obtain ⟨c, hc, hq⟩ := this
    exact ⟨c, by simp [hc], hq⟩
  cases sig with
  | nestedQuantifier => obtain ⟨u, q, v, c, b, rfl, -, -, -, hc⟩ := h; exact ⟨c, by simp, hc⟩
  | repeatedAlternation => obtain ⟨u, v, c, b, rfl, -, -, hc⟩ := h; exact ⟨c, by simp, hc⟩
  | countedGroup => exact absurd rfl hcounts
  | deepQuantifier => obtain ⟨u, v, c, w, d, b, rfl, -, -, hc, -⟩ := h; exact ⟨c, by simp, hc⟩
  | adjacentSets => obtain ⟨x, c, y, d, b, rfl, -, -, hc, -⟩ := h; exact ⟨c, by simp, hc⟩

theorem Holds.repeats_mem (h : sig.Holds p) : ∃ c ∈ p, repeats c = true := by
  by_cases hcounts : sig = .countedGroup
  · subst hcounts
    obtain ⟨a, s, rfl, u, n, b, rfl, -⟩ := h
    exact ⟨'\x7b', by simp, rfl⟩
  · obtain ⟨c, hc, hq⟩ := h.unbounded_mem hcounts
    exact ⟨c, hc, repeats_of_isUnbounded hq⟩

theorem Holds.adjacency (h : adjacentSets.Holds p) : anySuffix startsAdjacency p = true := by
  obtain ⟨a, s, rfl, x, c, y, d, b, rfl, -, -, hc, -⟩ := h
  exact anySuffix_eq_true_iff.2 ⟨a ++ '[' :: x, ']' :: c :: '[' :: (y ++ ']' :: d :: b),
    by simp, hc⟩

end Signature

variable {before p : List Char}

theorem isAnchoredText_iff :
    isAnchoredText p = true ↔ ∃ body, p = '^' :: body ++ ['$'] ∧ body ≠ [] ∧
      ∀ c ∈ body, c ∉ quantifiers ∧ isParenthesis c = false := by
  constructor
  · intro h
    unfold isAnchoredText at h
    split at h
    · rename_i cs
      simp only [Bool.and_eq_true, beq_iff_eq, Bool.not_eq_true', List.isEmpty_eq_false_iff,
        List.all_eq_true, Bool.or_eq_false_iff, beq_eq_false_iff_ne] at h
      obtain ⟨⟨hlast, hne⟩, hall⟩ := h
      obtain ⟨body, rfl⟩ := List.getLast?_eq_some_iff.1 hlast
      rw [List.dropLast_concat] at hne hall
      refine ⟨body, rfl, hne, fun c hc => ⟨?_, (hall c hc).2⟩⟩
      obtain ⟨⟨⟨hplus, hstar⟩, hmark⟩, -⟩ := hall c hc
      simp [quantifiers, hplus, hstar, hmark]
    · cases h
  · rintro ⟨body, rfl, hne, hall⟩
    simp only [isAnchoredText, List.cons_append, List.dropLast_concat, List.getLast?_concat,
      Bool.and_eq_true, beq_iff_eq, Bool.not_eq_true', List.isEmpty_eq_false_iff,
      List.all_eq_true, Bool.or_eq_false_iff, beq_eq_false_iff_ne, true_and]
    refine ⟨hne, fun c hc => ⟨?_, (hall c hc).2⟩⟩
    simpa [quantifiers, and_assoc, and_comm, and_left_comm] using (hall c hc).1

theorem quickCheck_iff :
    quickCheck p = true ↔
      (∀ c ∈ p, repeats c = false) ∨
      ((∀ c ∈ p, isParenthesis c = false) ∧ anySuffix startsAdjacency p = false) ∨
      isAnchoredText p = true := by
  simp [quickCheck, or_assoc]

theorem not_holds_of_quickCheck (h : quickCheck p = true) (sig : Signature) : ¬ sig.Holds p := by
  intro hsig
  rcases quickCheck_iff.1 h with hrepeats | ⟨hparen, hadjacent⟩ | hanchored
  · obtain ⟨c, hc, hq⟩ := hsig.repeats_mem
    rw [hrepeats c hc] at hq
    cases hq
  · by_cases hsets : sig = .adjacentSets
    · subst hsets
      rw [hsig.adjacency] at hadjacent
      cases hadjacent
    · cases hparen '(' (hsig.open_mem hsets)
  · obtain ⟨body, rfl, -, hbody⟩ := isAnchoredText_iff.1 hanchored
    by_cases hsets : sig = .adjacentSets
    · obtain ⟨c, hc, hq⟩ := hsig.unbounded_mem (by simp [hsets])
      have hmem : c ∈ body := by
        rcases eq_of_isUnbounded hq with rfl | rfl <;> simpa using hc
      rcases eq_of_isUnbounded hq with rfl | rfl <;> exact absurd (by decide) (hbody _ hmem).1
    · have hmem : '(' ∈ body := by simpa using hsig.open_mem hsets
      cases (hbody _ hmem).2

theorem nesting_of_quickCheck (h : quickCheck p = true) : nesting p = 0 := by
  rcases quickCheck_iff.1 h with hrepeats | ⟨hparen, -⟩ | hanchored
  · refine nesting_of_no_quantifier fun c hc hq => ?_
    have := hrepeats c hc
    simp only [quantifiers, List.mem_cons, List.not_mem_nil, or_false] at hq
    rcases hq with rfl | rfl | rfl <;> cases this
  · refine nesting_of_escaped (.of_absent fun c hc ho => ?_)
    cases ho ▸ hparen c hc
  · obtain ⟨body, rfl, -, hbody⟩ := isAnchoredText_iff.1 hanchored
    refine nesting_of_escaped (.of_absent fun c hc ho => ?_)
    subst ho
    have hmem : '(' ∈ body := by simpa using hc
    cases (hbody _ hmem).2

theorem analyze_of_quickCheck (h : quickCheck p = true) : analyze p = .clear :=
  analyze_of_not_holds (not_holds_of_quickCheck h) (nesting_of_quickCheck h)

def repetitions : List Char := ['+', '*', '\x7b']

theorem mem_repetitions {c : Char} (hc : isUnbounded c = true) : c ∈ repetitions := by
  rcases eq_of_isUnbounded hc with rfl | rfl <;> decide

theorem not_holds_of_follows {sig : Signature} (hsets : sig ≠ .adjacentSets)
    (hquantifier : Follows before (· ∈ repetitions) p)
    (hbefore : ')' ∉ before) (hclose : Follows ['\\'] (· = ')') p) : ¬ sig.Holds p := by
  intro ⟨a, s, hp, h⟩
  -- What stands before the quantifier behind a group is the parenthesis.
  have hbehind : ∀ u c b, p = u ++ ')' :: c :: b → c ∈ repetitions → False := by
    intro u c b hu hc
    rw [hu] at hquantifier
    exact hbefore (hquantifier.mem_before hc)
  cases sig with
  | nestedQuantifier =>
    obtain ⟨u, q, v, c, b, rfl, -, -, -, hc⟩ := h
    exact hbehind (a ++ '(' :: (u ++ q ++ v)) c b (by simp [hp]) (mem_repetitions hc)
  | repeatedAlternation =>
    obtain ⟨u, v, c, b, rfl, -, -, hc⟩ := h
    exact hbehind (a ++ '(' :: (u ++ '|' :: v)) c b (by simp [hp]) (mem_repetitions hc)
  | countedGroup =>
    obtain ⟨u, n, b, rfl, -⟩ := h
    exact hbehind (a ++ '(' :: u) '\x7b' (n ++ '\x7d' :: b) (by simp [hp]) (by decide)
  | deepQuantifier =>
    obtain ⟨u, v, c, w, d, b, rfl, -, -, hc, -⟩ := h
    have hp : p = a ++ '(' :: (u ++ '(' :: v) ++ c :: ')' :: (w ++ [d] ++ ')' :: b) := by
      simp [hp]
    rw [hp] at hclose
    have := List.mem_singleton.1 (hclose.mem_before rfl)
    rw [this] at hc
    cases hc
  | adjacentSets => exact absurd rfl hsets

theorem not_holds_adjacentSets_of_follows
    (hquantifier : Follows before (· ∈ repetitions) p) (hbefore : ']' ∉ before) :
    ¬ Signature.adjacentSets.Holds p := by
  intro ⟨a, s, hp, x, c, y, d, b, hs, _, _, hc, _⟩
  have hp : p = a ++ '[' :: x ++ ']' :: c :: ('[' :: y ++ ']' :: d :: b) := by simp [hp, hs]
  rw [hp] at hquantifier
  exact hbefore (hquantifier.mem_before (mem_repetitions hc))

theorem analyze_of_follows (hopen : Follows ['\\'] (· = '(') p)
    (hclose : Follows ['\\'] (· = ')') p) (hquantifier : Follows before (· ∈ repetitions) p)
    (hbefore : ')' ∉ before) (hadjacent : ¬ Signature.adjacentSets.Holds p) :
    analyze p = .clear := by
  refine analyze_of_not_holds (fun sig => ?_) (nesting_of_escaped hopen)
  by_cases hsets : sig = .adjacentSets
  · rw [hsets]
    exact hadjacent
  · exact not_holds_of_follows hsets hquantifier hbefore hclose

end PatternGuard.Hazard
