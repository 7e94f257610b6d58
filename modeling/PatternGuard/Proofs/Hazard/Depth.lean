import Mathlib
import PatternGuard.Proofs.Hazard.Nesting

namespace PatternGuard.Hazard

def Unescaped (p : List Char) (k : Nat) : Prop := k = 0 ∨ p[k - 1]? ≠ some '\\'

instance (p : List Char) (k : Nat) : Decidable (Unescaped p k) :=
  inferInstanceAs (Decidable (_ ∨ _))

def occurrences (p : List Char) (c : Char) (j i : Nat) : Finset Nat :=
  {k ∈ Finset.Ico j i | Unescaped p k ∧ p[k]? = some c}

/-- Opening parentheses less closing ones. -/
def balance (p : List Char) (j i : Nat) : Int :=
  (occurrences p '(' j i).card - (occurrences p ')' j i).card

def QuantifierAt (p : List Char) (i : Nat) : Prop :=
  Unescaped p i ∧ ∃ c ∈ quantifiers, p[i]? = some c

variable {p : List Char} {c : Char} {n : Nat}

theorem unescaped_succ : Unescaped p (n + 1) ↔ p[n]? ≠ some '\\' := by
  simp [Unescaped]

theorem quantifierAt_iff (hc : p[n]? = some c) :
    QuantifierAt p n ↔ Unescaped p n ∧ c ∈ quantifiers := by
  simp [QuantifierAt, hc]

theorem QuantifierAt.lt_length (h : QuantifierAt p n) : n < p.length := by
  obtain ⟨-, c, -, hc⟩ := h
  exact (List.getElem?_eq_some_iff.1 hc).1

@[simp] theorem balance_self (p : List Char) (i : Nat) : balance p i i = 0 := by
  simp [balance, occurrences]

theorem card_occurrences_succ {j : Nat} (hj : j ≤ n) :
    (occurrences p c j (n + 1)).card =
      (occurrences p c j n).card + if Unescaped p n ∧ p[n]? = some c then 1 else 0 := by
  simp only [occurrences, Finset.card_filter]
  exact Finset.sum_Ico_succ_top hj _

def turn (c : Char) : Int := if c = '(' then 1 else if c = ')' then -1 else 0

theorem balance_succ {j : Nat} (hj : j ≤ n) (hc : p[n]? = some c) :
    balance p j (n + 1) = balance p j n + if Unescaped p n then turn c else 0 := by
  simp only [balance, card_occurrences_succ hj, hc, Option.some.injEq, turn]
  by_cases hn : Unescaped p n
  · by_cases hopen : c = '('
    · subst hopen
      simp [hn]
      ring
    · by_cases hclose : c = ')'
      · subst hclose
        simp [hn]
        ring
      · simp [hn, hopen, hclose]
  · simp [hn]

def balancesTo (p : List Char) (i : Nat) : Set Int := {b | ∃ j ≤ i, balance p j i = b}

theorem balancesTo_succ (hc : p[n]? = some c) :
    balancesTo p (n + 1) =
      insert 0 ((· + if Unescaped p n then turn c else 0) '' balancesTo p n) := by
  ext b
  constructor
  · rintro ⟨j, hj, rfl⟩
    rcases Nat.le_succ_iff.1 hj with hj | rfl
    · exact .inr ⟨balance p j n, ⟨j, hj, rfl⟩, (balance_succ hj hc).symm⟩
    · exact .inl (balance_self p _)
  · rintro (rfl | ⟨_, ⟨j, hj, rfl⟩, rfl⟩)
    · exact ⟨n + 1, le_rfl, balance_self p _⟩
    · exact ⟨j, Nat.le_succ_of_le hj, balance_succ hj hc⟩

def balancesBefore (p : List Char) (n : Nat) : Set Int :=
  {b | ∃ i < n, QuantifierAt p i ∧ b ∈ balancesTo p i}

theorem balancesBefore_succ_of_quantifier (h : QuantifierAt p n) :
    balancesBefore p (n + 1) = balancesBefore p n ∪ balancesTo p n := by
  ext b
  constructor
  · rintro ⟨i, hi, hq, hb⟩
    rcases Nat.lt_succ_iff_lt_or_eq.1 hi with hi | rfl
    · exact .inl ⟨i, hi, hq, hb⟩
    · exact .inr hb
  · rintro (⟨i, hi, hq, hb⟩ | hb)
    · exact ⟨i, Nat.lt_succ_of_lt hi, hq, hb⟩
    · exact ⟨n, Nat.lt_succ_self n, h, hb⟩

theorem balancesBefore_succ_of_not_quantifier (h : ¬ QuantifierAt p n) :
    balancesBefore p (n + 1) = balancesBefore p n := by
  ext b
  constructor
  · rintro ⟨i, hi, hq, hb⟩
    rcases Nat.lt_succ_iff_lt_or_eq.1 hi with hi | rfl
    · exact ⟨i, hi, hq, hb⟩
    · exact absurd hq h
  · rintro ⟨i, hi, hq, hb⟩
    exact ⟨i, Nat.lt_succ_of_lt hi, hq, hb⟩

namespace Scan

/-- What the scan knows after `n` characters: the greatest balance there, and the greatest one at a
quantifier before. -/
structure Knows (p : List Char) (n : Nat) (s : Scan) : Prop where
  escaped : s.escaped = false ↔ Unescaped p n
  depth : IsGreatest (balancesTo p n) (s.depth : Int)
  deepest : IsGreatest (insert 0 (balancesBefore p n)) (s.deepest : Int)

theorem knows_start (p : List Char) : start.Knows p 0 where
  escaped := by simp [start, Unescaped]
  depth := by
    refine ⟨⟨0, le_rfl, balance_self p 0⟩, ?_⟩
    rintro b ⟨j, hj, rfl⟩
    rw [Nat.le_zero.1 hj, balance_self]
    rfl
  deepest := by
    have hnone : balancesBefore p 0 = ∅ := by simp [balancesBefore]
    simp [hnone, start]

theorem Knows.step {s : Scan} (h : s.Knows p n) (hc : p[n]? = some c) :
    (s.step c).Knows p (n + 1) where
  escaped := by simp [unescaped_succ, hc]
  depth := by
    have hturn : ((s.step c).depth : Int) =
        max 0 (s.depth + if Unescaped p n then turn c else 0) := by
      rw [step_depth]
      by_cases hn : Unescaped p n
      · rw [if_neg (by simp [h.escaped.2 hn]), if_pos hn, turn]
        split_ifs <;> omega
      · rw [if_pos (Bool.eq_true_of_not_eq_false (mt h.escaped.1 hn)), if_neg hn]
        omega
    have hmono : Monotone fun b : Int => b + if Unescaped p n then turn c else 0 :=
      fun a b hab => Int.add_le_add_right hab _
    rw [balancesTo_succ hc, hturn]
    -- Where the scan stays at zero, the balance counts anew from the next place.
    exact (hmono.map_isGreatest h.depth).insert 0
  deepest := by
    have hquantifier : QuantifierAt p n ↔ s.escaped = false ∧ c ∈ quantifiers := by
      rw [quantifierAt_iff hc, h.escaped]
    rw [step_deepest]
    split_ifs with hq
    · rw [balancesBefore_succ_of_quantifier (hquantifier.2 hq), ← Set.insert_union, Nat.cast_max]
      exact h.deepest.union h.depth
    · rw [balancesBefore_succ_of_not_quantifier (mt hquantifier.1 hq)]
      exact h.deepest

theorem knows_take (p : List Char) (hn : n ≤ p.length) :
    ((p.take n).foldl step start).Knows p n := by
  induction n with
  | zero => exact knows_start p
  | succ n ih =>
    have hc : p[n]? = some p[n] := List.getElem?_eq_getElem hn
    rw [List.take_succ_eq_append_getElem hn, List.foldl_concat]
    exact (ih (Nat.le_of_succ_le hn)).step hc

end Scan

theorem nesting_isGreatest (p : List Char) :
    IsGreatest (insert 0 (balancesBefore p p.length)) (nesting p : Int) := by
  have h := (Scan.knows_take p le_rfl).deepest
  rwa [List.take_length] at h

/-- The nesting depth is the greatest balance of unescaped parentheses from any place up to an
unescaped quantifier, and zero without one. -/
theorem nesting_isGreatest_balance (p : List Char) :
    ((∃ i, QuantifierAt p i) →
      IsGreatest {b : Int | ∃ i j, QuantifierAt p i ∧ j ≤ i ∧ balance p j i = b} (nesting p)) ∧
    ((∀ i, ¬ QuantifierAt p i) → nesting p = 0) := by
  have hbalances : {b : Int | ∃ i j, QuantifierAt p i ∧ j ≤ i ∧ balance p j i = b} =
      balancesBefore p p.length := by
    ext b
    constructor
    · rintro ⟨i, j, hq, hj, hb⟩
      exact ⟨i, hq.lt_length, hq, j, hj, hb⟩
    · rintro ⟨i, -, hq, j, hj, hb⟩
      exact ⟨i, j, hq, hj, hb⟩
  have hgreatest := nesting_isGreatest p
  constructor
  · rintro ⟨i, hq⟩
    have hzero : 0 ∈ balancesBefore p p.length := ⟨i, hq.lt_length, hq, i, le_rfl, balance_self p i⟩
    rwa [hbalances, ← Set.insert_eq_of_mem hzero]
  · intro hnone
    have hempty : balancesBefore p p.length = ∅ := by simp [balancesBefore, hnone]
    rw [hempty, insert_empty_eq] at hgreatest
    exact Int.natCast_eq_zero.1 (isGreatest_singleton.unique hgreatest).symm

end PatternGuard.Hazard
