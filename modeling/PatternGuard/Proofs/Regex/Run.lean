import Mathlib
import PatternGuard.Proofs.Regex.Plain

namespace PatternGuard.Regex

def Attempt.Succeeds (a : Attempt) : Prop := a.found?.isSome = true

@[simp] theorem Attempt.succeeds_found (t : Trail) : (Attempt.found t).Succeeds := rfl

@[simp] theorem Attempt.not_succeeds_lost (t : Trail) : ¬ (Attempt.lost t).Succeeds := by
  simp [Succeeds, found?]

@[simp] theorem Attempt.succeeds_onLoss (f : Trail → Trail) (a : Attempt) :
    (a.onLoss f).Succeeds ↔ a.Succeeds := by
  cases a with
  | found t => rfl
  | lost t => simp [onLoss]

/-- It succeeds at the places of a kind, whatever the trail. -/
def Continuation.Decides (k : Continuation) (P : Nat → Prop) : Prop :=
  ∀ i t, (k i t).Succeeds ↔ P i

theorem Continuation.stop_decides : Continuation.stop.Decides fun _ => True := by
  intro i t
  simp [stop]

def Foreseen (s : Subject) (following : Option Nat) (P : Nat → Prop) : Prop :=
  ∀ c ∈ following, ∀ i, P i → ∃ x, s[i]? = some x ∧ x.toNat = c

variable {s : Subject} {P : Nat → Prop}

theorem takeChar_succeeds {test : Nat → Bool} {k : Continuation} (hk : k.Decides P) (i : Nat)
    (t : Trail) : (takeChar s test i t k).Succeeds ↔ Row.All s test i 1 ∧ P (i + 1) := by
  rw [takeChar, Row.all_one]
  cases h : s[i]? with
  | none => simp
  | some c =>
    by_cases hc : test c.toNat = true
    · simp [hc, hk (i + 1) t]
    · simp [hc]

namespace Row

theorem stop_spec (test : Nat → Bool) (most i : Nat) :
    ∃ n ≤ most, stop s test most i = i + n ∧ ∀ d ≤ most, All s test i d ↔ d ≤ n := by
  induction most generalizing i with
  | zero =>
    refine ⟨0, le_refl 0, rfl, ?_⟩
    intro d hd
    rw [Nat.le_zero.1 hd]
    simp [all_zero]
  | succ most ih =>
    -- Where the first character is refused, the row is empty.
    have hnone (hrow : ¬ All s test i 1) : ∀ d ≤ most + 1, All s test i d ↔ d ≤ 0 := by
      intro d hd
      cases d with
      | zero => simp [all_zero]
      | succ d => rw [all_succ]; simp [hrow]
    cases h : s[i]? with
    | none => exact ⟨0, Nat.zero_le _, by simp [stop, h], hnone (by simp [all_one, h])⟩
    | some c =>
      by_cases hc : test c.toNat = true
      · obtain ⟨n, hn, hstop, hall⟩ := ih (i + 1)
        refine ⟨n + 1, by omega, by simp [stop, h, hc, hstop]; omega, ?_⟩
        intro d hd
        cases d with
        | zero => simp [all_zero]
        | succ d => rw [all_succ, hall d (by omega)]; simp [all_one, h, hc]
      · exact ⟨0, Nat.zero_le _, by simp [stop, h, hc], hnone (by simp [all_one, h, hc])⟩

theorem longestFirst_succeeds {attempt : Nat → Trail → Attempt}
    (h : ∀ i t, (attempt i t).Succeeds ↔ P i) (least more : Nat) (t : Trail) :
    (longestFirst attempt least more t).Succeeds ↔ ∃ d ≤ more, P (least + d) := by
  induction more generalizing t with
  | zero => simp [longestFirst, h]
  | succ more ih =>
    have hsplit : (∃ d ≤ more + 1, P (least + d)) ↔
        P (least + more + 1) ∨ ∃ d ≤ more, P (least + d) := by
      constructor
      · intro ⟨d, hd, hP⟩
        rcases Nat.lt_or_eq_of_le hd with hlt | rfl
        · exact .inr ⟨d, by omega, hP⟩
        · exact .inl hP
      · intro h
        rcases h with hP | ⟨d, hd, hP⟩
        · exact ⟨more + 1, le_refl _, hP⟩
        · exact ⟨d, by omega, hP⟩
    rw [hsplit, longestFirst, ← h _ t]
    cases attempt (least + more + 1) t with
    | found u => simp
    | lost u => simp [ih]

theorem goOn_succeeds {sc : Scene} {k : Continuation} (hk : k.Decides P)
    (hf : Foreseen s sc.following P) (before : Trail) (i : Nat) (t : Trail) :
    (goOn s sc before k i t).Succeeds ↔ P i := by
  rw [goOn]
  split_ifs with h
  · rw [Attempt.succeeds_onLoss, hk]
  · constructor
    · intro hlost
      exact absurd hlost (Attempt.not_succeeds_lost t)
    · intro hP
      refine absurd ?_ h
      rw [Option.all_eq_true_iff_get]
      intro hsome
      obtain ⟨x, hx, hc⟩ := hf _ (Option.get_mem hsome) i hP
      simp [hx, hc]

theorem run_succeeds {sc : Scene} {k : Continuation} (hk : k.Decides P)
    (hf : Foreseen s sc.following P) (step : CharStep) (least : Nat) (most : Option Nat) (i : Nat)
    (t : Trail) :
    (run s sc step .greedy least most i t k).Succeeds ↔
      ∃ count, least ≤ count ∧ (∀ b ∈ most, count ≤ b) ∧ All s step.takes i count ∧
        P (i + count) := by
  rw [run]
  split_ifs with hleft
  · simp only [Attempt.not_succeeds_lost, false_iff, not_exists]
    intro count ⟨hleast, _, hall, _⟩
    have := hall.le_left
    omega
  · obtain ⟨n, hn, hstop, hall⟩ :=
      @stop_spec s step.takes (min (most.getD (s.size - i)) (s.size - i)) i
    -- A count within the bounds is within the row exactly if it is at most `n`.
    have hcount (count : Nat) :
        (∀ b ∈ most, count ≤ b) ∧ All s step.takes i count ↔ count ≤ n := by
      constructor
      · intro ⟨hb, hrow⟩
        refine (hall count ?_).1 hrow
        have := hrow.le_left
        cases most with
        | none => simpa using this
        | some b => exact le_min (hb b rfl) this
      · intro hle
        refine ⟨?_, (hall count (hle.trans hn)).2 hle⟩
        intro b hb
        rw [Option.mem_def.1 hb] at hn
        exact hle.trans (hn.trans (min_le_left _ _))
    simp only [hstop]
    split_ifs with hfew
    · simp only [Attempt.not_succeeds_lost, false_iff, not_exists]
      intro count ⟨hleast, hb, hrow, _⟩
      have := (hcount count).1 ⟨hb, hrow⟩
      omega
    · rw [longestFirst_succeeds (goOn_succeeds hk hf _)]
      constructor
      · intro ⟨d, hd, hP⟩
        obtain ⟨hb, hrow⟩ := (hcount (least + d)).2 (by omega)
        exact ⟨least + d, by omega, hb, hrow, by rwa [← Nat.add_assoc]⟩
      · intro ⟨count, hleast, hb, hrow, hP⟩
        have := (hcount count).1 ⟨hb, hrow⟩
        refine ⟨count - least, by omega, ?_⟩
        rwa [show i + least + (count - least) = i + count by omega]

end Row

namespace Node

variable {m : Mode} {n : Node}

theorem eq_of_isExact {c x : Nat} (he : m.isExact c = true) (h : m.isLiteral c x = true) :
    x = c := by
  simp only [Mode.isExact, Bool.not_eq_true', Bool.and_eq_false_iff] at he
  rw [Mode.isLiteral] at h
  split_ifs at h with hi
  · rw [Folding.same] at h
    simpa [he.resolve_left (by simp [hi])] using h
  · simpa using h

theorem Plain.spans_of_firstStep_none (hn : n.Plain) (h : n.firstStep m = none) {i j : Nat}
    (hs : n.Spans s m i j) : j = i := by
  induction hn generalizing i j with
  | empty => exact hs
  | @seq a b _ _ iha ihb =>
    obtain ⟨l, hl, hj⟩ := hs
    rw [firstStep] at h
    cases ha : a.firstStep m with
    | some step => rw [ha] at h; cases h
    | none =>
      rw [ha] at h
      rw [ihb h hj, iha ha hl]
  | char hc => cases hc <;> cases h
  | anchor a => exact hs.2
  | row least most hc => cases h

theorem Plain.spans_of_firstStep_literal (hn : n.Plain) {m' : Mode} {c : Nat}
    (h : n.firstStep m = some (m', .literal c)) :
    m' = m ∧ ∀ i j, n.Spans s m i j → Row.All s (m.isLiteral c) i 1 := by
  induction hn with
  | empty => cases h
  | @seq a b ha _ iha ihb =>
    rw [firstStep] at h
    cases hstep : a.firstStep m with
    | some step =>
      rw [hstep] at h
      obtain ⟨hm, hrow⟩ := iha (hstep.trans h)
      exact ⟨hm, fun i j ⟨l, hl, _⟩ => hrow i l hl⟩
    | none =>
      rw [hstep] at h
      obtain ⟨hm, hrow⟩ := ihb h
      refine ⟨hm, fun i j ⟨l, hl, hj⟩ => ?_⟩
      rw [← ha.spans_of_firstStep_none hstep hl]
      exact hrow l j hj
  | char hc =>
    cases hc with
    | literal d =>
      cases h
      exact ⟨rfl, fun i j hs => hs.1⟩
    | notLiteral d => cases h
    | any => cases h
  | anchor a => cases h
  | row least most hc => cases h

theorem Plain.opening_foreseen (hn : n.Plain) {following : Option Nat}
    (hf : Foreseen s following P) :
    Foreseen s (n.opening m following) fun i => ∃ j, n.Spans s m i j ∧ P j := by
  intro c hc i ⟨j, hs, hP⟩
  rw [opening] at hc
  split at hc
  · rename_i hnone
    rw [hn.spans_of_firstStep_none hnone hs] at hP
    exact hf c hc i hP
  · rename_i m' d hlit
    obtain ⟨rfl, hrow⟩ := hn.spans_of_firstStep_literal (s := s) hlit
    split_ifs at hc with he
    · obtain ⟨x, hx, hxd⟩ := Row.all_one.1 (hrow i j hs)
      cases hc
      exact ⟨x, hx, eq_of_isExact he hxd⟩
    · cases hc
  · cases hc

theorem IsChar.run_succeeds (hn : n.IsChar) {sc : Scene} {k : Continuation} (hk : k.Decides P)
    (i : Nat) (t : Trail) :
    (n.run s sc i t k).Succeeds ↔ Row.All s (n.takes sc.mode) i 1 ∧ P (i + 1) := by
  cases hn with
  | literal c => exact takeChar_succeeds hk i t
  | notLiteral c => exact takeChar_succeeds hk i t
  | any => exact takeChar_succeeds hk i t

theorem Plain.run_succeeds (hn : n.Plain) {sc : Scene} {k : Continuation} {P : Nat → Prop}
    (hk : k.Decides P) (hf : Foreseen s sc.following P) (i : Nat) (t : Trail) :
    (n.run s sc i t k).Succeeds ↔ ∃ j, n.Spans s sc.mode i j ∧ P j := by
  induction hn generalizing sc k P i t with
  | empty => simp [run, Spans, hk i t]
  | @seq a b ha hb iha ihb =>
    have hrest : Continuation.Decides (fun j u => b.run s sc j u k)
        fun j => ∃ l, b.Spans s sc.mode j l ∧ P l := ihb hk hf
    rw [run, iha hrest (hb.opening_foreseen hf)]
    constructor
    · intro ⟨j, hj, l, hl, hP⟩
      exact ⟨l, ⟨j, hj, hl⟩, hP⟩
    · intro ⟨l, ⟨j, hj, hl⟩, hP⟩
      exact ⟨j, hj, l, hl, hP⟩
  | char hc =>
    rw [hc.run_succeeds hk]
    simp [hc.spans_iff]
  | anchor a =>
    rw [run]
    split_ifs with h <;> simp [Spans, h, hk i t]
  | @row n least most hc =>
    obtain ⟨step, hstep, htakes⟩ := hc.charStep (m := sc.mode)
    simp only [run, hstep]
    rw [Row.run_succeeds hk hf, htakes]
    constructor
    · intro ⟨count, hl, hb, hall, hP⟩
      exact ⟨i + count, ⟨count, hl, hb, hall, rfl⟩, hP⟩
    · intro ⟨j, ⟨count, hl, hb, hall, hj⟩, hP⟩
      exact ⟨count, hl, hb, hall, hj ▸ hP⟩

end Node

end PatternGuard.Regex
