import Mathlib
import PatternGuard.Regex.Pattern

/-! Plain expressions are those that globs and escaped texts read as. Backtracking is complete for
them: they match just where their pieces can be laid out between two places. -/

namespace PatternGuard.Regex

def Row.All (s : Subject) (test : Nat → Bool) (i count : Nat) : Prop :=
  ∀ k < count, ∃ x, s[i + k]? = some x ∧ test x.toNat = true

namespace Node

inductive IsChar : Node → Prop
  | literal (c : Nat) : IsChar (.literal c)
  | notLiteral (c : Nat) : IsChar (.notLiteral c)
  | any : IsChar .any

inductive Plain : Node → Prop
  | empty : Plain .empty
  | seq {a b : Node} : Plain a → Plain b → Plain (.seq a b)
  | char {n : Node} : IsChar n → Plain n
  | anchor (a : Anchor) : Plain (.anchor a)
  | row {n : Node} (least : Nat) (most : Option Nat) : IsChar n →
      Plain (.repeated .greedy least most (.seq n .empty))

def takes (m : Mode) : Node → Nat → Bool
  | .literal c, x => m.isLiteral c x
  | .notLiteral c, x => !m.isLiteral c x
  | .any, x => m.dotAll || x != 0x0a
  | _, _ => false

/-- The expression can take what stands between two places. -/
def Spans (s : Subject) (m : Mode) : Node → Nat → Nat → Prop
  | .empty, i, j => j = i
  | .seq a b, i, k => ∃ j, a.Spans s m i j ∧ b.Spans s m j k
  | .anchor a, i, j => a.holds s m i = true ∧ j = i
  | .repeated _ least most (.seq n .empty), i, j =>
    ∃ count, least ≤ count ∧ (∀ b ∈ most, count ≤ b) ∧ Row.All s (n.takes m) i count ∧ j = i + count
  | n, i, j => Row.All s (n.takes m) i 1 ∧ j = i + 1

theorem IsChar.spans_iff {s : Subject} {m : Mode} {n : Node} (hn : n.IsChar) {i j : Nat} :
    n.Spans s m i j ↔ Row.All s (n.takes m) i 1 ∧ j = i + 1 := by
  cases hn <;> rfl

theorem IsChar.charStep {m : Mode} {n : Node} (hn : n.IsChar) :
    ∃ step, (Node.seq n .empty).charStep? m = some step ∧ step.takes = n.takes m := by
  cases hn with
  | literal c => exact ⟨_, rfl, rfl⟩
  | notLiteral c => exact ⟨_, rfl, rfl⟩
  | any => exact ⟨_, rfl, rfl⟩

theorem Plain.ofList {ns : List Node} (h : ∀ n ∈ ns, n.Plain) : (ofList ns).Plain := by
  induction ns with
  | nil => exact .empty
  | cons n ns ih => exact .seq (h n (by simp)) (ih fun n' hn' => h n' (by simp [hn']))

theorem plain_literals {cs : List Char} : ∀ n ∈ cs.map (literal ·.toNat), n.Plain := by
  intro n hn
  obtain ⟨c, -, rfl⟩ := List.mem_map.1 hn
  exact .char (.literal c.toNat)

end Node

namespace Row

variable {s : Subject} {test : Nat → Bool}

theorem all_zero (i : Nat) : All s test i 0 := by
  intro k hk
  cases hk

theorem all_succ {i count : Nat} :
    All s test i (count + 1) ↔ All s test i 1 ∧ All s test (i + 1) count := by
  constructor
  · intro h
    constructor
    · intro k hk
      exact h k (by omega)
    · intro k hk
      have := h (k + 1) (by omega)
      rwa [show i + (k + 1) = i + 1 + k by omega] at this
  · intro h k hk
    cases k with
    | zero => exact h.1 0 (by omega)
    | succ k =>
      rw [show i + (k + 1) = i + 1 + k by omega]
      exact h.2 k (by omega)

theorem all_one {i : Nat} : All s test i 1 ↔ ∃ x, s[i]? = some x ∧ test x.toNat = true := by
  constructor
  · intro h
    exact h 0 (by omega)
  · intro h k hk
    rwa [show k = 0 by omega]

theorem All.le_left {i count : Nat} (h : All s test i count) : count ≤ s.size - i := by
  cases count with
  | zero => exact Nat.zero_le _
  | succ count =>
    obtain ⟨x, hx, -⟩ := h count (by omega)
    have := (Array.getElem?_eq_some_iff.1 hx).1
    omega

theorem all_iff_exists_piece {i count : Nat} :
    All s test i count ↔ ∃ w, w.length = count ∧ s.toList.drop i = w ++ s.toList.drop (i + count) ∧
      ∀ x ∈ w, test x.toNat = true := by
  induction count generalizing i with
  | zero =>
    constructor
    · intro h
      exact ⟨[], rfl, by simp, by simp⟩
    · intro h
      exact all_zero i
  | succ count ih =>
    rw [all_succ, all_one, ih]
    constructor
    · intro ⟨⟨x, hx, hxt⟩, w, hw, hdrop, hwt⟩
      refine ⟨x :: w, by simp [hw], ?_, by simpa [hxt] using hwt⟩
      rw [← Array.getElem?_toList] at hx
      rw [List.drop_eq_getElem?_toList_append, hx, hdrop]
      simp [Nat.add_assoc, Nat.add_comm 1]
    · intro ⟨w, hw, hdrop, hwt⟩
      cases w with
      | nil => cases hw
      | cons x w =>
        have hx : s.toList[i]? = some x := by
          rw [← List.head?_drop, hdrop]
          rfl
        refine ⟨⟨x, by simpa using hx, hwt x (by simp)⟩, w, by simpa using hw, ?_,
          fun y hy => hwt y (by simp [hy])⟩
        have := congrArg List.tail hdrop
        rw [List.tail_drop] at this
        rw [this]
        simp [Nat.add_assoc, Nat.add_comm 1]

end Row

namespace Node

theorem spans_ofList_iff {s : Subject} {m : Mode} {α : Type} {node : α → Node}
    {takes : α → List Char → Prop} {us : List α}
    (h : ∀ u ∈ us, ∀ i j, (node u).Spans s m i j ↔
      ∃ w, takes u w ∧ s.toList.drop i = w ++ s.toList.drop j ∧ j = i + w.length)
    {i j : Nat} :
    (ofList (us.map node)).Spans s m i j ↔
      ∃ ws, List.Forall₂ takes us ws ∧ s.toList.drop i = ws.flatten ++ s.toList.drop j ∧
        j = i + ws.flatten.length := by
  induction us generalizing i with
  | nil =>
    constructor
    · intro hj
      exact ⟨[], .nil, by rw [show j = i from hj]; rfl, hj⟩
    · intro ⟨ws, hws, _, hj⟩
      cases hws
      exact hj
  | cons u us ih =>
    have hu := h u (by simp)
    have ih := @ih fun v hv => h v (by simp [hv])
    constructor
    · intro ⟨l, hl, hj⟩
      obtain ⟨w, hw, hdrop, hlen⟩ := (hu i l).1 hl
      obtain ⟨ws, hws, hdrops, hlens⟩ := ih.1 hj
      refine ⟨w :: ws, .cons hw hws, ?_, ?_⟩
      · rw [hdrop, hdrops, List.flatten_cons, List.append_assoc]
      · rw [hlens, hlen, List.flatten_cons, List.length_append, Nat.add_assoc]
    · intro ⟨ws, hws, hdrop, hj⟩
      cases hws with
      | @cons _ w _ ws hw hws =>
        rw [List.flatten_cons, List.append_assoc] at hdrop
        rw [List.flatten_cons, List.length_append, ← Nat.add_assoc] at hj
        have hrest : s.toList.drop (i + w.length) = ws.flatten ++ s.toList.drop j := by
          rw [← List.drop_drop, hdrop, List.drop_left]
        exact ⟨i + w.length, (hu i _).2 ⟨w, hw, by rw [hdrop, hrest], rfl⟩,
          ih.2 ⟨ws, hws, hrest, hj⟩⟩

theorem spans_ofList_append {s : Subject} {m : Mode} {ns ns' : List Node} {i k : Nat} :
    (ofList (ns ++ ns')).Spans s m i k ↔
      ∃ j, (ofList ns).Spans s m i j ∧ (ofList ns').Spans s m j k := by
  induction ns generalizing i with
  | nil =>
    constructor
    · intro h
      exact ⟨i, rfl, h⟩
    · intro ⟨j, hj, h⟩
      rwa [show j = i from hj] at h
  | cons n ns ih =>
    constructor
    · intro ⟨l, hl, h⟩
      obtain ⟨j, hj, h⟩ := ih.1 h
      exact ⟨j, ⟨l, hl, hj⟩, h⟩
    · intro ⟨j, ⟨l, hl, hj⟩, h⟩
      exact ⟨l, hl, ih.2 ⟨j, hj, h⟩⟩

theorem IsChar.spans_iff_exists_piece {s : Subject} {m : Mode} {n : Node} (hn : n.IsChar)
    {i j : Nat} :
    n.Spans s m i j ↔ ∃ w, (∃ x, w = [x] ∧ n.takes m x.toNat = true) ∧
      s.toList.drop i = w ++ s.toList.drop j ∧ j = i + w.length := by
  rw [hn.spans_iff, Row.all_iff_exists_piece]
  constructor
  · intro ⟨⟨w, hw, hdrop, htakes⟩, hj⟩
    obtain ⟨x, rfl⟩ := List.length_eq_one_iff.1 hw
    exact ⟨[x], ⟨x, rfl, htakes x (by simp)⟩, hj ▸ hdrop, hj⟩
  · intro ⟨w, ⟨x, hw, htakes⟩, hdrop, hj⟩
    subst hw
    exact ⟨⟨[x], rfl, hj ▸ hdrop, by simpa using htakes⟩, hj⟩

theorem row_spans_iff_exists_piece {s : Subject} {m : Mode} {n : Node} {i j : Nat} :
    (Node.repeated .greedy 0 none (.ofList [n])).Spans s m i j ↔
      ∃ w, (∀ x ∈ w, n.takes m x.toNat = true) ∧
        s.toList.drop i = w ++ s.toList.drop j ∧ j = i + w.length := by
  constructor
  · intro ⟨count, _, _, hrow, hj⟩
    obtain ⟨w, hw, hdrop, htakes⟩ := Row.all_iff_exists_piece.1 hrow
    exact ⟨w, htakes, hj ▸ hdrop, hw.symm ▸ hj⟩
  · intro ⟨w, htakes, hdrop, hj⟩
    exact ⟨w.length, Nat.zero_le _, by simp,
      Row.all_iff_exists_piece.2 ⟨w, rfl, hj ▸ hdrop, htakes⟩, hj⟩

end Node

end PatternGuard.Regex
