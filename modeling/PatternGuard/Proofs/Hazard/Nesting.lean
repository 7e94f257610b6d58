import Mathlib
import PatternGuard.Hazard
import PatternGuard.Transform

namespace PatternGuard.Text

def Follows (before : List Char) (kind : Char → Prop) (cs : List Char) : Prop :=
  ∀ a c b, cs = a ++ c :: b → kind c → ∃ x ∈ before, a.getLast? = some x

variable {before : List Char} {kind : Char → Prop}

theorem Follows.of_absent {cs : List Char} (h : ∀ c ∈ cs, ¬ kind c) : Follows before kind cs := by
  rintro a c b rfl hc
  exact absurd hc (h c (by simp))

theorem Follows.mono {before' : List Char} {kind' : Char → Prop} {cs : List Char}
    (h : Follows before kind cs) (hbefore : before ⊆ before') (hkind : ∀ c, kind' c → kind c) :
    Follows before' kind' cs := by
  intro a c b hcs hc
  obtain ⟨x, hx, hlast⟩ := h a c b hcs (hkind c hc)
  exact ⟨x, hbefore hx, hlast⟩

theorem append_eq_append_cons {u v a b : List Char} {c : Char} (h : u ++ v = a ++ c :: b) :
    (∃ m, u = a ++ c :: m ∧ b = m ++ v) ∨ ∃ m, a = u ++ m ∧ v = m ++ c :: b := by
  rcases List.append_eq_append_iff.1 h with ⟨m, ha, hv⟩ | ⟨m, hu, hb⟩
  · exact .inr ⟨m, ha, hv⟩
  · cases m with
    | nil => exact .inr ⟨[], by simpa using hu.symm, by simpa using hb.symm⟩
    | cons d m =>
      obtain ⟨rfl, rfl⟩ := List.cons.inj hb
      exact .inl ⟨m, hu, rfl⟩

theorem Follows.append {u v : List Char} (hu : Follows before kind u) (hv : Follows before kind v) :
    Follows before kind (u ++ v) := by
  intro a c b h hc
  rcases append_eq_append_cons h with ⟨m, hm, -⟩ | ⟨m, rfl, hm⟩
  · exact hu a c m hm hc
  · obtain ⟨x, hx, hlast⟩ := hv m c b hm hc
    exact ⟨x, hx, by simp [hlast]⟩

theorem Follows.pair {x c : Char} (hx : ¬ kind x) (hc : kind c → x ∈ before) :
    Follows before kind [x, c] := by
  intro a d b h hd
  cases a with
  | nil =>
    cases h
    exact absurd hd hx
  | cons e a =>
    cases a with
    | nil =>
      cases h
      exact ⟨x, hc hd, rfl⟩
    | cons f a => simp at h

theorem Follows.flatMap {α : Type} {f : α → List Char} {xs : List α}
    (h : ∀ x ∈ xs, Follows before kind (f x)) : Follows before kind (xs.flatMap f) := by
  induction xs with
  | nil => exact .of_absent (by simp)
  | cons x xs ih =>
    rw [List.flatMap_cons]
    exact (h x (by simp)).append (ih fun y hy => h y (by simp [hy]))

theorem Follows.mem_before {a b : List Char} {x c : Char}
    (h : Follows before kind (a ++ x :: c :: b)) (hc : kind c) : x ∈ before := by
  obtain ⟨y, hy, hlast⟩ := h (a ++ [x]) c b (by simp) hc
  rw [List.getLast?_concat, Option.some.injEq] at hlast
  exact hlast ▸ hy

end PatternGuard.Text

namespace PatternGuard.Hazard

open PatternGuard.Text

namespace Scan

@[simp] theorem step_escaped (s : Scan) (c : Char) : (s.step c).escaped = (c == '\\') := by
  simp only [step]
  split_ifs <;> rfl

theorem step_depth (s : Scan) (c : Char) :
    (s.step c).depth =
      if s.escaped = true then s.depth
      else if c = '(' then s.depth + 1
      else if c = ')' then s.depth - 1
      else s.depth := by
  simp only [step, beq_iff_eq]
  split_ifs <;> rfl

theorem step_deepest (s : Scan) (c : Char) :
    (s.step c).deepest =
      if s.escaped = false ∧ c ∈ quantifiers then max s.deepest s.depth else s.deepest := by
  by_cases hq : c ∈ quantifiers
  · -- A quantifier is no parenthesis, and at depth zero it changes nothing.
    have hopen : c ≠ '(' := ne_of_mem_of_not_mem hq (by decide)
    have hclose : c ≠ ')' := ne_of_mem_of_not_mem hq (by decide)
    rcases Nat.eq_zero_or_pos s.depth with hdepth | hdepth
    · cases he : s.escaped <;> simp [step, he, hq, hopen, hclose, hdepth]
    · cases he : s.escaped <;> simp [step, he, hq, hopen, hclose, hdepth]
  · have hcontains : quantifiers.contains c = false := by simpa using hq
    simp only [step, hcontains, Bool.false_and, Bool.false_eq_true, if_false, hq, and_false]
    split_ifs <;> rfl

theorem escaped_foldl (a : List Char) :
    (a.foldl step .start).escaped = (a.getLast? == some '\\') := by
  induction a using List.reverseRecOn with
  | nil => rfl
  | append_singleton a c ih => simp

structure Flat (s : Scan) : Prop where
  depth : s.depth = 0
  deepest : s.deepest = 0

theorem Flat.step {s : Scan} (h : s.Flat) {c : Char} (hc : s.escaped = true ∨ c ≠ '(') :
    (s.step c).Flat where
  depth := by
    rw [step_depth, h.depth]
    split_ifs with he hopen
    · rfl
    · exact absurd hopen (hc.resolve_left he)
    · rfl
    · rfl
  deepest := by
    rw [step_deepest, h.depth, h.deepest]
    split_ifs <;> rfl

end Scan

theorem nesting_of_no_quantifier {p : List Char} (h : ∀ c ∈ p, c ∉ quantifiers) :
    nesting p = 0 := by
  suffices ∀ s : Scan, (p.foldl Scan.step s).deepest = s.deepest from this .start
  induction p with
  | nil => exact fun s => rfl
  | cons c p ih =>
    intro s
    rw [List.foldl_cons, ih fun d hd => h d (by simp [hd]), Scan.step_deepest, if_neg]
    exact fun hc => h c (by simp) hc.2

theorem flat_of_escaped {p : List Char} (h : Follows ['\\'] (· = '(') p) (a b : List Char)
    (hp : p = a ++ b) : (a.foldl Scan.step .start).Flat := by
  induction a using List.reverseRecOn generalizing b with
  | nil => exact ⟨rfl, rfl⟩
  | append_singleton a c ih =>
    rw [List.foldl_concat]
    refine (ih (c :: b) (by simp [hp])).step ?_
    by_cases hc : c = '('
    · obtain ⟨x, hx, hlast⟩ := h a c b (by simp [hp]) hc
      rw [List.mem_singleton] at hx
      exact .inl (by simp [Scan.escaped_foldl, hlast, hx])
    · exact .inr hc

theorem nesting_of_escaped {p : List Char} (h : Follows ['\\'] (· = '(') p) : nesting p = 0 :=
  (flat_of_escaped h p [] (by simp)).deepest

end PatternGuard.Hazard
