import Mathlib
import PatternGuard.Hazard

namespace PatternGuard.Hazard

inductive OpenQuantifier : List Char → Prop
  | char {c : Char} : isUnbounded c = true → OpenQuantifier [c]
  | count {ds : List Char} : ds ≠ [] → (∀ d ∈ ds, Unicode.isDecimal d.toNat = true) →
      OpenQuantifier ('\x7b' :: ds ++ [',', '\x7d'])

def isCountChar (c : Char) : Bool := (0x30 ≤ c.toNat && c.toNat ≤ 0x39) || c == ','

namespace Signature

/-- The shape of a signature begins here. Groups reach to the first closing parenthesis and sets to
the first closing bracket, escaped or not. -/
def Begins : Signature → List Char → Prop
  | .nestedQuantifier, s => ∃ u q v c b,
    s = '(' :: (u ++ q ++ v) ++ ')' :: c :: b ∧ ')' ∉ u ∧ OpenQuantifier q ∧ ')' ∉ v ∧
      isUnbounded c = true
  | .repeatedAlternation, s => ∃ u v c b,
    s = '(' :: (u ++ '|' :: v) ++ ')' :: c :: b ∧ ')' ∉ u ∧ ')' ∉ v ∧ isUnbounded c = true
  | .countedGroup, s => ∃ u n b,
    s = '(' :: u ++ ')' :: '\x7b' :: n ++ '\x7d' :: b ∧ u ≠ [] ∧ ')' ∉ u ∧ n ≠ [] ∧
      ∀ d ∈ n, isCountChar d = true
  | .deepQuantifier, s => ∃ u v c w d b,
    s = '(' :: (u ++ '(' :: (v ++ [c])) ++ ')' :: (w ++ [d]) ++ ')' :: b ∧ ')' ∉ u ∧ ')' ∉ v ∧
      isUnbounded c = true ∧ ')' ∉ w ∧ isUnbounded d = true
  | .adjacentSets, s => ∃ x c y d b,
    s = '[' :: x ++ ']' :: c :: '[' :: y ++ ']' :: d :: b ∧ x ≠ [] ∧ ']' ∉ x ∧
      isUnbounded c = true ∧ y ≠ [] ∧ ']' ∉ y ∧ isUnbounded d = true

def Holds (sig : Signature) (p : List Char) : Prop := ∃ a s, p = a ++ s ∧ sig.Begins s

def index (sig : Signature) : Nat := all.idxOf sig

end Signature

theorem anySuffix_eq_true_iff {test : List Char → Bool} {p : List Char} :
    anySuffix test p = true ↔ ∃ a s, p = a ++ s ∧ test s = true := by
  induction p with
  | nil => simp [anySuffix, and_assoc]
  | cons c cs ih =>
    rw [anySuffix, Bool.or_eq_true, ih]
    constructor
    · rintro (h | ⟨a, s, rfl, h⟩)
      · exact ⟨[], c :: cs, rfl, h⟩
      · exact ⟨c :: a, s, rfl, h⟩
    · intro ⟨a, s, hs, h⟩
      cases a with
      | nil => exact .inl (hs ▸ h)
      | cons d a =>
        obtain ⟨rfl, rfl⟩ := List.cons.inj hs
        exact .inr ⟨a, s, rfl, h⟩

theorem upTo_eq_some_iff {stop : Char} {cs u rest : List Char} :
    upTo stop cs = some (u, rest) ↔ stop ∉ u ∧ cs = u ++ stop :: rest := by
  induction cs generalizing u with
  | nil => simp [upTo]
  | cons c cs ih =>
    by_cases hc : c = stop
    · cases u with
      | nil => simp [upTo, hc]
      | cons d u =>
        constructor
        · intro h
          simp [upTo, hc] at h
        · intro ⟨hu, h⟩
          exact absurd ((List.cons.inj h).1.symm.trans hc) (List.ne_of_not_mem_cons hu).symm
    · cases u with
      | nil => simp [upTo, hc]
      | cons d u =>
        simp only [upTo, beq_iff_eq, hc, if_false, Option.map_eq_some_iff, Prod.exists,
          Prod.mk.injEq, List.cons.injEq, List.mem_cons, not_or, List.cons_append]
        constructor
        · rintro ⟨u, rest, h, ⟨rfl, rfl⟩, rfl⟩
          obtain ⟨hu, rfl⟩ := ih.1 h
          exact ⟨⟨fun h => hc h.symm, hu⟩, rfl, rfl⟩
        · rintro ⟨⟨-, hu⟩, rfl, rfl⟩
          exact ⟨u, rest, ih.2 ⟨hu, rfl⟩, ⟨rfl, rfl⟩, rfl⟩

theorem any_upTo_iff {stop : Char} {cs : List Char} {test : List Char × List Char → Bool} :
    (upTo stop cs).any test = true ↔
      ∃ u rest, cs = u ++ stop :: rest ∧ stop ∉ u ∧ test (u, rest) = true := by
  simp only [Option.any_eq_true, Prod.exists, upTo_eq_some_iff]
  constructor
  · rintro ⟨u, rest, ⟨hu, rfl⟩, h⟩
    exact ⟨u, rest, rfl, hu, h⟩
  · rintro ⟨u, rest, rfl, hu, h⟩
    exact ⟨u, rest, ⟨hu, rfl⟩, h⟩

theorem takeWhile_dropWhile_eq {test : Char → Bool} {u rest : List Char}
    (hu : ∀ x ∈ u, test x = true) (hrest : ∀ x ∈ rest.head?, test x = false) :
    (u ++ rest).takeWhile test = u ∧ (u ++ rest).dropWhile test = rest := by
  have hnil : rest.takeWhile test = [] ∧ rest.dropWhile test = rest := by
    cases rest with
    | nil => exact ⟨rfl, rfl⟩
    | cons x rest => simp [hrest x rfl]
  rw [List.takeWhile_append_of_pos hu, List.dropWhile_append_of_pos hu, hnil.1, hnil.2]
  exact ⟨List.append_nil u, rfl⟩

theorem isDecimal_of_punctuation {c : Char} (hc : c ∈ [',', '(', ')', '[', ']']) :
    Unicode.isDecimal c.toNat = false := by
  fin_cases hc <;> rfl

theorem startsOpenCount_iff {s : List Char} :
    startsOpenCount s = true ↔ ∃ ds v, s = '\x7b' :: ds ++ ',' :: '\x7d' :: v ∧ ds ≠ [] ∧
      ∀ d ∈ ds, Unicode.isDecimal d.toNat = true := by
  constructor
  · intro h
    unfold startsOpenCount at h
    split at h
    · rename_i cs
      simp only [Bool.and_eq_true, Bool.not_eq_true', List.isEmpty_eq_false_iff,
        beq_iff_eq] at h
      obtain ⟨hne, htake⟩ := h
      set ds := cs.takeWhile (Unicode.isDecimal ·.toNat)
      set rest := cs.dropWhile (Unicode.isDecimal ·.toNat)
      have hcs : cs = ds ++ rest := List.takeWhile_append_dropWhile.symm
      have hrest : rest = ',' :: '\x7d' :: rest.drop 2 := by
        rw [← List.take_append_drop 2 rest, htake]
        simp
      exact ⟨ds, rest.drop 2, by rw [hcs]; nth_rewrite 1 [hrest]; rfl, hne,
        fun d hd => by simpa using List.mem_takeWhile_imp hd⟩
    · cases h
  · rintro ⟨ds, v, rfl, hne, hds⟩
    have hcomma : Unicode.isDecimal ','.toNat = false := isDecimal_of_punctuation (by simp)
    obtain ⟨htake, hdrop⟩ :=
      @takeWhile_dropWhile_eq (Unicode.isDecimal ·.toNat) ds (',' :: '\x7d' :: v) hds
        (by simpa using hcomma)
    simp [startsOpenCount, htake, hdrop, hne]

theorem startsCounts_iff {s : List Char} :
    startsCounts s = true ↔ ∃ n b, s = '\x7b' :: n ++ '\x7d' :: b ∧ n ≠ [] ∧
      ∀ d ∈ n, isCountChar d = true := by
  constructor
  · intro h
    unfold startsCounts at h
    split at h
    · rename_i cs
      change (!(cs.takeWhile isCountChar).isEmpty
        && (cs.dropWhile isCountChar).head? == some '\x7d') = true at h
      simp only [Bool.and_eq_true, Bool.not_eq_true', List.isEmpty_eq_false_iff,
        beq_iff_eq] at h
      obtain ⟨hne, hhead⟩ := h
      obtain ⟨b, hb⟩ := List.head?_eq_some_iff.1 hhead
      refine ⟨cs.takeWhile isCountChar, b, ?_, hne, fun d hd => List.mem_takeWhile_imp hd⟩
      rw [← hb, List.cons_append, List.takeWhile_append_dropWhile]
    · cases h
  · rintro ⟨n, b, rfl, hne, hn⟩
    obtain ⟨htake, hdrop⟩ :=
      @takeWhile_dropWhile_eq isCountChar n ('\x7d' :: b) hn (by simp; rfl)
    change (!((n ++ '\x7d' :: b).takeWhile isCountChar).isEmpty
      && ((n ++ '\x7d' :: b).dropWhile isCountChar).head? == some '\x7d') = true
    simp [htake, hdrop, hne]

theorem startsUnbounded_iff {s : List Char} :
    startsUnbounded s = true ↔ ∃ q v, s = q ++ v ∧ OpenQuantifier q := by
  rw [startsUnbounded, Bool.or_eq_true, startsOpenCount_iff]
  constructor
  · rintro (h | ⟨ds, v, rfl, hne, hds⟩)
    · cases s with
      | nil => cases h
      | cons c s => exact ⟨[c], s, rfl, .char h⟩
    · exact ⟨_, v, by simp, .count hne hds⟩
  · rintro ⟨q, v, rfl, hq⟩
    cases hq with
    | char hc => exact .inl hc
    | count hne hds => exact .inr ⟨_, v, by simp, hne, hds⟩

theorem endsUnbounded_iff {s : List Char} :
    endsUnbounded s = true ↔ ∃ v c, s = v ++ [c] ∧ isUnbounded c = true := by
  simp only [endsUnbounded, Option.any_eq_true, List.getLast?_eq_some_iff]
  constructor
  · rintro ⟨c, ⟨v, rfl⟩, hc⟩
    exact ⟨v, c, rfl, hc⟩
  · rintro ⟨v, c, rfl, hc⟩
    exact ⟨c, ⟨v, rfl⟩, hc⟩

theorem head_isUnbounded_iff {s : List Char} :
    s.head?.any isUnbounded = true ↔ ∃ c b, s = c :: b ∧ isUnbounded c = true := by
  cases s <;> simp

theorem OpenQuantifier.no_parenthesis {q : List Char} (hq : OpenQuantifier q) : ')' ∉ q := by
  cases hq with
  | char hc =>
    intro h
    rw [← List.mem_singleton.1 h] at hc
    cases hc
  | @count ds hne hds =>
    intro h
    have hmem : ')' ∈ ds := by simpa using h
    have hd := hds _ hmem
    rw [isDecimal_of_punctuation (by simp)] at hd
    cases hd

namespace Signature

theorem startsIn_nestedQuantifier {s : List Char} :
    nestedQuantifier.startsIn s = true ↔ nestedQuantifier.Begins s := by
  cases s with
  | nil => simp [startsIn, Begins]
  | cons e s =>
    simp only [startsIn, Begins, Bool.and_eq_true, beq_iff_eq, any_upTo_iff,
      anySuffix_eq_true_iff, startsUnbounded_iff, head_isUnbounded_iff]
    constructor
    · rintro ⟨rfl, _, _, rfl, hu, ⟨u, _, rfl, q, v, rfl, hq⟩, c, b, rfl, hc⟩
      simp only [List.mem_append, not_or] at hu
      exact ⟨u, q, v, c, b, by simp, hu.1, hq, hu.2.2, hc⟩
    · intro ⟨u, q, v, c, b, hs, hu, hq, hv, hc⟩
      obtain ⟨rfl, rfl⟩ := List.cons.inj hs
      refine ⟨rfl, u ++ q ++ v, c :: b, rfl, ?_, ⟨u, q ++ v, by simp, q, v, rfl, hq⟩, c, b, rfl,
        hc⟩
      simp [hu, hv, hq.no_parenthesis]

theorem startsIn_repeatedAlternation {s : List Char} :
    repeatedAlternation.startsIn s = true ↔ repeatedAlternation.Begins s := by
  cases s with
  | nil => simp [startsIn, Begins]
  | cons e s =>
    simp only [startsIn, Begins, Bool.and_eq_true, beq_iff_eq, any_upTo_iff,
      List.contains_iff_mem, head_isUnbounded_iff]
    constructor
    · rintro ⟨rfl, body, _, rfl, hbody, hbar, c, b, rfl, hc⟩
      obtain ⟨u, v, rfl⟩ := List.append_of_mem hbar
      simp only [List.mem_append, List.mem_cons, not_or] at hbody
      exact ⟨u, v, c, b, by simp, hbody.1, hbody.2.2, hc⟩
    · intro ⟨u, v, c, b, hs, hu, hv, hc⟩
      obtain ⟨rfl, rfl⟩ := List.cons.inj hs
      exact ⟨rfl, u ++ '|' :: v, c :: b, rfl, by simp [hu, hv], by simp, c, b, rfl, hc⟩

theorem startsIn_countedGroup {s : List Char} :
    countedGroup.startsIn s = true ↔ countedGroup.Begins s := by
  cases s with
  | nil => simp [startsIn, Begins]
  | cons e s =>
    simp only [startsIn, Begins, Bool.and_eq_true, beq_iff_eq, any_upTo_iff, startsCounts_iff,
      Bool.not_eq_true', List.isEmpty_eq_false_iff]
    constructor
    · rintro ⟨rfl, u, _, rfl, hu, hne, n, b, rfl, hn, hds⟩
      exact ⟨u, n, b, by simp, hne, hu, hn, hds⟩
    · intro ⟨u, n, b, hs, hne, hu, hn, hds⟩
      obtain ⟨rfl, rfl⟩ := List.cons.inj hs
      exact ⟨rfl, u, '\x7b' :: n ++ '\x7d' :: b, by simp, hu, hne, n, b, rfl, hn, hds⟩

theorem startsIn_deepQuantifier {s : List Char} :
    deepQuantifier.startsIn s = true ↔ deepQuantifier.Begins s := by
  cases s with
  | nil => simp [startsIn, Begins]
  | cons e s =>
    simp only [startsIn, Begins, Bool.and_eq_true, beq_iff_eq, any_upTo_iff,
      List.contains_iff_mem, endsUnbounded_iff]
    constructor
    · rintro ⟨rfl, body, _, rfl, hbody, ⟨hopen, t, c, rfl, hc⟩, _, b, rfl, hmore, w, d, rfl, hd⟩
      -- The last character is a quantifier, so that the parenthesis stands before it.
      have hopen : '(' ∈ t := by
        rcases List.mem_append.1 hopen with h | h
        · exact h
        · rw [← List.mem_singleton.1 h] at hc
          cases hc
      obtain ⟨u, v, rfl⟩ := List.append_of_mem hopen
      simp only [List.mem_append, List.mem_cons, not_or] at hbody hmore
      exact ⟨u, v, c, w, d, b, by simp, hbody.1.1, hbody.1.2.2, hc, hmore.1, hd⟩
    · intro ⟨u, v, c, w, d, b, hs, hu, hv, hc, hw, hd⟩
      obtain ⟨rfl, rfl⟩ := List.cons.inj hs
      have hstop : ∀ q, isUnbounded q = true → ')' ≠ q := by
        rintro _ hq rfl
        cases hq
      refine ⟨rfl, u ++ '(' :: (v ++ [c]), w ++ [d] ++ ')' :: b, by simp, ?_,
        ⟨by simp, u ++ '(' :: v, c, by simp, hc⟩, w ++ [d], b, rfl, ?_, w, d, rfl, hd⟩
      · simp [hu, hv, hstop c hc]
      · simp [hw, hstop d hd]

theorem startsIn_adjacentSets {s : List Char} :
    adjacentSets.startsIn s = true ↔ adjacentSets.Begins s := by
  cases s with
  | nil => simp [startsIn, Begins]
  | cons e s =>
    simp only [startsIn, Begins, Bool.and_eq_true, beq_iff_eq, any_upTo_iff,
      Bool.not_eq_true', List.isEmpty_eq_false_iff]
    constructor
    · rintro ⟨rfl, x, rest, rfl, hx, hne, h⟩
      split at h
      · rename_i c more
        simp only [Bool.and_eq_true, any_upTo_iff, Bool.not_eq_true', List.isEmpty_eq_false_iff,
          head_isUnbounded_iff] at h
        obtain ⟨hc, y, _, rfl, hy, hyne, d, b, rfl, hd⟩ := h
        exact ⟨x, c, y, d, b, by simp, hne, hx, hc, hyne, hy, hd⟩
      · cases h
    · intro ⟨x, c, y, d, b, hs, hne, hx, hc, hyne, hy, hd⟩
      obtain ⟨rfl, rfl⟩ := List.cons.inj hs
      refine ⟨rfl, x, c :: '[' :: y ++ ']' :: d :: b, by simp, hx, hne, ?_⟩
      simp only [List.cons_append, Bool.and_eq_true, any_upTo_iff, Bool.not_eq_true',
        List.isEmpty_eq_false_iff, head_isUnbounded_iff]
      exact ⟨hc, y, d :: b, rfl, hy, hyne, d, b, rfl, hd⟩

theorem startsIn_iff {sig : Signature} {s : List Char} :
    sig.startsIn s = true ↔ sig.Begins s := by
  cases sig with
  | nestedQuantifier => exact startsIn_nestedQuantifier
  | repeatedAlternation => exact startsIn_repeatedAlternation
  | countedGroup => exact startsIn_countedGroup
  | deepQuantifier => exact startsIn_deepQuantifier
  | adjacentSets => exact startsIn_adjacentSets

theorem occursIn_iff {sig : Signature} {p : List Char} :
    sig.occursIn p = true ↔ sig.Holds p := by
  simp only [occursIn, anySuffix_eq_true_iff, startsIn_iff, Holds]

end Signature

end PatternGuard.Hazard
