import Mathlib
import PatternGuard.Proofs.Regex.Reading
import PatternGuard.Proofs.Regex.Run

namespace PatternGuard.Regex

namespace Node

variable {s : Subject} {m : Mode} {n : Node}

theorem IsChar.width_eq (hn : n.IsChar) : n.width = .one := by
  cases hn <;> rfl

theorem Plain.spans_width (hn : n.Plain) {i j : Nat} (hi : i ≤ s.size) (hs : n.Spans s m i j) :
    i + n.width.least ≤ j ∧ j ≤ s.size := by
  induction hn generalizing i j with
  | empty =>
    rw [show j = i from hs]
    exact ⟨le_refl i, hi⟩
  | seq _ _ iha ihb =>
    obtain ⟨l, hl, hj⟩ := hs
    obtain ⟨hil, hl⟩ := iha hi hl
    obtain ⟨hlj, hj⟩ := ihb hl hj
    refine ⟨?_, hj⟩
    simp only [width, Width.cut, Width.add]
    omega
  | char hc =>
    obtain ⟨hrow, rfl⟩ := hc.spans_iff.1 hs
    have := hrow.le_left
    rw [hc.width_eq]
    exact ⟨le_refl _, by omega⟩
  | anchor a =>
    rw [hs.2]
    exact ⟨le_refl i, hi⟩
  | row least most hc =>
    obtain ⟨count, hleast, -, hrow, rfl⟩ := hs
    have := hrow.le_left
    have hone : min (1 + 0) (4294967295 - 1) = 1 := rfl
    simp only [width, hc.width_eq, Width.cut, Width.add, Width.zero, Width.one, Width.limit]
    cases most with
    | none => simp only [Width.times, hone, one_mul]; omega
    | some most => simp only [Width.times, hone, one_mul]; omega

theorem Plain.leadingSet_eq_none (hn : n.Plain) : n.leadingSet? m = none := by
  induction hn with
  | empty => rfl
  | seq _ _ iha _ => exact iha
  | char hc => cases hc <;> rfl
  | anchor a => rfl
  | row least most hc => rfl

theorem Plain.spans_of_leadingLiteral_none (hn : n.Plain) (h : n.leadingLiteral? m = none)
    {i j : Nat} (hs : n.Spans s m i j) : j = i := by
  induction hn generalizing i j with
  | empty => exact hs
  | @seq a b _ _ iha ihb =>
    obtain ⟨l, hl, hj⟩ := hs
    rw [leadingLiteral?] at h
    cases ha : a.leadingLiteral? m with
    | some lead => rw [ha] at h; cases h
    | none =>
      rw [ha] at h
      rw [ihb h hj, iha ha hl]
  | char hc => cases hc <;> cases h
  | anchor a => cases h
  | row least most hc => cases h

theorem Plain.spans_of_leadingLiteral_some (hn : n.Plain) {c : Nat}
    (h : n.leadingLiteral? m = some (some c)) {i j : Nat} (hs : n.Spans s m i j) :
    Row.All s (· == c) i 1 := by
  induction hn generalizing i j with
  | empty => cases h
  | @seq a b ha _ iha ihb =>
    obtain ⟨l, hl, hj⟩ := hs
    rw [leadingLiteral?] at h
    cases hlead : a.leadingLiteral? m with
    | some lead =>
      rw [hlead] at h
      exact iha (hlead.trans h) hl
    | none =>
      rw [hlead] at h
      rw [← ha.spans_of_leadingLiteral_none hlead hl]
      exact ihb h hj
  | char hc =>
    cases hc with
    | literal d =>
      rw [leadingLiteral?] at h
      split_ifs at h with he
      · cases h
        obtain ⟨x, hx, hxd⟩ := Row.all_one.1 hs.1
        exact Row.all_one.2 ⟨x, hx, by simpa using eq_of_isExact he hxd⟩
      · cases h
    | notLiteral d => cases h
    | any => cases h
  | anchor a => cases h
  | row least most hc => cases h

theorem Plain.spans_of_leadingTest (hn : n.Plain) {test : Nat → Bool}
    (h : n.leadingTest? m = some test) {i j : Nat} (hs : n.Spans s m i j) :
    Row.All s test i 1 := by
  rw [leadingTest?, hn.leadingSet_eq_none] at h
  split at h
  · rename_i c hc
    cases h
    exact hn.spans_of_leadingLiteral_some hc hs
  · cases h

theorem le_of_mem_starts {i : Nat} (h : i ∈ n.starts m s) : i ≤ s.size := by
  rw [starts] at h
  split_ifs at h with hroom hleast
  · cases h
  · have := List.mem_range.1 h
    omega
  · simp only [beq_iff_eq] at hleast
    split at h
    · have := List.mem_range.1 (List.mem_filter.1 h).1
      omega
    · have := List.mem_range.1 h
      omega

theorem Plain.mem_starts (hn : n.Plain) {i j : Nat} (hi : i ≤ s.size) (hs : n.Spans s m i j) :
    i ∈ n.starts m s := by
  obtain ⟨hij, hj⟩ := hn.spans_width hi hs
  rw [starts]
  split_ifs with hroom hleast
  · omega
  · exact List.mem_range.2 (by omega)
  · simp only [beq_iff_eq] at hleast
    split
    · rename_i test htest
      obtain ⟨x, hx, hxt⟩ := Row.all_one.1 (hn.spans_of_leadingTest htest hs)
      refine List.mem_filter.2 ⟨List.mem_range.2 (by omega), ?_⟩
      rw [hx]
      exact hxt
    · exact List.mem_range.2 (by omega)

end Node

namespace Pattern

variable {p : Pattern}

theorem matchAt_isSome (hp : p.node.Plain) (s : Subject) (i : Nat) :
    (p.matchAt s i).isSome = true ↔ ∃ j, p.node.Spans s p.mode i j := by
  change (p.node.run s ⟨p.mode, false, none⟩ i (.start i) .stop).Succeeds ↔ _
  rw [hp.run_succeeds Continuation.stop_decides]
  · simp
  · intro c hc
    cases hc

theorem search_iff_spans (hp : p.node.Plain) (hg : p.groups = 0) (text : String) :
    ∃ found, p.search text = .ok found ∧
      (found = true ↔
        ∃ i ≤ text.toList.length, ∃ j, p.node.Spans text.toList.toArray p.mode i j) := by
  have hfind : (p.find? text).isSome = true ↔
      ∃ i ≤ text.toList.length, ∃ j, p.node.Spans text.toList.toArray p.mode i j := by
    simp only [find?, List.findSome?_isSome_iff, matchAt_isSome hp]
    constructor
    · intro ⟨i, hi, j, hj⟩
      exact ⟨i, by simpa using Node.le_of_mem_starts hi, j, hj⟩
    · intro ⟨i, hi, j, hj⟩
      exact ⟨i, hp.mem_starts (by simpa using hi) hj, j, hj⟩
  cases h : p.find? text with
  | none =>
    rw [h] at hfind
    exact ⟨false, by simp [search, h], hfind⟩
  | some t =>
    rw [h] at hfind
    exact ⟨true, by simp [search, h, hg], hfind⟩

end Pattern

/-- Equal up to case, under `IGNORECASE`. -/
def SameLetter (c x : Char) : Prop := Folding.unicode.same c.toNat x.toNat = true

instance (c x : Char) : Decidable (SameLetter c x) := inferInstanceAs (Decidable (_ = true))

theorem SameLetter.refl (c : Char) : SameLetter c c := by
  rw [SameLetter, Folding.same]
  split_ifs with h
  · simp [Folding.matchesLower]
  · simp

theorem takes_literal (c x : Char) :
    (Node.literal c.toNat).takes .caseless x.toNat = true ↔ SameLetter c x := by
  rfl

theorem Pattern.search_caseless {source : String} {ns : List Node} (hns : ∀ n ∈ ns, n.Plain)
    (text : String) :
    ∃ found, Pattern.search ⟨source, .ignoringUnicodeCase, 0, [], .ofList ns⟩ text = .ok found ∧
      (found = true ↔ ∃ i ≤ text.toList.length, ∃ j,
        (Node.ofList ns).Spans text.toList.toArray .caseless i j) := by
  rw [← Mode.ofFlags_ignoringUnicodeCase]
  exact Pattern.search_iff_spans (Node.Plain.ofList hns) rfl text

namespace Node

theorem spans_anywhere_iff {s : Subject} {m : Mode} {n : Node} {takes : List Char → Prop}
    (h : ∀ i j, n.Spans s m i j ↔
      ∃ w, takes w ∧ s.toList.drop i = w ++ s.toList.drop j ∧ j = i + w.length) :
    (∃ i ≤ s.toList.length, ∃ j, n.Spans s m i j) ↔ ∃ a w b, s.toList = a ++ w ++ b ∧ takes w := by
  constructor
  · intro ⟨i, _, j, hj⟩
    obtain ⟨w, hw, hdrop, -⟩ := (h i j).1 hj
    refine ⟨s.toList.take i, w, s.toList.drop j, ?_, hw⟩
    rw [List.append_assoc, ← hdrop, List.take_append_drop]
  · intro ⟨a, w, b, hs, hw⟩
    refine ⟨a.length, by simp [hs], a.length + w.length, (h _ _).2 ⟨w, hw, ?_, rfl⟩⟩
    simp [hs, List.append_assoc]

end Node

theorem forall₂_singletons_iff {α : Type} {r : α → Char → Prop} {us : List α} {w : List Char} :
    (∃ ws, List.Forall₂ (fun u v => ∃ x, v = [x] ∧ r u x) us ws ∧ w = ws.flatten) ↔
      List.Forall₂ r us w := by
  induction us generalizing w with
  | nil =>
    constructor
    · intro ⟨ws, hws, hw⟩
      cases hws
      rw [hw]
      exact .nil
    · intro h
      cases h
      exact ⟨[], .nil, rfl⟩
  | cons u us ih =>
    constructor
    · intro ⟨ws, hws, hw⟩
      cases hws with
      | cons hu hws =>
        obtain ⟨x, rfl, hx⟩ := hu
        rw [hw, List.flatten_cons, List.singleton_append]
        exact .cons hx (ih.1 ⟨_, hws, rfl⟩)
    · intro h
      cases h with
      | cons hx h =>
        obtain ⟨ws, hws, rfl⟩ := ih.2 h
        exact ⟨_ :: ws, .cons ⟨_, rfl, hx⟩ hws, rfl⟩

theorem Node.literals_spans_iff {s : Subject} {cs : List Char} {i j : Nat} :
    (ofList (cs.map (Node.literal ·.toNat))).Spans s .caseless i j ↔
      ∃ w, List.Forall₂ SameLetter cs w ∧ s.toList.drop i = w ++ s.toList.drop j ∧
        j = i + w.length := by
  rw [spans_ofList_iff fun c _ i j => (IsChar.literal (Char.toNat c)).spans_iff_exists_piece]
  simp only [takes_literal, ← forall₂_singletons_iff]
  constructor
  · intro ⟨ws, hws, hdrop, hj⟩
    exact ⟨ws.flatten, ⟨ws, hws, rfl⟩, hdrop, hj⟩
  · intro ⟨w, ⟨ws, hws, hw⟩, hdrop, hj⟩
    subst hw
    exact ⟨ws, hws, hdrop, hj⟩

end PatternGuard.Regex
