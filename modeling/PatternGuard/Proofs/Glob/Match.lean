import Mathlib
import PatternGuard.Proofs.Glob.Reading
import PatternGuard.Proofs.Regex.Search

namespace PatternGuard.Glob

open PatternGuard.Regex (Node SameLetter)

def Token.Takes : Token → List Char → Prop
  | .anyRun, w => '\n' ∉ w
  | .segmentRun, w => '/' ∉ w
  | .segmentChar, w => ∃ x, w = [x] ∧ x ≠ '/'
  | .char c, w => ∃ x, w = [x] ∧ SameLetter c x

/-- The tokens take all of a text, piece by piece. -/
inductive Matches : List Token → List Char → Prop
  | nil : Matches [] []
  | cons {t : Token} {ts : List Token} {w s : List Char} :
      t.Takes w → Matches ts s → Matches (t :: ts) (w ++ s)

theorem matches_iff_exists_pieces {ts : List Token} {s : List Char} :
    Matches ts s ↔ ∃ ws, List.Forall₂ Token.Takes ts ws ∧ s = ws.flatten := by
  constructor
  · intro h
    induction h with
    | nil => exact ⟨[], .nil, rfl⟩
    | cons hw _ ih =>
      obtain ⟨ws, hws, rfl⟩ := ih
      exact ⟨_ :: ws, .cons hw hws, rfl⟩
  · intro ⟨ws, hws, hs⟩
    rw [hs]
    clear hs
    induction hws with
    | nil => exact .nil
    | cons hw _ ih => exact .cons hw ih

theorem Matches.exists_takes_newline {ts : List Token} {s : List Char}
    (h : Matches ts (s ++ ['\n'])) : ∃ t ∈ ts, ∃ w, t.Takes (w ++ ['\n']) := by
  obtain ⟨ws, hws, hs⟩ := matches_iff_exists_pieces.1 h
  clear h
  induction hws generalizing s with
  | nil => simp at hs
  | @cons t w ts ws hw _ ih =>
    rw [List.flatten_cons] at hs
    cases List.eq_nil_or_concat ws.flatten with
    | inl hnil =>
      rw [hnil, List.append_nil] at hs
      exact ⟨t, by simp, s, hs ▸ hw⟩
    | inr hlast =>
      obtain ⟨v, x, hv⟩ := hlast
      rw [List.concat_eq_append] at hv
      rw [hv, ← List.append_assoc] at hs
      have hx : '\n' = x := List.singleton_inj.1 (List.append_inj_right' hs rfl)
      obtain ⟨t', ht', w', hw'⟩ := ih (hv.trans (by rw [hx])).symm
      exact ⟨t', List.mem_cons_of_mem t ht', w', hw'⟩

theorem takes_any (x : Char) : Node.any.takes .caseless x.toNat = true ↔ x ≠ '\n' := by
  have hnewline : x.toNat = 0x0a ↔ x = '\n' := @Char.toNat_inj x '\n'
  simp [Node.takes, Regex.Mode.caseless, hnewline]

theorem takes_notSlash (x : Char) :
    (Node.notLiteral 0x2f).takes .caseless x.toNat = true ↔ x ≠ '/' := by
  have hslash : x.toNat = 0x2f ↔ x = '/' := @Char.toNat_inj x '/'
  have hcased : Regex.Folding.unicode.isCased 0x2f = false := by decide
  have hliteral : Regex.Mode.isLiteral .caseless 0x2f x.toNat = (x.toNat == 0x2f) := by
    change Regex.Folding.unicode.same 0x2f x.toNat = _
    rw [Regex.Folding.same, hcased]
    rfl
  simp [Node.takes, hliteral, hslash]

theorem forall_mem_ne_iff {c : Char} {w : List Char} : (∀ x ∈ w, x ≠ c) ↔ c ∉ w := by
  simp [List.forall_mem_ne']

theorem Token.spans_node_iff {s : Regex.Subject} {i j : Nat} (t : Token) :
    t.node.Spans s .caseless i j ↔
      ∃ w, t.Takes w ∧ s.toList.drop i = w ++ s.toList.drop j ∧ j = i + w.length := by
  cases t with
  | anyRun =>
    rw [node, Node.row_spans_iff_exists_piece]
    simp only [takes_any, Takes, forall_mem_ne_iff]
  | segmentRun =>
    rw [node, Node.row_spans_iff_exists_piece]
    simp only [takes_notSlash, Takes, forall_mem_ne_iff]
  | segmentChar =>
    rw [node, (Node.IsChar.notLiteral 0x2f).spans_iff_exists_piece]
    simp only [takes_notSlash, Takes]
  | char c =>
    rw [node, (Node.IsChar.literal c.toNat).spans_iff_exists_piece]
    simp only [Regex.takes_literal, Takes]

theorem nodes_spans_iff {s : Regex.Subject} {ts : List Token} {i j : Nat} :
    (Node.ofList (nodes ts)).Spans s .caseless i j ↔
      i = 0 ∧ j = s.size ∧ (Node.ofList (ts.map Token.node)).Spans s .caseless 0 j := by
  rw [nodes, Node.spans_ofList_append]
  constructor
  · rintro ⟨l, ⟨k, ⟨hstart, hk⟩, hl⟩, m, ⟨hend, hm⟩, hj⟩
    have hi : i = 0 := by simpa [Regex.Anchor.holds, Regex.Mode.caseless] using hstart
    have hsize : l = s.size := by simpa [Regex.Anchor.holds] using hend
    have hjl : j = l := hj.trans hm
    rw [hk, hi] at hl
    exact ⟨hi, hjl.trans hsize, hjl ▸ hl⟩
  · rintro ⟨hi, hj, h⟩
    refine ⟨j, ⟨0, ⟨?_, hi.symm⟩, h⟩, j, ⟨?_, rfl⟩, rfl⟩
    · simp [Regex.Anchor.holds, hi]
    · simp [Regex.Anchor.holds, hj]

theorem nodes_spans_iff_matches {s : Regex.Subject} {ts : List Token} :
    (∃ i ≤ s.toList.length, ∃ j, (Node.ofList (nodes ts)).Spans s .caseless i j) ↔
      Matches ts s.toList := by
  have hspans := @Node.spans_ofList_iff s .caseless Token Token.node Token.Takes ts
    (fun t _ i j => t.spans_node_iff) 0 s.size
  have hend : s.toList.drop s.size = [] := List.drop_length
  rw [hend] at hspans
  simp only [nodes_spans_iff, matches_iff_exists_pieces]
  constructor
  · intro ⟨i, _, j, _, hj, h⟩
    rw [hj] at h
    obtain ⟨ws, hws, hdrop, -⟩ := hspans.1 h
    exact ⟨ws, hws, by simpa using hdrop⟩
  · intro ⟨ws, hws, hs⟩
    refine ⟨0, Nat.zero_le _, s.size, rfl, rfl, hspans.2 ⟨ws, hws, ?_, ?_⟩⟩
    · simpa using hs
    · simp [← hs]

variable {u v : List Char} {ts ts' : List Token} {s : List Char}

theorem tokens_append (hu : u.getLast? ≠ some '*') (v : List Char) :
    tokens (u ++ v) = tokens u ++ tokens v := by
  fun_induction tokens u with
  | case1 => rfl
  | case2 cs ih =>
    have hlast : cs.getLast? ≠ some '*' := by
      intro h
      apply hu
      rw [List.getLast?_cons, List.getLast?_cons, h]
      rfl
    exact congrArg (Token.anyRun :: ·) (ih hlast)
  | case3 c cs hpair ih =>
    have hlast : cs.getLast? ≠ some '*' := by
      intro h
      apply hu
      rw [List.getLast?_cons, h]
      rfl
    have hnext : c = '*' → (cs ++ v).head? ≠ some '*' := by
      rintro rfl h
      cases cs with
      | nil => exact hu rfl
      | cons d cs => exact hpair cs rfl (by rw [Option.some.inj h])
    rw [List.cons_append, tokens_cons hnext, ih hlast, List.cons_append]

theorem tokens_star (hv : v.head? ≠ some '*') : tokens ('*' :: v) = .segmentRun :: tokens v :=
  tokens_cons fun _ => hv

theorem matches_append_iff :
    Matches (ts ++ ts') s ↔ ∃ a b, s = a ++ b ∧ Matches ts a ∧ Matches ts' b := by
  constructor
  · intro h
    induction ts generalizing s with
    | nil => exact ⟨[], s, rfl, .nil, h⟩
    | cons t ts ih =>
      cases h with
      | cons hw h =>
        obtain ⟨a, b, rfl, ha, hb⟩ := ih h
        exact ⟨_ ++ a, b, (List.append_assoc ..).symm, .cons hw ha, hb⟩
  · rintro ⟨a, b, rfl, ha, hb⟩
    induction ha with
    | nil => exact hb
    | cons hw _ ih =>
      rw [List.append_assoc]
      exact .cons hw ih

theorem matches_cons_iff {t : Token} :
    Matches (t :: ts) s ↔ ∃ w b, s = w ++ b ∧ t.Takes w ∧ Matches ts b := by
  constructor
  · intro h
    cases h with
    | cons hw h => exact ⟨_, _, rfl, hw, h⟩
  · rintro ⟨w, b, rfl, hw, h⟩
    exact .cons hw h

/-- A run without one character, between two texts that globs match. -/
def RunBetween (u v : List Char) (lacked : Char) (s : List Char) : Prop :=
  ∃ a w b, s = a ++ (w ++ b) ∧ Matches (tokens u) a ∧ lacked ∉ w ∧ Matches (tokens v) b

theorem matches_between_iff {t : Token} :
    Matches (tokens u ++ t :: tokens v) s ↔
      ∃ a w b, s = a ++ (w ++ b) ∧ Matches (tokens u) a ∧ t.Takes w ∧ Matches (tokens v) b := by
  simp only [matches_append_iff, matches_cons_iff]
  constructor
  · rintro ⟨a, _, rfl, ha, w, b, rfl, hw, hb⟩
    exact ⟨a, w, b, rfl, ha, hw, hb⟩
  · rintro ⟨a, w, b, rfl, ha, hw, hb⟩
    exact ⟨a, w ++ b, rfl, ha, w, b, rfl, hw, hb⟩

theorem matches_star_iff (hu : u.getLast? ≠ some '*') (hv : v.head? ≠ some '*') :
    Matches (tokens (u ++ ['*'] ++ v)) s ↔ RunBetween u v '/' s := by
  rw [List.append_assoc, tokens_append hu, List.singleton_append, tokens_star hv]
  exact matches_between_iff

theorem matches_stars_iff (hu : u.getLast? ≠ some '*') :
    Matches (tokens (u ++ ['*', '*'] ++ v)) s ↔ RunBetween u v '\n' s := by
  rw [List.append_assoc, tokens_append hu]
  exact matches_between_iff

end PatternGuard.Glob
