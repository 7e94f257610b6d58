import Mathlib
import PatternGuard.Proofs.Glob.Translate
import PatternGuard.Proofs.Hazard.QuickCheck

namespace PatternGuard.Glob

open PatternGuard.Text PatternGuard.Hazard

theorem head_after_segmentRun {g : List Char} {ts ts' : List Token}
    (h : tokens g = ts ++ .segmentRun :: ts') :
    .anyRun ∉ ts'.head? ∧ .segmentRun ∉ ts'.head? := by
  -- Stars that come together are paired, so none follows a single one.
  fun_induction tokens g generalizing ts with
  | case1 => simp at h
  | case2 cs ih =>
    cases ts with
    | nil => cases h
    | cons t ts => exact ih (List.cons.inj h).2
  | case3 c cs hpair ih =>
    cases ts with
    | nil =>
      obtain ⟨hc, rfl⟩ := List.cons.inj h
      have hstar : c = '*' := by
        split_ifs at hc with hstar
        simpa using hstar
      cases cs with
      | nil => simp [tokens]
      | cons d cs =>
        have hd : d ≠ '*' := by
          intro hd
          exact hpair cs hstar (by rw [hd])
        rw [tokens_cons fun hd' => absurd hd' hd]
        simp only [List.head?_cons, Option.mem_def, Option.some.injEq, beq_iff_eq, hd, if_false]
        split_ifs <;> simp
    | cons t ts => exact ih (List.cons.inj h).2

theorem head_rendered {ts : List Token} (hts : Spelled ts) {c : Char} {v : List Char}
    (h : rendered ts = c :: v) : isUnbounded c = false := by
  cases ts with
  | nil =>
    cases h
    rfl
  | cons t ts =>
    rw [rendered_cons] at h
    cases t with
    | anyRun => cases h; rfl
    | segmentRun => cases h; rfl
    | segmentChar => cases h; rfl
    | char d =>
      rw [Token.render] at h
      split_ifs at h with hd
      · cases h; rfl
      · cases h
        have hstar := (hts c (by simp)).1
        have hplus : c ≠ '+' := by rintro rfl; exact hd rfl
        simp [isUnbounded, hstar, hplus]

theorem Token.render_eq_of_bracket {t : Token} {u m : List Char} (h : t.render = u ++ ']' :: m) :
    m = [] ∨ t = .segmentRun ∧ m = ['*'] := by
  cases t with
  | anyRun => simp [render, anyRunText, List.cons_eq_append_iff] at h
  | segmentRun =>
    have h : u = ['[', '^', '/'] ∧ m = ['*'] := by
      simpa [render, segmentRunText, List.cons_eq_append_iff] using h
    exact .inr ⟨rfl, h.2⟩
  | segmentChar =>
    have h : u = ['[', '^', '/'] ∧ m = [] := by
      simpa [render, segmentCharText, List.cons_eq_append_iff] using h
    exact .inl h.2
  | char c =>
    rw [render] at h
    split_ifs at h with hc
    · have h : u = ['\\'] ∧ ']' = c ∧ m = [] := by
        simpa [List.cons_eq_append_iff] using h
      exact .inl h.2.2
    · have h : u = [] ∧ ']' = c ∧ m = [] := by
        simpa [List.cons_eq_append_iff] using h
      exact .inl h.2.2

theorem split_after_set {ts : List Token} (hts : Spelled ts) {u v : List Char} {c : Char}
    (hc : isUnbounded c = true) (h : rendered ts = u ++ ']' :: c :: v) :
    ∃ ts₁ ts₂, ts = ts₁ ++ .segmentRun :: ts₂ ∧ v = rendered ts₂ := by
  induction ts generalizing u with
  | nil => simp [rendered, List.cons_eq_append_iff] at h
  | cons t ts ih =>
    rw [rendered_cons] at h
    rcases append_eq_append_cons h with ⟨m, hm, hv⟩ | ⟨m, -, hm⟩
    · rcases Token.render_eq_of_bracket hm with rfl | ⟨rfl, rfl⟩
      · rw [head_rendered hts.tail hv.symm] at hc
        cases hc
      · exact ⟨[], ts, rfl, (List.cons.inj hv).2⟩
    · obtain ⟨ts₁, ts₂, rfl, hv⟩ := ih hts.tail hm
      exact ⟨t :: ts₁, ts₂, rfl, hv⟩

theorem not_adjacentSets_rendered {ts : List Token} (hts : Spelled ts)
    (hrun : .anyRun ∉ ts.head? ∧ .segmentRun ∉ ts.head?) {y b : List Char} {d : Char}
    (hy : ']' ∉ y) (hd : isUnbounded d = true) : rendered ts ≠ '[' :: y ++ ']' :: d :: b := by
  intro h
  cases ts with
  | nil => cases h
  | cons t ts =>
    rw [rendered_cons] at h
    cases t with
    | anyRun => exact hrun.1 rfl
    | segmentRun => exact hrun.2 rfl
    | segmentChar =>
      rcases append_eq_append_cons h with ⟨m, hm, hv⟩ | ⟨m, hm, -⟩
      · rcases Token.render_eq_of_bracket hm with rfl | ⟨ht, -⟩
        · rw [head_rendered hts.tail hv.symm] at hd
          cases hd
        · cases ht
      · obtain ⟨-, rfl⟩ := List.cons.inj hm
        exact hy (by simp)
    | char c =>
      rw [Token.render] at h
      split_ifs at h with hc
      · cases h
      · obtain ⟨rfl, -⟩ := List.cons.inj h
        exact hc rfl

theorem not_holds_adjacentSets (g : List Char) :
    ¬ Signature.adjacentSets.Holds (['^'] ++ rendered (tokens g)) := by
  intro ⟨a, s, hp, x, c, y, d, b, hs, _, _, hc, _, hy, hd⟩
  have hts : Spelled (tokens g) := spelled_tokens g
  have hp : ['^'] ++ rendered (tokens g) =
      (a ++ '[' :: x) ++ ']' :: c :: ('[' :: y ++ ']' :: d :: b) := by
    rw [hp, hs]
    simp
  rcases append_eq_append_cons hp with ⟨m, hm, -⟩ | ⟨m, -, hm⟩
  · simp [List.cons_eq_append_iff] at hm
  · obtain ⟨ts₁, ts₂, hsplit, hrest⟩ := split_after_set hts hc hm
    have hts₂ : Spelled ts₂ := fun e he => hts e (by simp [hsplit, he])
    exact not_adjacentSets_rendered hts₂ (head_after_segmentRun hsplit) hy hd hrest.symm

theorem follows_rendered {before : List Char} {kind : Char → Prop} (g : List Char)
    (hkind : ∀ c, kind c → c ∈ ['+', '*', '\x7b', '(', ')']) (hescape : '\\' ∈ before)
    (hrun : kind '*' → '.' ∈ before ∧ ']' ∈ before) :
    Follows before kind (['^'] ++ rendered (tokens g)) := by
  have hnot : ∀ {c}, c ∉ ['+', '*', '\x7b', '(', ')'] → ¬ kind c := fun hc hk => hc (hkind _ hk)
  refine .append (.of_absent ?_) (.append (.flatMap fun t ht => ?_) (.of_absent ?_))
  · simp (disch := decide) [hnot]
  · cases t with
    | anyRun => exact .pair (hnot (by decide)) fun h => (hrun h).1
    | segmentRun =>
      refine .append (u := ['[', '^', '/']) (.of_absent ?_)
        (.pair (hnot (by decide)) fun h => (hrun h).2)
      simp (disch := decide) [hnot]
    | segmentChar =>
      apply Follows.of_absent
      simp (disch := decide) [Token.render, segmentCharText, hnot]
    | char c =>
      rw [Token.render]
      split_ifs with hc
      · exact .pair (hnot (by decide)) fun _ => hescape
      · have hspecial : ∀ d ∈ ['+', '*', '\x7b', '(', ')'], d = '*' ∨ isGlobSpecial d = true := by
          simp [isGlobSpecial]
        apply Follows.of_absent
        intro d hd hk
        rw [List.mem_singleton.1 hd] at hk
        cases hspecial c (hkind c hk) with
        | inl hstar => exact (spelled_tokens g c ht).1 hstar
        | inr h => exact hc h
  · simp (disch := decide) [hnot]

theorem nesting_toPattern (g : String) : Hazard.nesting (toPattern g).toList = 0 := by
  rw [toList_toPattern]
  apply nesting_of_escaped
  exact follows_rendered g.toList (by simp) (by simp) (by simp)

theorem analyze_toPattern (g : String) : Hazard.analyze (toPattern g).toList = .clear := by
  have hquantifier :
      Follows ['\\', '.', ']'] (· ∈ repetitions) (['^'] ++ rendered (tokens g.toList)) :=
    follows_rendered g.toList (by simp [repetitions]) (by simp) (by simp)
  rw [toList_toPattern]
  apply analyze_of_follows _ _ hquantifier (by decide) (not_holds_adjacentSets g.toList)
  · exact follows_rendered g.toList (by simp) (by simp) (by simp)
  · exact follows_rendered g.toList (by simp) (by simp) (by simp)

end PatternGuard.Glob
