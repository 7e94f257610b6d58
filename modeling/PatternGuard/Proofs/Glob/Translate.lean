import Mathlib
import PatternGuard.Transform

/-! Each rewrite of `translate` is followed on the tokens of the glob: the wildcards are spelled one
way before it and another way after it. -/

namespace PatternGuard.Text

theorem replaceFrom_length (old new xs cs : List Char) :
    replaceFrom old new xs.length (xs ++ cs) = replaceAll old new cs := by
  induction xs with
  | nil => rfl
  | cons x xs ih => exact ih

@[simp] theorem replaceAll_nil (old new : List Char) : replaceAll old new [] = [] := by
  rw [replaceAll, replaceFrom]

theorem replaceAll_occurrence {old : List Char} (hold : old ≠ []) (new cs : List Char) :
    replaceAll old new (old ++ cs) = new ++ replaceAll old new cs := by
  cases old with
  | nil => exact absurd rfl hold
  | cons c old =>
    have hfront : (c :: old).isPrefixOf (c :: (old ++ cs)) = true := by
      rw [List.isPrefixOf_iff_prefix]
      exact List.prefix_append (c :: old) cs
    rw [replaceAll, List.cons_append, replaceFrom, if_pos hfront]
    exact congrArg (new ++ ·) (replaceFrom_length (c :: old) new old cs)

theorem replaceAll_cons {old : List Char} {c : Char} {cs : List Char}
    (h : old.isPrefixOf (c :: cs) = false) (new : List Char) :
    replaceAll old new (c :: cs) = c :: replaceAll old new cs := by
  rw [replaceAll, replaceFrom, if_neg (by simp [h]), replaceAll]

theorem replaceAll_append_of_not_mem {d : Char} {old xs : List Char} (hold : old.head? = some d)
    (h : d ∉ xs) (new cs : List Char) :
    replaceAll old new (xs ++ cs) = xs ++ replaceAll old new cs := by
  induction xs with
  | nil => rfl
  | cons x xs ih =>
    rw [List.mem_cons, not_or] at h
    rw [List.cons_append, replaceAll_cons, ih h.2]
    · rfl
    · cases old with
      | nil => cases hold
      | cons c old =>
        cases hold
        simp [List.isPrefixOf, h.1]

theorem replaceAll_singleton (c : Char) (new cs : List Char) :
    replaceAll [c] new cs = cs.flatMap fun d => if d = c then new else [d] := by
  induction cs with
  | nil => rw [replaceAll_nil, List.flatMap_nil]
  | cons d cs ih =>
    rw [List.flatMap_cons, ← ih]
    split_ifs with h
    · rw [h]
      exact replaceAll_occurrence (by simp) new cs
    · rw [replaceAll_cons]
      · rfl
      · simp [List.isPrefixOf, Ne.symm h]

end PatternGuard.Text

namespace PatternGuard.Glob

open PatternGuard.Text

/-- The text of a token, by what stands for the wildcards. -/
def Token.renderWith (any segment one : List Char) : Token → List Char
  | .anyRun => any
  | .segmentRun => segment
  | .segmentChar => one
  | .char c => if isGlobSpecial c then ['\\', c] else [c]

theorem Token.render_eq_renderWith :
    Token.render = renderWith anyRunText segmentRunText segmentCharText := by
  funext t
  cases t <;> rfl

def Spelled (ts : List Token) : Prop := ∀ c, .char c ∈ ts → c ≠ '*' ∧ c ≠ '?'

theorem Spelled.tail {t : Token} {ts : List Token} (h : Spelled (t :: ts)) : Spelled ts :=
  fun c hc => h c (List.mem_cons_of_mem t hc)

theorem spelled_tokens (g : List Char) : Spelled (tokens g) := by
  intro c h
  fun_induction tokens g with
  | case1 => simp at h
  | case2 cs ih => exact ih (by simpa using h)
  | case3 d cs _ ih =>
    rw [List.mem_cons] at h
    cases h with
    | inl h =>
      split_ifs at h with hstar hmark
      rw [Token.char.inj h]
      exact ⟨by simpa using hstar, by simpa using hmark⟩
    | inr h => exact ih h

theorem tokens_cons {c : Char} {cs : List Char} (h : c = '*' → cs.head? ≠ some '*') :
    tokens (c :: cs) =
      (if c == '*' then .segmentRun else if c == '?' then .segmentChar else .char c) ::
        tokens cs := by
  rw [tokens]
  rintro ds hc rfl
  exact h hc rfl

theorem head_escapeWhere {g : List Char} (h : '*' ∈ (escapeWhere isGlobSpecial g).head?) :
    '*' ∈ g.head? := by
  cases g with
  | nil => exact h
  | cons c g =>
    rw [escapeWhere, List.flatMap_cons] at h
    split_ifs at h with hc
    · cases h
    · exact h

theorem replaceAll_pairs (new g : List Char) :
    replaceAll ['*', '*'] new (escapeWhere isGlobSpecial g) =
      (tokens g).flatMap (Token.renderWith new ['*'] ['?']) := by
  fun_induction tokens g with
  | case1 => rfl
  | case2 cs ih =>
    rw [List.flatMap_cons, ← ih]
    exact replaceAll_occurrence (by simp) new (escapeWhere isGlobSpecial cs)
  | case3 c cs hpair ih =>
    rw [List.flatMap_cons, ← ih, escapeWhere, List.flatMap_cons, ← escapeWhere]
    by_cases hstar : c = '*'
    · have hfront : ['*', '*'].isPrefixOf ('*' :: escapeWhere isGlobSpecial cs) = false := by
        rw [← Bool.not_eq_true, List.isPrefixOf_iff_prefix]
        intro ⟨rest, hrest⟩
        have hhead : '*' ∈ (escapeWhere isGlobSpecial cs).head? := by
          rw [← (List.cons.inj hrest).2]
          rfl
        cases cs with
        | nil => cases hhead
        | cons d cs => exact hpair cs hstar (by rw [Option.some.inj (head_escapeWhere hhead)])
      rw [hstar]
      exact replaceAll_cons hfront new
    · rw [replaceAll_append_of_not_mem rfl]
      · by_cases hmark : c = '?'
        · rw [hmark]; rfl
        · simp [hstar, hmark, Token.renderWith]
      · split_ifs
        · simp [Ne.symm hstar]
        · simp [Ne.symm hstar]

theorem flatMap_renderWith_singleton {ts : List Token} {d : Char} (hd : d ≠ '\\')
    (hchar : ∀ c, .char c ∈ ts → c ≠ d) (new any segment one : List Char) :
    replaceAll [d] new (ts.flatMap (Token.renderWith any segment one)) =
      ts.flatMap (Token.renderWith (replaceAll [d] new any) (replaceAll [d] new segment)
        (replaceAll [d] new one)) := by
  simp only [replaceAll_singleton, List.flatMap_assoc]
  apply List.flatMap_congr
  intro t ht
  cases t with
  | anyRun => rfl
  | segmentRun => rfl
  | segmentChar => rfl
  | char c =>
    rw [Token.renderWith, Token.renderWith]
    split_ifs
    · simp [hchar c ht, Ne.symm hd]
    · simp [hchar c ht]

theorem mark_eq : mark =
    ['\x7b', '\x7b', 'G', 'L', 'O', 'B', 'S', 'T', 'A', 'R', '\x7d', '\x7d'] := by
  decide

theorem mark_isPrefixOf_brace (ts : List Token) :
    mark.isPrefixOf
      ('\x7b' :: ts.flatMap (Token.renderWith mark segmentRunText segmentCharText)) = false := by
  rw [mark_eq]
  cases ts with
  | nil => rfl
  | cons t ts =>
    cases t with
    | anyRun => rfl
    | segmentRun => rfl
    | segmentChar => rfl
    | char c =>
      rw [List.flatMap_cons, Token.renderWith]
      split_ifs with hc
      · rfl
      · have hne : '\x7b' ≠ c := by
          intro h
          rw [← h] at hc
          exact hc rfl
        simp [List.isPrefixOf, hne]

theorem replaceAll_mark (new : List Char) (ts : List Token) :
    replaceAll mark new (ts.flatMap (Token.renderWith mark segmentRunText segmentCharText)) =
      ts.flatMap (Token.renderWith new segmentRunText segmentCharText) := by
  have hhead : mark.head? = some '\x7b' := by rw [mark_eq]; rfl
  have hne : mark ≠ [] := by simp [mark_eq]
  induction ts with
  | nil => exact replaceAll_nil mark new
  | cons t ts ih =>
    have hbrace := mark_isPrefixOf_brace ts
    rw [List.flatMap_cons, List.flatMap_cons, ← ih]
    cases t with
    | anyRun => exact replaceAll_occurrence hne new _
    | segmentRun => exact replaceAll_append_of_not_mem hhead (by decide) new _
    | segmentChar => exact replaceAll_append_of_not_mem hhead (by decide) new _
    | char c =>
      by_cases hc : c = '\x7b'
      · rw [hc]
        change replaceAll mark new (['\\'] ++ '\x7b' :: ts.flatMap _) = _
        rw [replaceAll_append_of_not_mem hhead (by decide), replaceAll_cons hbrace]
        rfl
      · simp only [Token.renderWith]
        rw [replaceAll_append_of_not_mem hhead]
        split_ifs
        · simp [Ne.symm hc]
        · simp [Ne.symm hc]

theorem translate_eq_flatMap_render (g : List Char) :
    translate g = (tokens g).flatMap Token.render := by
  have hstar : ∀ c, .char c ∈ tokens g → c ≠ '*' := fun c hc => (spelled_tokens g c hc).1
  have hmark : ∀ c, .char c ∈ tokens g → c ≠ '?' := fun c hc => (spelled_tokens g c hc).2
  rw [translate, replaceAll_pairs, flatMap_renderWith_singleton (by decide) hstar,
    flatMap_renderWith_singleton (by decide) hmark, Token.render_eq_renderWith, ← replaceAll_mark]
  rfl

def rendered (ts : List Token) : List Char := ts.flatMap Token.render ++ ['\\', 'Z']

theorem rendered_cons (t : Token) (ts : List Token) :
    rendered (t :: ts) = t.render ++ rendered ts := by
  rw [rendered, List.flatMap_cons, List.append_assoc, ← rendered]

theorem toList_toPattern (g : String) :
    (toPattern g).toList = ['^'] ++ rendered (tokens g.toList) := by
  rw [toPattern, String.toList_ofList, anchored, translate_eq_flatMap_render, rendered,
    List.cons_append, List.singleton_append]

end PatternGuard.Glob
