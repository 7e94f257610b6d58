import Mathlib
import PatternGuard.Proofs.Glob.Clear
import PatternGuard.Proofs.Glob.Reading
import PatternGuard.Proofs.Text.Unescape

namespace PatternGuard.Glob

open PatternGuard.Text

/-- The translation in one pass from the left, where a star takes the star behind it along. -/
def onePass : List Char → List Char
  | [] => []
  | '*' :: '*' :: cs => '.' :: '*' :: onePass cs
  | '*' :: cs => '[' :: '^' :: '/' :: ']' :: '*' :: onePass cs
  | '?' :: cs => '[' :: '^' :: '/' :: ']' :: onePass cs
  | c :: cs => if c ∈ metacharacters then '\\' :: c :: onePass cs else c :: onePass cs

def restore : List Char → List Char
  | [] => []
  | ['\\', 'Z'] => []
  | '.' :: '*' :: cs => '*' :: '*' :: restore cs
  | '[' :: '^' :: '/' :: ']' :: '*' :: cs => '*' :: restore cs
  | '[' :: '^' :: '/' :: ']' :: cs => '?' :: restore cs
  | '\\' :: c :: cs => c :: restore cs
  | c :: cs => c :: restore cs

def ofPattern (pattern : String) : String := String.ofList (restore pattern.toList.tail)

def Token.spelling : Token → List Char
  | .anyRun => ['*', '*']
  | .segmentRun => ['*']
  | .segmentChar => ['?']
  | .char c => [c]

theorem isGlobSpecial_iff {c : Char} (h : c ≠ '*' ∧ c ≠ '?') :
    isGlobSpecial c = true ↔ c ∈ metacharacters := by
  rw [← isSpecial_iff, isSpecial_eq_isGlobSpecial h]

theorem flatMap_spelling_tokens (g : List Char) : (tokens g).flatMap Token.spelling = g := by
  fun_induction tokens g with
  | case1 => rfl
  | case2 cs ih => rw [List.flatMap_cons, ih]; rfl
  | case3 c cs _ ih =>
    rw [List.flatMap_cons, ih]
    split_ifs with hstar hmark
    · rw [beq_iff_eq.1 hstar]; rfl
    · rw [beq_iff_eq.1 hmark]; rfl
    · rfl

theorem tokens_cons_char {c : Char} (h : c ≠ '*' ∧ c ≠ '?') (cs : List Char) :
    tokens (c :: cs) = .char c :: tokens cs := by
  rw [tokens_cons fun hstar => absurd hstar h.1]
  simp [h.1, h.2]

theorem onePass_eq_flatMap_render (g : List Char) :
    onePass g = (tokens g).flatMap Token.render := by
  fun_induction onePass g with
  | case1 => rfl
  | case2 cs ih => rw [ih]; rfl
  | case3 cs hpair ih =>
    have hnext : cs.head? ≠ some '*' := by
      intro h
      obtain ⟨ds, hds⟩ := List.head?_eq_some_iff.1 h
      exact hpair ds hds
    rw [ih, tokens_cons fun _ => hnext]
    rfl
  | case4 cs ih =>
    rw [ih, tokens_cons fun h => absurd h (by decide : '?' ≠ '*')]
    rfl
  | case5 c cs _ hstar hmark hc ih =>
    have hspecial : isGlobSpecial c = true := (isGlobSpecial_iff ⟨hstar, hmark⟩).2 hc
    rw [ih, tokens_cons_char ⟨hstar, hmark⟩, List.flatMap_cons, Token.render, if_pos hspecial]
    rfl
  | case6 c cs _ hstar hmark hc ih =>
    have hplain : isGlobSpecial c ≠ true := mt (isGlobSpecial_iff ⟨hstar, hmark⟩).1 hc
    rw [ih, tokens_cons_char ⟨hstar, hmark⟩, List.flatMap_cons, Token.render, if_neg hplain]
    rfl

theorem restore_escaped {c : Char} (hc : isGlobSpecial c = true) (cs : List Char) :
    restore ('\\' :: c :: cs) = c :: restore cs := by
  rw [restore]
  rintro rfl
  exact absurd hc (by decide)

theorem restore_plain {c : Char} (hc : ¬ isGlobSpecial c = true) (cs : List Char) :
    restore (c :: cs) = c :: restore cs := by
  have hne : ∀ d, isGlobSpecial d = true → c ≠ d := fun d hd h => hc (h ▸ hd)
  rw [restore]
  · exact fun h => absurd h (hne '\\' rfl)
  · exact fun _ h => absurd h (hne '.' rfl)
  · exact fun _ h => absurd h (hne '[' rfl)
  · exact fun _ h => absurd h (hne '[' rfl)
  · exact fun _ _ h => absurd h (hne '\\' rfl)

theorem restore_rendered {ts : List Token} (hts : Spelled ts) :
    restore (rendered ts) = ts.flatMap Token.spelling := by
  induction ts with
  | nil => rfl
  | cons t ts ih =>
    rw [rendered_cons, List.flatMap_cons, ← ih hts.tail]
    cases t with
    | anyRun => rfl
    | segmentRun => rfl
    | segmentChar =>
      change restore ('[' :: '^' :: '/' :: ']' :: rendered ts) = _
      rw [restore]
      · rfl
      -- A set with a star behind it would be read as a run.
      · intro cs hstar
        have hhead := head_rendered hts.tail hstar
        cases hhead
    | char c =>
      rw [Token.render]
      split_ifs with hc
      · exact restore_escaped hc (rendered ts)
      · exact restore_plain hc (rendered ts)

theorem ofPattern_toPattern (g : String) : ofPattern (toPattern g) = g := by
  rw [ofPattern, toList_toPattern, List.singleton_append, List.tail_cons,
    restore_rendered (spelled_tokens g.toList), flatMap_spelling_tokens, String.ofList_toList]

/-- The chain of rewrites is one pass over the glob, also where the glob spells the mark or has
three stars in a row, and the glob can be read back from the pattern. -/
theorem toPattern_eq_onePass_and_reads_back :
    (∀ g : String, (toPattern g).toList = ['^'] ++ onePass g.toList ++ ['\\', 'Z']) ∧
    Function.LeftInverse ofPattern toPattern ∧
    Function.Injective toPattern := by
  refine ⟨fun g => ?_, ofPattern_toPattern, Function.LeftInverse.injective ofPattern_toPattern⟩
  rw [toList_toPattern, onePass_eq_flatMap_render, rendered, List.append_assoc]

example : toPattern "\x7b\x7bGLOBSTAR\x7d\x7d***" =
    "^\\\x7b\\\x7bGLOBSTAR\\\x7d\\\x7d.*[^/]*\\Z" := by decide

end PatternGuard.Glob
