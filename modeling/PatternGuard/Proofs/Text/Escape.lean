import Mathlib
import PatternGuard.Proofs.Hazard.QuickCheck
import PatternGuard.Proofs.Regex.Reading

namespace PatternGuard.Text

theorem length_escapeWhere (special : Char → Bool) (cs : List Char) :
    (escapeWhere special cs).length = cs.length + cs.countP special := by
  induction cs with
  | nil => rfl
  | cons c cs ih =>
    rw [escapeWhere, List.flatMap_cons, ← escapeWhere, List.length_append, ih]
    by_cases hc : special c = true
    · simp [hc]; omega
    · simp [hc]; omega

@[simp] theorem toList_escape (t : String) : (escape t).toList = escapeChars t.toList := by
  simp [escape]

theorem length_escape (t : String) :
    (escape t).length = t.length + t.toList.countP isSpecial := by
  rw [← String.length_toList, toList_escape, escapeChars, length_escapeWhere, String.length_toList]

theorem follows_escapeWhere (special : Char → Bool) (cs : List Char) :
    Follows ['\\'] (fun c => special c = true ∧ c ≠ '\\') (escapeWhere special cs) := by
  refine .flatMap fun c _ => ?_
  split_ifs with hc
  · exact .pair (by simp) (by simp)
  · refine .of_absent fun d hd hs => hc ?_
    rw [← List.mem_singleton.1 hd]
    exact hs.1

theorem analyze_escape (t : String) : Hazard.analyze (escape t).toList = .clear := by
  have hfollows {kind : Char → Prop} (hkind : ∀ c, kind c → c ∈ ['+', '*', '\x7b', '(', ')']) :
      Follows ['\\'] kind (escape t).toList := by
    rw [toList_escape]
    refine (follows_escapeWhere isSpecial t.toList).mono (List.Subset.refl _) fun c hc => ?_
    have hspecial : ∀ d ∈ ['+', '*', '\x7b', '(', ')'], isSpecial d = true ∧ d ≠ '\\' := by
      simp [isSpecial, isGlobSpecial]
    exact hspecial c (hkind c hc)
  have hquantifier : Follows ['\\'] (· ∈ Hazard.repetitions) (escape t).toList :=
    hfollows (by simp [Hazard.repetitions])
  apply Hazard.analyze_of_follows _ _ hquantifier (by decide)
  · exact Hazard.not_holds_adjacentSets_of_follows hquantifier (by decide)
  · exact hfollows (by simp)
  · exact hfollows (by simp)

end PatternGuard.Text

namespace PatternGuard.Regex

open PatternGuard.Text

def Token.ofText (c : Char) : Token := if isSpecial c then .escape c else .char c

theorem tokens_cons_of_ne {c : Char} (hc : c ≠ '\\') (cs : List Char) :
    tokens (c :: cs) = .char c :: tokens cs := by
  rw [tokens]
  · simp [hc]
  · rintro d ds rfl
    exact absurd rfl hc

theorem tokens_escapeChars (cs : List Char) : tokens (escapeChars cs) = cs.map Token.ofText := by
  induction cs with
  | nil => rfl
  | cons c cs ih =>
    rw [escapeChars, escapeWhere, List.flatMap_cons, ← escapeWhere, ← escapeChars, List.map_cons,
      ← ih, Token.ofText]
    split_ifs with hc
    · rfl
    · refine tokens_cons_of_ne ?_ _
      rintro rfl
      exact hc rfl

theorem opening_not_mem_map_ofText (cs : List Char) : .char '(' ∉ cs.map Token.ofText := by
  intro h
  obtain ⟨c, -, hc⟩ := List.mem_map.1 h
  rw [Token.ofText] at hc
  split_ifs at hc with hspecial
  cases hc
  exact hspecial rfl

theorem Reader.reads_ofText [Interpreter] {total : Nat} {flags : FlagSet} {items : List Node}
    {rest : List Token} (h : BeginsItem rest) (c : Char) :
    Reads (whole total flags items (.ofText c :: rest))
      (whole total flags (.literal c.toNat :: items) rest) := by
  rw [Token.ofText]
  split_ifs with hc
  · exact reads_escaped h hc
  · exact reads_literal h (by simpa using hc)

theorem Reader.beginsItem_ofText (c : Char) (rest : List Token) :
    BeginsItem (.ofText c :: rest) := by
  rintro t ⟨rfl⟩
  rw [Token.ofText]
  split_ifs with hc
  · simp
  · simp only [List.mem_cons, List.not_mem_nil, or_false, not_or, reduceCtorEq, not_false_eq_true,
      true_and, Token.char.injEq]
    constructor
    · rintro rfl; exact hc rfl
    · rintro rfl; exact hc rfl

theorem Pattern.compile_escape [Interpreter] (t : String) :
    Pattern.compile (escape t) .ignoringCase =
      .ok ⟨escape t, .ignoringUnicodeCase, 0, [], .ofList (t.toList.map (.literal ·.toNat))⟩ := by
  have htokens : tokens (escape t).toList = (t.toList.flatMap fun c => [Token.ofText c]) ++ [] := by
    rw [toList_escape, tokens_escapeChars, List.append_nil, List.map_eq_flatMap]
  have hbegin : Reader.BeginsItem (tokens (escape t).toList) := by
    rw [htokens]
    cases t.toList with
    | nil => exact .nil
    | cons c cs => exact Reader.beginsItem_ofText c _
  have hflat : .char '(' ∉ tokens (escape t).toList := by
    rw [toList_escape, tokens_escapeChars]
    exact opening_not_mem_map_ofText t.toList
  refine Pattern.compile_of_reads Node.plain_literals hflat hbegin ?_
  rw [htokens, ← List.append_nil (List.reverse _)]
  apply Reader.reads_flatMap
  · intro c _ rest
    exact Reader.beginsItem_ofText c rest
  · intro c _ items rest h
    exact Reader.reads_ofText h c
  · exact .nil

end PatternGuard.Regex
