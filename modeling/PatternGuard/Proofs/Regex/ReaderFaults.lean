import Mathlib
import PatternGuard.Proofs.Regex.ItemFaults
import PatternGuard.Regex.Pattern

namespace PatternGuard.Regex

namespace FlagSet

theorem fitsWord_iff {s : Int} : fitsWord s = true ↔ -2147483648 ≤ s ∧ s < 2147483648 := by
  have hpow : Int.pow 2 31 = 2147483648 := rfl
  simp only [fitsWord, Bool.and_eq_true, decide_eq_true_eq, hpow]

theorem fitsWord_insert {s : Int} (h : fitsWord s = true) (f : Flag) :
    fitsWord (insert s f) = true := by
  rw [insert]
  split_ifs with hf
  · exact h
  · have hf : s / Int.pow 2 f.index % 2 ≠ 1 := by simpa [has] using hf
    rw [fitsWord_iff] at h ⊢
    have hpow : Int.pow 2 f.index = 2 ^ f.index := rfl
    rw [hpow] at hf ⊢
    cases f <;> simp only [Flag.index] at hf ⊢ <;> omega

theorem fitsWord_union {s : FlagSet} (h : s.fitsWord = true) (t : FlagSet) :
    (s.union t).fitsWord = true := by
  rw [union]
  induction t.toList generalizing s with
  | nil => exact h
  | cons f fs ih => exact ih (fitsWord_insert h f)

end FlagSet

variable {ts : List Token} {s : Source}

namespace Reader

def Within (ts : List Token) (r : Reader) : Prop := r.source.Within ts

variable {r : Reader}

theorem Within.drop (h : r.Within ts) : KeepsTo ts r.source.drop fun s => s.Within ts := by
  refine (Source.drop_keeps _).mono fun s hs => ?_
  rw [Source.Within, hs]
  exact (List.tail_suffix _).trans h

theorem leave_keeps (r : Reader) (hs : s.Within ts) (n : Node) (g : Groups) :
    KeepsTo ts (r.leave n g s) (Within ts) := by
  unfold leave
  split
  · trivial
  · exact hs

theorem close_keeps (h : r.Within ts) : KeepsTo ts r.close (Within ts) := by
  refine h.drop.bind fun s hs => ?_
  dsimp only
  split
  · trivial
  · exact leave_keeps r hs ..
  · exact leave_keeps r hs ..
  · exact leave_keeps r hs ..
  · exact leave_keeps r hs ..
  · split
    · exact leave_keeps r hs ..
    · exact leave_keeps r hs ..
    · exact leave_keeps r hs ..

theorem branch_keeps (h : r.Within ts) : KeepsTo ts r.branch (Within ts) := by
  unfold branch
  split
  · trivial
  · exact h.drop.map fun s hs => hs

theorem skipLine_keeps (fuel : Nat) (hs : s.Within ts) :
    KeepsTo ts (skipLine fuel s) fun s => s.Within ts := by
  induction fuel generalizing s with
  | zero => exact hs
  | succ fuel ih =>
    refine (Source.take_keeps s).bind ?_
    rintro ⟨_ | t, after⟩ hrest
    · exact hs.next hrest
    · dsimp only
      split_ifs
      · exact hs.next hrest
      · exact ih (hs.next hrest)

theorem skipComment_keeps (start fuel : Nat) (hs : s.Within ts) :
    KeepsTo ts (skipComment start fuel s) fun s => s.Within ts := by
  induction fuel generalizing s with
  | zero => trivial
  | succ fuel ih =>
    unfold skipComment
    split
    · trivial
    · refine (Source.take_keeps s).bind ?_
      rintro ⟨t, after⟩ hrest
      dsimp only
      split_ifs
      · exact hs.next hrest
      · exact ih (hs.next hrest)

theorem openCapture_keeps (r : Reader) (hs : s.Within ts) (start : Nat)
    {name : Option (List Char)} (hname : ∀ cs ∈ name, Spelled ts cs) :
    KeepsTo ts (r.openCapture start name s) (Within ts) := by
  unfold openCapture
  dsimp only
  split
  · exact hs
  · rename_i cs
    split
    · simpa [Source.fault, Fault.ArisesIn, Cause.ArisesIn] using hname
    · exact hs

theorem groupName_keeps (terminator : Char) (hs : s.Within ts) :
    KeepsTo ts (groupName terminator s) fun r => Spelled ts r.1 ∧ r.2.Within ts := by
  refine (Source.name_keeps (by decide) terminator hs).bind ?_
  rintro ⟨cs, after⟩ ⟨hname, hafter⟩
  dsimp only
  split_ifs
  · exact ⟨hname, hafter⟩
  · simpa [Source.fault, Fault.ArisesIn, Cause.ArisesIn] using hname

theorem namedReference_keeps (r : Reader) (hs : s.Within ts) :
    KeepsTo ts (r.namedReference s) (Within ts) := by
  refine (groupName_keeps ')' hs).bind ?_
  rintro ⟨cs, after⟩ ⟨hname, hafter⟩
  dsimp only
  split
  · simpa [Source.fault, Fault.ArisesIn, Cause.ArisesIn] using hname
  · split_ifs
    · trivial
    · exact (checkLookbehind_keeps _ _ _).bind fun _ _ => hafter

theorem named_keeps (r : Reader) (hs : s.Within ts) (start : Nat) :
    KeepsTo ts (r.named start s) (Within ts) := by
  refine (Source.accept_keeps s '<').bind ?_
  rintro ⟨found, after⟩ hrest
  dsimp only
  split_ifs
  · refine (groupName_keeps '>' (hs.next hrest)).bind ?_
    rintro ⟨cs, after⟩ ⟨hname, hafter⟩
    exact openCapture_keeps r hafter start (by simpa using hname)
  · refine (Source.accept_keeps s '=').bind ?_
    rintro ⟨found, after⟩ hrest
    dsimp only
    split_ifs
    · exact namedReference_keeps r (hs.next hrest)
    · refine (Source.take_keeps s).bind ?_
      rintro ⟨_ | t, after⟩ hrest
      · trivial
      · refine Nat.le_trans (Nat.le_of_eq (String.length_append ..)) ?_
        exact Nat.add_le_add_left t.length_shown 1

theorem behind_keeps (r : Reader) (hs : s.Within ts) (start : Nat) :
    KeepsTo ts (r.behind start s) (Within ts) := by
  refine (Source.take_keeps s).bind ?_
  rintro ⟨_ | t, after⟩ hrest
  · trivial
  · dsimp only
    split_ifs
    · exact hs.next hrest
    · exact hs.next hrest
    · refine Nat.le_trans (Nat.le_of_eq (String.length_append ..)) ?_
      exact Nat.add_le_add_left t.length_shown 1

theorem conditionGroup_keeps (r : Reader) {cs : List Char} (hname : Spelled ts cs) (s : Source) :
    KeepsTo ts (r.conditionGroup cs s) fun _ => True := by
  have hname : Spelled ts (String.ofList cs).toList := by rwa [String.toList_ofList]
  unfold conditionGroup
  dsimp only
  split_ifs
  · split
    · exact hname
    · trivial
  · split
    · trivial
    · split_ifs <;> trivial
    · exact hname

theorem conditional_keeps (r : Reader) (hs : s.Within ts) (start : Nat) :
    KeepsTo ts (r.conditional start s) (Within ts) := by
  refine (Source.name_keeps (by decide) ')' hs).bind ?_
  rintro ⟨cs, after⟩ ⟨hname, hafter⟩
  refine (conditionGroup_keeps r hname after).bind ?_
  rintro ⟨group, g⟩ -
  exact (checkLookbehind_keeps g group after).bind fun _ _ => hafter

theorem inlineFlags_keeps (r : Reader) (hs : s.Within ts) (start : Nat)
    (first : Option Flag) : KeepsTo ts (r.inlineFlags start first s) (Within ts) := by
  refine (InlineFlags.read_keeps first hs).bind ?_
  rintro ⟨on | ⟨on, off⟩, after⟩ hafter
  · dsimp only
    split_ifs
    · trivial
    · exact hafter
  · exact hafter

theorem extension_keeps (r : Reader) (hs : s.Within ts) (start : Nat) :
    KeepsTo ts (r.extension start s) (Within ts) := by
  refine (Source.take_keeps s).bind ?_
  rintro ⟨_ | t, after⟩ hrest
  · trivial
  · have hafter : after.Within ts := hs.next hrest
    dsimp only
    split
    · exact named_keeps r hafter start
    · exact hafter
    · exact (skipComment_keeps start _ hafter).map fun s hs => hs
    · exact hafter
    · exact hafter
    · exact behind_keeps r hafter start
    · exact conditional_keeps r hafter start
    · exact hafter
    · exact inlineFlags_keeps r hafter start none
    · split
      · exact inlineFlags_keeps r hafter start _
      · exact Nat.le_succ_of_le t.length_shown

theorem group_keeps (r : Reader) (hs : s.Within ts) (start : Nat) :
    KeepsTo ts (r.group start s) (Within ts) := by
  refine (Source.accept_keeps s '?').bind ?_
  rintro ⟨found, after⟩ hrest
  dsimp only
  split_ifs
  · exact extension_keeps r (hs.next hrest) start
  · exact openCapture_keeps r (hs.next hrest) start (by simp)

theorem quantify_keeps (r : Reader) (hs : s.Within ts) (c : Char) (start : Nat) :
    KeepsTo ts (r.quantify c start s) (Within ts) := by
  refine (Quantifier.counts_keeps c hs).bind ?_
  rintro ⟨_ | ⟨least, most⟩, after⟩ hafter
  · exact hs
  · refine (Quantifier.apply_keeps start least most _ hafter).bind ?_
    rintro ⟨items, after⟩ hafter
    exact hafter

theorem character_keeps [Interpreter] (r : Reader) (hs : s.Within ts) (c : Char) (start : Nat) :
    KeepsTo ts (r.character c start s) (Within ts) := by
  unfold character
  split_ifs
  · exact hs
  · exact (skipLine_keeps _ hs).map fun s hs => hs
  · exact quantify_keeps r hs c start
  · split
    · exact (Bracket.read_keeps start hs).map fun _ hr => hr
    · exact hs
    · exact group_keeps r hs start
    · exact hs
    · exact hs
    · exact hs

theorem step_keeps [Interpreter] (h : r.Within ts) {t : Token} (hnext : r.source.next? = some t) :
    KeepsTo ts (r.step t) (Within ts) := by
  obtain ⟨tail, htail⟩ := List.head?_eq_some_iff.1 hnext
  unfold step
  split
  · exact branch_keeps h
  · exact close_keeps h
  · exact h.drop.bind fun s hs => character_keeps r hs ..
  · rename_i c
    refine (Source.drop_keeps _).bind fun s hs => ?_
    have hcons : r.source.rest = .escape c :: s.rest := by rw [hs, htail, List.tail_cons]
    exact (nodeEscape_keeps _ (Source.Within.cons h hcons)).map fun _ hr => hr
  · trivial

theorem run_keeps [Interpreter] (h : r.Within ts) (fuel : Nat) :
    KeepsTo ts (run fuel r) (Within ts) := by
  induction fuel generalizing r with
  | zero => exact h
  | succ fuel ih =>
    unfold run
    split
    · exact h
    · rename_i hnext
      split_ifs
      · exact h
      · exact (step_keeps h hnext).bind fun r hr => ih hr

theorem ofPattern_keeps (cs : List Char) (flags : FlagSet) :
    KeepsTo (tokens cs) (ofPattern cs flags) (Within (tokens cs)) := by
  refine (Source.settle_keeps _).bind ?_
  rintro s rfl
  exact List.suffix_rfl

end Reader

namespace Expression

theorem settleFlags_keeps (flags : FlagSet) : KeepsTo ts (settleFlags flags) fun _ => True := by
  unfold settleFlags
  split_ifs <;> trivial

theorem ofReader_keeps (r : Reader) : KeepsTo ts (ofReader r) fun _ => True := by
  have hawaited : ∀ e : Expression,
      KeepsTo ts (do checkAwaited r.groups; pure e) fun _ => True := by
    intro e
    unfold checkAwaited
    split <;> trivial
  unfold ofReader
  dsimp only
  split_ifs
  · trivial
  · trivial
  · exact (settleFlags_keeps r.flags).bind fun _ _ => trivial
  · exact (settleFlags_keeps r.flags).bind fun _ _ => hawaited _

theorem read_keeps [Interpreter] (cs : List Char) (flags : FlagSet) :
    KeepsTo (tokens cs) (read cs flags) fun _ => True :=
  (Reader.ofPattern_keeps cs flags).bind fun _ hr =>
    (Reader.run_keeps hr _).bind fun r _ => ofReader_keeps r

end Expression

inductive Objection.Raised : Objection → Prop
  | lookbehindWidth : Raised .lookbehindWidth
  | template (g : Greed) : Raised (.template g.operator)

theorem Node.raised_of_check {template : Bool} {n : Node} {o : Objection}
    (h : n.check template = .error o) : o.Raised := by
  have hboth : ∀ {a b : Node}, (a.check template = .error o → o.Raised) →
      (b.check template = .error o → o.Raised) →
      (do a.check template; b.check template) = .error o → o.Raised := by
    intro a b iha ihb hab
    cases ha : a.check template with
    | ok _ =>
      rw [ha] at hab
      exact ihb hab
    | error o' =>
      rw [ha] at hab
      cases hab
      exact iha ha
  induction n with
  | seq a b iha ihb => exact hboth iha ihb h
  | alt a b iha ihb => exact hboth iha ihb h
  | repeated g least most body ih =>
    rw [check] at h
    split_ifs at h
    · cases h
      exact .template g
    · exact ih h
  | capture group body ih => exact ih h
  | scope on off body ih => exact ih h
  | atomic body ih => exact ih h
  | look back negated body ih =>
    rw [check] at h
    split_ifs at h
    · cases h
      exact .lookbehindWidth
    · exact ih h
  | conditional group yes no ihyes ihno => exact hboth ihyes ihno h
  | _ => cases h

namespace Pattern

variable {source : String} {flags : FlagSet} {f : Fault}

theorem ofExpression_error_cases {e : Expression} (h : ofExpression source flags e = .error f) :
    (∃ o, f = .objection o ∧ o.Raised) ∨ (f = .hugeWord ∧ flags.fitsWord = false) ∨
    f = .farLookbehind ∧ e.node.fitsWord = false := by
  unfold ofExpression at h
  split at h
  · rename_i o ho
    exact .inl ⟨o, (Except.error.inj h).symm, Node.raised_of_check ho⟩
  · dsimp only at h
    split_ifs at h with hword hnode
    · refine .inr (.inl ⟨(Except.error.inj h).symm, ?_⟩)
      by_contra hflags
      have hfits := FlagSet.fitsWord_union (eq_true_of_ne_false hflags) e.flags
      rw [hfits] at hword
      cases hword
    · exact .inr (.inr ⟨(Except.error.inj h).symm, by simpa using hnode⟩)

/-- The errors of `re.compile`, and what each says about the pattern. -/
theorem compile_error_cases [Interpreter] (h : compile source flags = .error f) :
    f.ArisesIn (tokens source.toList) ∨ (∃ o, f = .objection o ∧ o.Raised) ∨
    (f = .hugeWord ∧ flags.fitsWord = false) ∨
    (f = .farLookbehind ∧
      ∃ e, Expression.read source.toList flags = .ok e ∧ e.node.fitsWord = false) ∨
    ∃ message, f = .tooDeep message ∧
      Interpreter.recursionError? source.toList flags = some message := by
  cases hlimit : Interpreter.recursionError? source.toList flags with
  | some message =>
    rw [compile_of_recursionError hlimit] at h
    exact .inr (.inr (.inr (.inr ⟨message, (Except.error.inj h).symm, rfl⟩)))
  | none =>
    have hread := Expression.read_keeps source.toList flags
    rw [compile_of_within hlimit] at h
    cases he : Expression.read source.toList flags with
    | error f' =>
      rw [he] at h hread
      exact .inl (Except.error.inj h ▸ hread)
    | ok e =>
      rw [he] at h
      rcases ofExpression_error_cases h with ⟨o, rfl, hraised⟩ | ⟨rfl, hflags⟩ | ⟨rfl, hnode⟩
      · exact .inr (.inl ⟨o, rfl, hraised⟩)
      · exact .inr (.inr (.inl ⟨rfl, hflags⟩))
      · exact .inr (.inr (.inr (.inl ⟨rfl, e, rfl, hnode⟩)))

end Pattern

theorem spelling_tokens (cs : List Char) : spelling (tokens cs) = cs := by
  fun_induction tokens cs with
  | case1 => rfl
  | case2 c cs ih => exact congrArg (fun cs => '\\' :: c :: cs) ih
  | case3 c cs hnext hc =>
    cases cs with
    | nil => rw [eq_of_beq hc]; rfl
    | cons d ds => exact absurd rfl (hnext d ds (eq_of_beq hc))
  | case4 c cs _ _ ih => exact congrArg (c :: ·) ih

theorem spelling_map_char (cs : List Char) : spelling (cs.map .char) = cs := by
  simp [spelling, Token.text, List.flatMap_map]

variable {cs ds : List Char}

theorem Spelled.isInfix (h : Spelled (tokens cs) ds) : ds <:+: cs := by
  obtain ⟨us, ⟨a, b, hus⟩, rfl⟩ := h
  have htext := congrArg spelling hus
  rw [spelling_tokens] at htext
  exact ⟨spelling a, spelling b, by simpa [spelling] using htext⟩

theorem infix_of_escape {c : Char} (h : .escape c :: ds.map .char <:+: tokens cs) :
    '\\' :: c :: ds <:+: cs :=
  Spelled.isInfix ⟨_, h, congrArg (fun ds => '\\' :: c :: ds) (spelling_map_char ds)⟩

end PatternGuard.Regex
