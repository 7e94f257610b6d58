import Mathlib
import PatternGuard.Proofs.Regex.Plain
import PatternGuard.Transform

namespace PatternGuard.Regex

open PatternGuard.Text

namespace Reader

def whole (total : Nat) (flags : FlagSet) (items : List Node) (rest : List Token) : Reader :=
  ⟨⟨total, rest⟩, flags, .none, ⟨.whole, 0, false, [], items⟩, []⟩

def BeginsItem (ts : List Token) : Prop :=
  ∀ t ∈ ts.head?, t ∉ [Token.dangling, .char '?', .char '+']

variable {total : Nat} {flags : FlagSet} {items : List Node} {rest : List Token}

theorem BeginsItem.nil : BeginsItem [] := by
  intro t ht
  cases ht

theorem BeginsItem.settle_eq (h : BeginsItem rest) :
    Source.settle ⟨total, rest⟩ = .ok ⟨total, rest⟩ := by
  rw [Source.settle]
  split
  · rename_i ts hrest
    have hrest : rest = .dangling :: ts := hrest
    subst hrest
    exact absurd (h .dangling rfl) (by simp)
  · rfl

theorem BeginsItem.nextIs_eq (h : BeginsItem rest) {c : Char} (hc : c = '?' ∨ c = '+') :
    Source.nextIs ⟨total, rest⟩ c = false := by
  rw [Source.nextIs, Source.next?, beq_eq_false_iff_ne]
  intro hhead
  have := h _ hhead
  rcases hc with rfl | rfl <;> simp at this

theorem drop_whole {t : Token} (h : BeginsItem rest) :
    Source.drop ⟨total, t :: rest⟩ = .ok ⟨total, rest⟩ := by
  rw [Source.drop, List.tail_cons, h.settle_eq]

variable [Interpreter]

/-- Steps of the reader, each of which takes tokens. -/
inductive Reads : Reader → Reader → Prop
  | done {r : Reader} : Reads r r
  | step {r r' r'' : Reader} {t : Token} : r.source.next? = some t → r.atEnd = false →
      r.step t = .ok r' → r'.source.rest.length < r.source.rest.length → Reads r' r'' → Reads r r''

theorem Reads.trans {r r' r'' : Reader} (h : Reads r r') (h' : Reads r' r'') : Reads r r'' := by
  induction h with
  | done => exact h'
  | step hnext hend hstep hlt _ ih => exact .step hnext hend hstep hlt (ih h')

theorem Reads.run_eq {r r' : Reader} (h : Reads r r') (hrest : r'.source.rest = []) {fuel : Nat}
    (hfuel : r.source.rest.length ≤ fuel) : run fuel r = .ok r' := by
  induction h generalizing fuel with
  | @done r =>
    cases fuel with
    | zero => rfl
    | succ fuel => simp [run, Source.next?, hrest]
  | step hnext hend hstep hlt _ ih =>
    cases fuel with
    | zero => omega
    | succ fuel =>
      simp only [run, hnext, hend, hstep]
      exact ih hrest (by omega)

theorem Reads.single {t : Token} {ts : List Token} {items' : List Node} (hclose : t ≠ .char ')')
    (hlt : rest.length ≤ ts.length)
    (hstep : (whole total flags items (t :: ts)).step t = .ok (whole total flags items' rest)) :
    Reads (whole total flags items (t :: ts)) (whole total flags items' rest) := by
  refine .step rfl ?_ hstep (by simpa [whole] using Nat.lt_succ_of_le hlt) .done
  simp [atEnd, whole, Source.nextIs, Source.next?, hclose]

theorem step_char (r : Reader) {c : Char} (hbar : c ≠ '|') (hclose : c ≠ ')') :
    r.step (.char c) = r.source.drop >>= r.character c r.source.position := by
  unfold step
  split
  · rename_i h; exact absurd (Token.char.inj h) hbar
  · rename_i h; exact absurd (Token.char.inj h) hclose
  · rename_i h; rw [Token.char.inj h]
  · rename_i h; cases h
  · rename_i h; cases h

theorem character_literal (r : Reader) {c : Char} (hc : isSpecial c = false)
    (hv : r.frame.verbose = false) (start : Nat) (s : Source) :
    r.character c start s = .ok (r.push (.literal c.toNat) s) := by
  have hne : ∀ d : Char, isSpecial d = true → c ≠ d := by
    intro d hd hcd
    rw [hcd, hd] at hc
    cases hc
  have hq : isQuantifier c = false := by
    simp [isQuantifier, hne '*' rfl, hne '+' rfl, hne '?' rfl, hne '\x7b' rfl]
  simp only [character, hv, hq, Bool.false_and, Bool.false_eq_true, if_false]
  split
  · exact absurd rfl (hne '[' rfl)
  · exact absurd rfl (hne '.' rfl)
  · exact absurd rfl (hne '(' rfl)
  · exact absurd rfl (hne '^' rfl)
  · exact absurd rfl (hne '$' rfl)
  · rfl

theorem nodeEscape_special (g : Groups) {c : Char} (hc : isSpecial c = true) (s : Source) :
    nodeEscape g c s = .ok (.literal c.toNat, s) := by
  simp only [isSpecial, isGlobSpecial, Bool.or_eq_true, beq_iff_eq, or_assoc] at hc
  rcases hc with rfl | rfl | rfl | rfl | rfl | rfl | rfl | rfl | rfl | rfl | rfl | rfl | rfl | rfl
    <;> rfl

theorem reads_literal (h : BeginsItem rest) {c : Char} (hc : isSpecial c = false) :
    Reads (whole total flags items (.char c :: rest))
      (whole total flags (.literal c.toNat :: items) rest) := by
  have hbar : c ≠ '|' := by rintro rfl; cases hc
  have hclose : c ≠ ')' := by rintro rfl; cases hc
  refine Reads.single ?_ (le_refl _) ?_
  · simpa using hclose
  · rw [step_char _ hbar hclose]
    simp only [whole, drop_whole h]
    exact character_literal (whole total flags items (.char c :: rest)) hc rfl _ _

theorem reads_escaped (h : BeginsItem rest) {c : Char} (hc : isSpecial c = true) :
    Reads (whole total flags items (.escape c :: rest))
      (whole total flags (.literal c.toNat :: items) rest) := by
  refine Reads.single ?_ (le_refl _) ?_
  · simp
  · simp only [step, whole, drop_whole h]
    change Except.map _ (nodeEscape _ c _) = _
    rw [nodeEscape_special _ hc]
    rfl

theorem reads_any (h : BeginsItem rest) :
    Reads (whole total flags items (.char '.' :: rest))
      (whole total flags (.any :: items) rest) := by
  refine Reads.single ?_ (le_refl _) ?_
  · simp
  · rw [step_char _ (by decide) (by decide)]
    simp only [whole, drop_whole h]
    rfl

theorem reads_lineStart (h : BeginsItem rest) :
    Reads (whole total flags items (.char '^' :: rest))
      (whole total flags (.anchor .lineStart :: items) rest) := by
  refine Reads.single ?_ (le_refl _) ?_
  · simp
  · rw [step_char _ (by decide) (by decide)]
    simp only [whole, drop_whole h]
    rfl

theorem reads_textEnd (h : BeginsItem rest) :
    Reads (whole total flags items (.escape 'Z' :: rest))
      (whole total flags (.anchor .textEnd :: items) rest) := by
  refine Reads.single ?_ (le_refl _) ?_
  · simp
  · simp only [step, whole, drop_whole h]
    rfl

theorem bracket_read_notSlash (h : BeginsItem rest) (start : Nat) :
    Bracket.read start ⟨total, .char '^' :: .char '/' :: .char ']' :: rest⟩ =
      .ok (.notLiteral 0x2f, ⟨total, rest⟩) := by
  have hchar : ∀ (c : Char) (ts : List Token),
      Source.settle ⟨total, .char c :: ts⟩ = .ok ⟨total, .char c :: ts⟩ := fun _ _ => rfl
  simp [Bracket.read, Source.accept, Source.nextIs, Source.next?, Source.drop, hchar, h.settle_eq,
    bind, Except.bind, Except.map, pure, Except.pure, Bracket.members, Source.take, Bracket.member,
    Bracket.toNode, distinct]

theorem reads_notSlash (h : BeginsItem rest) :
    Reads (whole total flags items (.char '[' :: .char '^' :: .char '/' :: .char ']' :: rest))
      (whole total flags (.notLiteral 0x2f :: items) rest) := by
  apply Reads.single
  · simp
  · simp; omega
  · have hcaret : BeginsItem (.char '^' :: .char '/' :: .char ']' :: rest) := by simp [BeginsItem]
    rw [step_char _ (by decide) (by decide)]
    simp only [whole, drop_whole hcaret]
    change Except.map _ (Bracket.read _ _) = _
    rw [bracket_read_notSlash h]
    rfl

theorem reads_star (h : BeginsItem rest) {n : Node} (hanchor : n.isAnchor = false)
    (hrepeat : n.isRepeat = false) :
    Reads (whole total flags (n :: items) (.char '*' :: rest))
      (whole total flags (.repeated .greedy 0 none (.ofList n.splice) :: items) rest) := by
  refine Reads.single ?_ (le_refl _) ?_
  · simp
  · rw [step_char _ (by decide) (by decide)]
    simp only [whole, drop_whole h]
    change quantify _ '*' _ _ = _
    simp [quantify, Quantifier.counts, Quantifier.apply, hanchor, hrepeat, Quantifier.greed, bind,
      Except.bind, Source.accept, h.nextIs_eq]
    rfl

theorem reads_flatMap {α : Type} {scan : α → List Token} {node : α → Node} {us : List α}
    (hbegin : ∀ u ∈ us, ∀ rest, BeginsItem (scan u ++ rest))
    (hread : ∀ u ∈ us, ∀ items rest, BeginsItem rest →
      Reads (whole total flags items (scan u ++ rest)) (whole total flags (node u :: items) rest))
    (h : BeginsItem rest) :
    Reads (whole total flags items (us.flatMap scan ++ rest))
      (whole total flags ((us.map node).reverse ++ items) rest) := by
  induction us generalizing items with
  | nil => exact .done
  | cons u us ih =>
    have hnext : BeginsItem (us.flatMap scan ++ rest) := by
      cases us with
      | nil => exact h
      | cons v us =>
        rw [List.flatMap_cons, List.append_assoc]
        exact hbegin v (by simp) _
    rw [List.flatMap_cons, List.append_assoc, List.map_cons, List.reverse_cons, List.append_assoc]
    refine (hread u (by simp) items _ hnext).trans ?_
    exact ih (fun v hv => hbegin v (by simp [hv])) (fun v hv => hread v (by simp [hv]))

end Reader

namespace Node

variable {n : Node}

theorem Plain.splice_eq (hn : n.Plain) : n.splice = [n] := by
  cases hn with
  | empty => rfl
  | seq _ _ => rfl
  | char hc => cases hc <;> rfl
  | anchor a => rfl
  | row least most hc => rfl

theorem Plain.check_eq (hn : n.Plain) : n.check false = .ok () := by
  induction hn with
  | empty => rfl
  | seq _ _ iha ihb =>
    rw [check, iha]
    exact ihb
  | char hc => cases hc <;> rfl
  | anchor a => rfl
  | row least most hc => cases hc <;> rfl

theorem Plain.fitsWord_eq (hn : n.Plain) : n.fitsWord = true := by
  induction hn with
  | empty => rfl
  | seq _ _ iha ihb => rw [fitsWord, iha, ihb]; rfl
  | char hc => cases hc <;> rfl
  | anchor a => rfl
  | row least most hc => cases hc <;> rfl

end Node

def FlagSet.ignoringCase : FlagSet := .ofList [.ignoreCase]

def FlagSet.ignoringUnicodeCase : FlagSet := .ofList [.ignoreCase, .unicode]

theorem Frame.body_of_plain {ns : List Node} (hns : ∀ n ∈ ns, n.Plain) :
    Frame.body ⟨.whole, 0, false, [], ns.reverse⟩ = .ofList ns := by
  have hsplice : ns.flatMap Node.splice = ns := by
    rw [List.flatMap_congr fun n hn => (hns n hn).splice_eq]
    simp
  simp [body, alternatives, sequence, Alternatives.toSequence, hsplice]

open Reader in
theorem Expression.read_of_reads [Interpreter] {cs : List Char} {ns : List Node}
    (hns : ∀ n ∈ ns, n.Plain) (hbegin : BeginsItem (tokens cs))
    (h : Reads (whole cs.length .ignoringCase [] (tokens cs))
      (whole cs.length .ignoringCase ns.reverse [])) :
    Expression.read cs .ignoringCase = .ok ⟨.ofList ns, .ignoringUnicodeCase, 0, []⟩ := by
  have hinit : ofPattern cs .ignoringCase = .ok (whole cs.length .ignoringCase [] (tokens cs)) := by
    rw [ofPattern, hbegin.settle_eq]
    rfl
  have hlast : ofReader (whole cs.length .ignoringCase ns.reverse []) =
      .ok ⟨.ofList ns, .ignoringUnicodeCase, 0, []⟩ := by
    rw [← Frame.body_of_plain hns]
    rfl
  have hrun : run (tokens cs).length (whole cs.length .ignoringCase [] (tokens cs)) =
      .ok (whole cs.length .ignoringCase ns.reverse []) := h.run_eq rfl (le_refl _)
  rw [read, hinit, ← hlast]
  change run (tokens cs).length _ >>= ofReader = _
  rw [hrun]
  rfl

theorem Pattern.source_of_compile [Interpreter] {source : String} {flags : FlagSet} {p : Pattern}
    (h : Pattern.compile source flags = .ok p) : p.source = source := by
  rw [compile_of_within (within_of_compile h)] at h
  cases hread : Expression.read source.toList flags with
  | error f =>
    rw [hread] at h
    cases h
  | ok e =>
    rw [hread] at h
    change ofExpression source flags e = .ok p at h
    unfold ofExpression at h
    split at h
    · cases h
    · dsimp only at h
      split_ifs at h
      cases h
      rfl

open Reader in
theorem Pattern.compile_of_reads [Interpreter] {source : String} {ns : List Node}
    (hns : ∀ n ∈ ns, n.Plain) (hflat : .char '(' ∉ tokens source.toList)
    (hbegin : BeginsItem (tokens source.toList))
    (h : Reads (whole source.toList.length .ignoringCase [] (tokens source.toList))
      (whole source.toList.length .ignoringCase ns.reverse [])) :
    Pattern.compile source .ignoringCase =
      .ok ⟨source, .ignoringUnicodeCase, 0, [], .ofList ns⟩ := by
  have hplain : (Node.ofList ns).Plain := .ofList hns
  have htemplate : FlagSet.ignoringUnicodeCase.has .template = false := by decide
  have hword : FlagSet.ignoringUnicodeCase.fitsWord = true := by decide
  have hunion : FlagSet.ignoringCase.union .ignoringUnicodeCase = .ignoringUnicodeCase := by decide
  have hwithin : Interpreter.recursionError? source.toList .ignoringCase = none :=
    Interpreter.within_room _ _ (by rw [openings, List.count_eq_zero.2 hflat]; exact Nat.zero_le _)
  rw [compile_of_within hwithin, Expression.read_of_reads hns hbegin h]
  change ofExpression source _ _ = _
  simp only [ofExpression, htemplate, hplain.check_eq, hword, hplain.fitsWord_eq, hunion]
  rfl

def Mode.caseless : Mode := ⟨true, false, false, true⟩

theorem Mode.ofFlags_ignoringUnicodeCase : Mode.ofFlags .ignoringUnicodeCase = .caseless := by
  decide

end PatternGuard.Regex
