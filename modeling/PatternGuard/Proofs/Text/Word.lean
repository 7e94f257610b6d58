import Mathlib
import PatternGuard.Number

namespace PatternGuard.Text

def isLetter (c : Char) : Bool := Unicode.isAsciiLetter c.toNat

/-- At least five letters, and nothing else: numbers and short escapes hold no word. -/
structure IsWord (w : List Char) : Prop where
  letters : ∀ c ∈ w, isLetter c = true
  long : 5 ≤ w.length

def OccursIn (w : List Char) (s : String) : Prop := w <:+: s.toList

instance (w : List Char) (s : String) : Decidable (OccursIn w s) :=
  inferInstanceAs (Decidable (w <:+: s.toList))

variable {w a b : List Char} {s t : String}

theorem OccursIn.trans (h : OccursIn w s) (hst : OccursIn s.toList t) : OccursIn w t :=
  List.IsInfix.trans h hst

theorem occursIn_append_left (h : OccursIn w s) : OccursIn w (s ++ t) := by
  rw [OccursIn, String.toList_append]
  exact List.IsInfix.trans h (List.prefix_append _ _).isInfix

theorem occursIn_append_right (h : OccursIn w t) : OccursIn w (s ++ t) := by
  rw [OccursIn, String.toList_append]
  exact List.IsInfix.trans h (List.suffix_append _ _).isInfix

theorem isLetter_of_mem_natText {n : Nat} {c : Char} (h : c ∈ Number.natText n) :
    isLetter c = false := by
  have hdigit : ∀ d < 10, isLetter (Number.digitChar d) = false := by decide
  fun_induction Number.natText n with
  | case1 n hn =>
    rw [List.mem_singleton.1 h]
    exact hdigit n hn
  | case2 n hn ih =>
    rcases List.mem_append.1 h with hhigh | hlow
    · exact ih hhigh
    · rw [List.mem_singleton.1 hlow]
      exact hdigit (n % 10) (Nat.mod_lt n (by decide))

namespace IsWord

theorem ne_nil (h : IsWord w) : w ≠ [] :=
  List.ne_nil_of_length_pos (Nat.lt_of_lt_of_le (by decide) h.long)

theorem not_mem (h : IsWord w) {c : Char} (hc : isLetter c = false) : c ∉ w := by
  intro hmem
  rw [h.letters c hmem] at hc
  cases hc

theorem infix_of_infix_cons (h : IsWord w) {c : Char} (hc : isLetter c = false)
    (hw : w <:+: c :: b) : w <:+: b := by
  rcases List.infix_cons_iff.1 hw with hhead | hin
  · cases w with
    | nil => exact absurd rfl h.ne_nil
    | cons d w =>
      obtain ⟨rfl, -⟩ := List.cons_prefix_cons.1 hhead
      exact absurd List.mem_cons_self (h.not_mem hc)
  · exact hin

theorem infix_append_cons (h : IsWord w) {c : Char} (hc : isLetter c = false)
    (hw : w <:+: a ++ c :: b) : w <:+: a ∨ w <:+: b := by
  induction a with
  | nil => exact .inr (h.infix_of_infix_cons hc hw)
  | cons d a ih =>
    rcases List.infix_cons_iff.1 hw with hhead | hin
    -- A word that begins here and gets past the first text holds the separator.
    · have ha : d :: a <+: d :: (a ++ c :: b) := List.prefix_append (d :: a) (c :: b)
      rcases List.prefix_or_prefix_of_prefix hhead ha with hwa | ⟨more, rfl⟩
      · exact .inl hwa.isInfix
      · cases more with
        | nil => exact .inl (by simp)
        | cons e more =>
          obtain ⟨rfl, -⟩ := List.cons_prefix_cons.1 ((List.prefix_append_right_inj _).1 hhead)
          exact absurd (by simp) (h.not_mem hc)
    · exact (ih hin).imp_left fun ha => ha.trans (List.suffix_cons d a).isInfix

theorem not_occursIn_of_letters (h : IsWord w) (hs : s.toList.countP isLetter < 5) :
    ¬ OccursIn w s := fun hw => by
  have hletters : w.countP isLetter = w.length := List.countP_eq_length.2 h.letters
  have hle : w.length ≤ s.toList.countP isLetter := hletters ▸ hw.sublist.countP_le
  exact absurd (h.long.trans hle) (Nat.not_le.2 hs)

theorem not_occursIn_of_length (h : IsWord w) (hs : s.length < 5) : ¬ OccursIn w s :=
  h.not_occursIn_of_letters (List.countP_le_length.trans_lt hs)

theorem not_occursIn_natString (h : IsWord w) (n : Nat) : ¬ OccursIn w (Number.natString n) := by
  refine h.not_occursIn_of_letters ?_
  rw [Number.natString, String.toList_ofList, List.countP_eq_zero.2]
  · decide
  · intro c hc
    rw [isLetter_of_mem_natText hc]
    exact Bool.false_ne_true

end IsWord

inductive Part
  | fixed (s : String)
  | inserted (s : String)

namespace Part

def text : Part → String
  | .fixed s => s
  | .inserted s => s

def opens : Part → Bool
  | .fixed s => s.toList.head?.any fun c => !isLetter c
  | .inserted _ => false

def closes : Part → Bool
  | .fixed s => s.toList.getLast?.any fun c => !isLetter c
  | .inserted _ => false

def render : List Part → String
  | [] => ""
  | [p] => p.text
  | p :: ps => p.text ++ render ps

/-- Fixed text without a letter stands wherever two parts of a message meet. -/
def areApart : List Part → Bool
  | p :: q :: ps => (p.closes || q.opens) && areApart (q :: ps)
  | _ => true

def fixed? : Part → Option String
  | .fixed s => some s
  | .inserted _ => none

def inserted? : Part → Option String
  | .fixed _ => none
  | .inserted s => some s

def fixedTexts (ps : List Part) : List String := ps.filterMap fixed?

def insertedTexts (ps : List Part) : List String := ps.filterMap inserted?

variable {p q : Part} {ps : List Part}

theorem insertedTexts_append (ps qs : List Part) :
    insertedTexts (ps ++ qs) = insertedTexts ps ++ insertedTexts qs :=
  List.filterMap_append

theorem render_cons (p : Part) (ps : List Part) : render (p :: ps) = p.text ++ render ps := by
  cases ps with
  | nil => exact String.append_empty.symm
  | cons q ps => rfl

theorem render_append (ps qs : List Part) : render (ps ++ qs) = render ps ++ render qs := by
  induction ps with
  | nil => exact String.empty_append.symm
  | cons p ps ih => rw [List.cons_append, render_cons, render_cons, ih, String.append_assoc]

theorem areApart_append (hps : areApart ps = true) (hq : q.opens = true)
    (hqs : areApart (q :: qs) = true) : areApart (ps ++ q :: qs) = true := by
  induction ps with
  | nil => exact hqs
  | cons p ps ih =>
    cases ps with
    | nil => exact Bool.and_eq_true_iff.2 ⟨Bool.or_eq_true_iff.2 (.inr hq), hqs⟩
    | cons r ps =>
      obtain ⟨hpr, hrest⟩ := Bool.and_eq_true_iff.1 hps
      exact Bool.and_eq_true_iff.2 ⟨hpr, ih hrest⟩

theorem exists_of_opens (h : p.opens = true) :
    ∃ c cs, p.text.toList = c :: cs ∧ isLetter c = false := by
  cases p with
  | inserted s => cases h
  | fixed s =>
    obtain ⟨c, hhead, hc⟩ := (Option.any_eq_true _ _).1 h
    obtain ⟨cs, hcs⟩ := List.head?_eq_some_iff.1 hhead
    exact ⟨c, cs, hcs, by simpa using hc⟩

theorem exists_of_closes (h : p.closes = true) :
    ∃ cs c, p.text.toList = cs ++ [c] ∧ isLetter c = false := by
  cases p with
  | inserted s => cases h
  | fixed s =>
    obtain ⟨c, hlast, hc⟩ := (Option.any_eq_true _ _).1 h
    obtain ⟨cs, hcs⟩ := List.getLast?_eq_some_iff.1 hlast
    exact ⟨cs, c, hcs, by simpa using hc⟩

theorem occursIn_append_of_apart (ps : List Part) (hw : IsWord w)
    (h : (p.closes || q.opens) = true) (hoccurs : OccursIn w (p.text ++ render (q :: ps))) :
    OccursIn w p.text ∨ OccursIn w (render (q :: ps)) := by
  rw [OccursIn, String.toList_append] at hoccurs
  rcases Bool.or_eq_true_iff.1 h with hcloses | hopens
  · obtain ⟨cs, c, hcs, hc⟩ := exists_of_closes hcloses
    rw [hcs, List.append_assoc] at hoccurs
    refine (hw.infix_append_cons hc hoccurs).imp_left fun hin => ?_
    rw [OccursIn, hcs]
    exact hin.trans (List.prefix_append _ _).isInfix
  · obtain ⟨c, cs, hcs, hc⟩ := exists_of_opens hopens
    have hrest : (render (q :: ps)).toList = c :: (cs ++ (render ps).toList) := by
      rw [render_cons, String.toList_append, hcs, List.cons_append]
    rw [hrest] at hoccurs
    refine (hw.infix_append_cons hc hoccurs).imp_right fun hin => ?_
    rw [OccursIn, hrest]
    exact hin.trans (List.suffix_cons _ _).isInfix

theorem occursIn_after (hw : IsWord w) (hs : (fixed s).closes = true) (hfixed : ¬ OccursIn w s) :
    OccursIn w (s ++ t) ↔ OccursIn w t := by
  refine ⟨fun hoccurs => ?_, occursIn_append_right⟩
  have hapart : ((fixed s).closes || (inserted t).opens) = true := Bool.or_eq_true_iff.2 (.inl hs)
  exact (occursIn_append_of_apart [] hw hapart hoccurs).resolve_left hfixed

theorem occursIn_before (hw : IsWord w) (ht : (fixed t).opens = true) (hfixed : ¬ OccursIn w t) :
    OccursIn w (s ++ t) ↔ OccursIn w s := by
  refine ⟨fun hoccurs => ?_, occursIn_append_left⟩
  have hapart : ((inserted s).closes || (fixed t).opens) = true := Bool.or_eq_true_iff.2 (.inr ht)
  exact (occursIn_append_of_apart [] hw hapart hoccurs).resolve_right hfixed

theorem occursIn_render_iff (hw : IsWord w) (h : areApart ps = true) :
    OccursIn w (render ps) ↔ ∃ p ∈ ps, OccursIn w p.text := by
  induction ps with
  | nil => simpa [render] using hw.not_occursIn_of_length (by decide : "".length < 5)
  | cons p ps ih =>
    cases ps with
    | nil => simp [render]
    | cons q ps =>
      obtain ⟨hapart, hrest⟩ := Bool.and_eq_true_iff.1 h
      rw [List.exists_mem_cons_iff, ← ih hrest]
      constructor
      · exact occursIn_append_of_apart ps hw hapart
      · rintro (hleft | hright)
        · exact occursIn_append_left hleft
        · exact occursIn_append_right hright

theorem occursIn_render_iff_inserted (hw : IsWord w) (h : areApart ps = true)
    (hfixed : ∀ s ∈ fixedTexts ps, ¬ OccursIn w s) :
    OccursIn w (render ps) ↔ ∃ s ∈ insertedTexts ps, OccursIn w s := by
  rw [occursIn_render_iff hw h]
  constructor
  · rintro ⟨p, hp, hoccurs⟩
    cases p with
    | fixed s => exact absurd hoccurs (hfixed s (List.mem_filterMap.2 ⟨_, hp, rfl⟩))
    | inserted s => exact ⟨s, List.mem_filterMap.2 ⟨_, hp, rfl⟩, hoccurs⟩
  · rintro ⟨s, hs, hoccurs⟩
    obtain ⟨p, hp, hps⟩ := List.mem_filterMap.1 hs
    cases p with
    | fixed t => cases hps
    | inserted t =>
      cases hps
      exact ⟨_, hp, hoccurs⟩

end Part

end PatternGuard.Text
