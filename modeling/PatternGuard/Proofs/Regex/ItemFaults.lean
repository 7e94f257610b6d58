import Mathlib
import PatternGuard.Proofs.Regex.Origin

namespace PatternGuard.Regex

open Source

variable {ts : List Token} {s : Source}

theorem hexValue?_lt {c : Char} {n : Nat} (h : Number.hexValue? c = some n) : n < 16 := by
  simp only [Number.hexValue?, Bool.and_eq_true, decide_eq_true_eq] at h
  split_ifs at h <;> simp only [Option.some.injEq] at h <;> omega

theorem valueIn_lt (ds : List Char) : valueIn 16 ds < 16 ^ ds.length := by
  induction ds using List.reverseRecOn with
  | nil => decide
  | append_singleton ds d ih =>
    have hd : (Number.hexValue? d).getD 0 < 16 := by
      cases h : Number.hexValue? d with
      | none => decide
      | some n => exact hexValue?_lt h
    have hvalue : valueIn 16 (ds ++ [d]) = 16 * valueIn 16 ds + (Number.hexValue? d).getD 0 := by
      simp [valueIn]
    rw [hvalue, List.length_append, List.length_singleton, pow_succ]
    omega

theorem escape_isInfix {c : Char} {ds : List Char} {after : Source}
    (h : .escape c :: s.rest <:+ ts) (hrest : s.rest = ds.map .char ++ after.rest) :
    .escape c :: ds.map .char <:+: ts := by
  obtain ⟨before, rfl⟩ := h
  rw [hrest, ← List.cons_append]
  exact List.infix_append' _ _ _

theorem within_of_cons {t : Token} (h : t :: s.rest <:+ ts) : s.Within ts :=
  List.IsSuffix.trans (List.suffix_cons _ _) h

theorem hexCode_keeps {c : Char} {count : Nat} (h : .escape c :: s.rest <:+ ts)
    (hcount : count ≤ 4 ∨ c = 'U' ∧ count = 8) :
    KeepsTo ts (hexCode c count s) fun r => r.2.Within ts := by
  refine (takeWhile_keeps s isHexDigit count).bind ?_
  rintro ⟨ds, after⟩ ⟨hrest, hdigits, hlength⟩
  have hin := escape_isInfix h hrest
  have hsmall : count ≤ 4 → valueIn 16 ds < 0x10000 := fun hc =>
    (valueIn_lt ds).trans_le (Nat.pow_le_pow_right (by decide) (hlength.trans hc))
  dsimp only at hlength ⊢
  split_ifs with hshort hhuge hlarge
  · have hds : ds.length < count := lt_of_le_of_ne hlength (by simpa using hshort)
    exact ⟨c, ds, rfl, hin, hcount.imp hds.trans_le And.left⟩
  -- Only eight digits can spell what is no code point.
  · obtain ⟨rfl, rfl⟩ := hcount.resolve_left fun hc => by have := hsmall hc; omega
    exact ⟨ds, hin, by simpa using hshort, hdigits, hhuge⟩
  · obtain ⟨rfl, rfl⟩ := hcount.resolve_left fun hc => by have := hsmall hc; omega
    exact ⟨'U', ds, rfl, hin, .inr rfl⟩
  · exact (within_of_cons h).next hrest

theorem namedCode_keeps [Interpreter] (h : s.Within ts) :
    KeepsTo ts (namedCode s) fun r => r.2.Within ts := by
  refine (accept_keeps s _).bind ?_
  rintro ⟨found, opened⟩ hopened
  dsimp only at hopened ⊢
  split_ifs
  · exact (by decide : "\x7b" ∈ expectations)
  · refine (name_keeps (by decide) _ (h.next hopened)).bind ?_
    rintro ⟨name, after⟩ ⟨hname, hafter⟩
    dsimp only
    split
    · exact hafter
    · simpa [Source.fault, Fault.ArisesIn, Cause.ArisesIn] using hname

theorem plainEscape_keeps {c : Char} (h : .escape c :: s.rest <:+ ts) :
    KeepsTo ts (plainEscape c s) fun r => r.2.Within ts := by
  unfold plainEscape
  split_ifs
  · exact ⟨c, [], rfl, escape_isInfix h rfl, .inl (by decide)⟩
  · exact within_of_cons h

theorem codeEscape?_keeps [Interpreter] {c : Char} (h : .escape c :: s.rest <:+ ts)
    {r : Except Fault (Nat × Source)} (hr : codeEscape? c s = some r) :
    KeepsTo ts r fun r => r.2.Within ts := by
  unfold codeEscape? at hr
  split at hr <;> cases hr
  · exact hexCode_keeps h (.inl (by decide))
  · exact hexCode_keeps h (.inl (by decide))
  · exact hexCode_keeps h (.inr ⟨rfl, rfl⟩)
  · exact namedCode_keeps (within_of_cons h)

theorem octalCode_keeps {c : Char} {ds : List Char} (hds : ds.length ≤ 2) (h : s.Within ts) :
    KeepsTo ts (octalCode c ds s) fun r => r.2.Within ts := by
  unfold octalCode
  dsimp only
  split_ifs
  · rw [keepsTo_error, Source.fault, Fault.ArisesIn, Cause.ArisesIn, spelled, String.length_ofList]
    exact Nat.add_le_add_right hds 2
  · exact h

theorem setEscape_keeps [Interpreter] {c : Char} (h : .escape c :: s.rest <:+ ts) :
    KeepsTo ts (setEscape c s) fun r => r.2.Within ts := by
  unfold setEscape
  split
  · exact within_of_cons h
  · exact within_of_cons h
  · dsimp only
    split
    · rename_i hr
      exact (codeEscape?_keeps h hr).bind fun r hr => hr
    · split_ifs
      · refine (takeWhile_keeps s _ _).bind ?_
        rintro ⟨ds, after⟩ ⟨hrest, -, hlength⟩
        exact (octalCode_keeps hlength ((within_of_cons h).next hrest)).bind fun r hr => hr
      · exact (plainEscape_keeps h).bind fun r hr => hr

theorem checkLookbehind_keeps (g : Groups) (n : Nat) (s : Source) :
    KeepsTo ts (g.checkLookbehind n s) fun _ => True := by
  unfold Groups.checkLookbehind
  split
  · trivial
  · split_ifs <;> trivial

theorem numberedReference_keeps (g : Groups) (ds : List Char) (h : s.Within ts) :
    KeepsTo ts (numberedReference g ds s) fun r => r.2.Within ts := by
  unfold numberedReference
  dsimp only
  split_ifs
  · trivial
  · trivial
  · exact (checkLookbehind_keeps g _ s).bind fun _ _ => h

theorem digitEscape_keeps (g : Groups) (c : Char) (h : s.Within ts) :
    KeepsTo ts (digitEscape g c s) fun r => r.2.Within ts := by
  refine (takeWhile_keeps s _ _).bind ?_
  rintro ⟨more, after⟩ ⟨hrest, -, -⟩
  have hafter := h.next hrest
  dsimp only
  split
  · exact numberedReference_keeps g _ hafter
  · split_ifs
    · refine (takeWhile_keeps after _ _).bind ?_
      rintro ⟨last, final⟩ ⟨hlast, -, hlength⟩
      have hfinal := hafter.next hlast
      dsimp only at hlength ⊢
      split
      · exact numberedReference_keeps g _ hfinal
      · exact (octalCode_keeps (by simp) hfinal).bind fun r hr => hr
    · exact numberedReference_keeps g _ hafter

theorem nodeEscape_keeps [Interpreter] (g : Groups) {c : Char} (h : .escape c :: s.rest <:+ ts) :
    KeepsTo ts (nodeEscape g c s) fun r => r.2.Within ts := by
  unfold nodeEscape
  split
  · exact within_of_cons h
  · exact within_of_cons h
  · exact within_of_cons h
  · split
    · rename_i hr
      exact (codeEscape?_keeps h hr).map fun r hr => hr
    · split_ifs
      · refine (takeWhile_keeps s _ _).bind ?_
        rintro ⟨ds, after⟩ ⟨hrest, -, -⟩
        exact (within_of_cons h).next hrest
      · exact digitEscape_keeps g c (within_of_cons h)
      · exact (plainEscape_keeps h).map fun r hr => hr

theorem Token.length_shown (t : Token) : t.shown.length ≤ 2 := by
  rw [shown, String.length_ofList]
  cases t <;> simp [text]

namespace Bracket

theorem member_keeps [Interpreter] {t : Token} (h : t :: s.rest <:+ ts) :
    KeepsTo ts (member t s) fun r => r.2.Within ts := by
  cases t with
  | char c => exact within_of_cons h
  | escape c => exact setEscape_keeps h
  | dangling => exact within_of_cons h

theorem range_keeps (low high : Token) (a b : SetItem) (s : Source) :
    KeepsTo ts (range low high a b s) fun _ => True := by
  have hshort : Cause.ArisesIn ts (.badRange low.shown high.shown) :=
    ⟨low.length_shown, high.length_shown⟩
  unfold range
  dsimp only
  split
  · split_ifs
    · exact hshort
    · trivial
  · exact hshort

theorem members_keeps [Interpreter] (start fuel : Nat) (seen : List SetItem) (h : s.Within ts) :
    KeepsTo ts (members start fuel seen s) fun r => r.2.Within ts := by
  induction fuel generalizing seen s with
  | zero => trivial
  | succ fuel ih =>
    refine (take_keeps s).bind ?_
    rintro ⟨_ | t, after⟩ hrest
    · trivial
    · dsimp only
      split_ifs
      · exact h.next hrest
      · refine (member_keeps (h.cons hrest)).bind ?_
        rintro ⟨a, after⟩ hafter
        refine (accept_keeps after '-').bind ?_
        rintro ⟨hyphen, after'⟩ hhyphen
        have hafter' := hafter.next hhyphen
        dsimp only
        split_ifs
        · exact ih _ hafter'
        · refine (take_keeps after').bind ?_
          rintro ⟨_ | u, last⟩ hlast
          · trivial
          · dsimp only
            split_ifs
            · exact hafter'.next hlast
            · refine (member_keeps (hafter'.cons hlast)).bind ?_
              rintro ⟨b, final⟩ hfinal
              exact (range_keeps t u a b final).bind fun r _ => ih _ hfinal

theorem read_keeps [Interpreter] (start : Nat) (h : s.Within ts) :
    KeepsTo ts (read start s) fun r => r.2.Within ts := by
  refine (accept_keeps s '^').bind ?_
  rintro ⟨negated, after⟩ hrest
  exact (members_keeps start _ [] (h.next hrest)).bind fun r hr => hr

end Bracket

namespace Quantifier

def Run (ts : List Token) (ds : List Char) : Prop :=
  ds.map .char <:+: ts ∧ ∀ d ∈ ds, Number.isDigit d = true

theorem count_keeps {ds : List Char} (h : Run ts ds) : KeepsTo ts (count ds) fun _ => True := by
  unfold count
  split_ifs with hlong hhuge
  · trivial
  · exact ⟨ds, h.1, h.2, hhuge⟩
  · trivial

theorem bounds_keeps (here : Nat) {lo hi : List Char} (hlo : Run ts lo) (hhi : Run ts hi) :
    KeepsTo ts (bounds here lo hi) fun _ => True := by
  have hmost : ∀ least : Nat, KeepsTo ts
      (if hi.isEmpty then pure (least, none)
      else do
        let most ← count hi
        if most < least then .error (.syntaxAt .crossedRepeat here)
        else pure (least, some most)) fun _ => True := by
    intro least
    split_ifs
    · trivial
    · refine (count_keeps hhi).bind fun most _ => ?_
      split_ifs <;> trivial
  by_cases h : lo.isEmpty = true
  · simp only [bounds, h, if_true]
    exact hmost 0
  · simp only [bounds, h]
    exact (count_keeps hlo).bind fun least _ => hmost least

theorem digits_keeps (h : s.Within ts) :
    KeepsTo ts (digits s) fun r => Run ts r.1 ∧ r.2.Within ts :=
  (takeWhile_keeps s _ _).mono fun _ hr => ⟨⟨h.isInfix hr.1, hr.2.1⟩, h.next hr.1⟩

theorem braces_keeps (h : s.Within ts) : KeepsTo ts (braces s) fun r => r.2.Within ts := by
  unfold braces
  split_ifs
  · exact h
  · refine (digits_keeps h).bind ?_
    rintro ⟨lo, after⟩ ⟨hlo, hafter⟩
    refine (accept_keeps after ',').bind ?_
    rintro ⟨comma, rest⟩ hcomma
    have hrest := hafter.next hcomma
    have hclose : ∀ r : List Char × Source, Run ts r.1 ∧ r.2.Within ts → KeepsTo ts
        (do
          let closed ← r.2.accept '\x7d'
          if !closed.1 then pure (none, s)
          else do
            let b ← bounds s.position lo r.1
            pure (some b, closed.2)) fun r : Counts × Source => r.2.Within ts := by
      rintro ⟨hi, after⟩ ⟨hhi, hafter⟩
      refine (accept_keeps after _).bind ?_
      rintro ⟨closed, last⟩ hlast
      dsimp only
      split_ifs
      · exact h
      · exact (bounds_keeps s.position hlo hhi).bind fun _ _ => hafter.next hlast
    cases comma with
    | true => exact (digits_keeps hrest).bind hclose
    | false => exact hclose (lo, rest) ⟨hlo, hrest⟩

theorem counts_keeps (c : Char) (h : s.Within ts) :
    KeepsTo ts (counts c s) fun r => r.2.Within ts := by
  unfold counts
  split
  · exact h
  · exact h
  · exact h
  · exact braces_keeps h

theorem greed_keeps (h : s.Within ts) : KeepsTo ts (greed s) fun r => r.2.Within ts := by
  refine (accept_keeps s '?').bind ?_
  rintro ⟨found, after⟩ hrest
  dsimp only
  split_ifs
  · exact h.next hrest
  · refine (accept_keeps s '+').bind ?_
    rintro ⟨found, last⟩ hlast
    exact h.next hlast

theorem apply_keeps (start least : Nat) (most : Option Nat) (items : List Node)
    (h : s.Within ts) :
    KeepsTo ts (apply start least most items s) fun r => r.2.Within ts := by
  unfold apply
  split
  · trivial
  · split_ifs
    · trivial
    · trivial
    · exact (greed_keeps h).bind fun r hr => hr

end Quantifier

namespace InlineFlags

theorem strange_arises {expected : String} (h : expected ∈ expectations) (t : Token) (s : Source) :
    (strange expected t s).ArisesIn ts := by
  unfold strange
  cases t with
  | char c =>
    dsimp only
    split_ifs
    · trivial
    · exact h
  | escape c => exact h
  | dangling => exact h

theorem turnedOn_keeps (fuel : Nat) (f : Flag) (on : FlagSet) (h : s.Within ts) :
    KeepsTo ts (turnedOn fuel f on s) fun r => r.2.2.Within ts := by
  have hstarts : startsOn ∈ expectations := by decide
  induction fuel generalizing f on s with
  | zero => exact hstarts
  | succ fuel ih =>
    unfold turnedOn
    split_ifs
    · trivial
    · trivial
    · refine (take_keeps s).bind ?_
      rintro ⟨_ | t, after⟩ hrest
      · exact hstarts
      · have hafter := h.next hrest
        dsimp only
        split_ifs
        · exact hafter
        · exact hafter
        · exact hafter
        · split
          · exact ih _ _ hafter
          · exact strange_arises hstarts t after

theorem turnedOff_keeps (fuel : Nat) (f : Flag) (off : FlagSet) (h : s.Within ts) :
    KeepsTo ts (turnedOff fuel f off s) fun r => r.2.Within ts := by
  have hcolon : ":" ∈ expectations := by decide
  induction fuel generalizing f off s with
  | zero => exact hcolon
  | succ fuel ih =>
    unfold turnedOff
    split_ifs
    · trivial
    · refine (take_keeps s).bind ?_
      rintro ⟨_ | t, after⟩ hrest
      · exact hcolon
      · have hafter := h.next hrest
        dsimp only
        split_ifs
        · exact hafter
        · split
          · exact ih _ _ hafter
          · exact strange_arises hcolon t after

theorem afterHyphen_keeps (h : s.Within ts) :
    KeepsTo ts (afterHyphen s) fun r => r.2.Within ts := by
  have hflag : "flag" ∈ expectations := by decide
  refine (take_keeps s).bind ?_
  rintro ⟨_ | t, after⟩ hrest
  · exact hflag
  · dsimp only
    split
    · exact turnedOff_keeps _ _ _ (h.next hrest)
    · exact strange_arises hflag t after

theorem read_keeps (first : Option Flag) (h : s.Within ts) :
    KeepsTo ts (read first s) fun r => r.2.Within ts := by
  have hscoped : ∀ (on : FlagSet) (r : FlagSet × Source), r.2.Within ts → KeepsTo ts
      (if r.1.toList.any Flag.isGlobal then .error (r.2.fault .globalFlagOff 1)
      else if on.toList.any r.1.has then .error (r.2.fault .flagOnAndOff 1)
      else pure (.scoped on r.1, r.2)) fun r : InlineFlags × Source => r.2.Within ts := by
    intro on r hr
    split_ifs
    · trivial
    · trivial
    · exact hr
  have hoff : ∀ r : FlagSet × Char × Source, r.2.2.Within ts → KeepsTo ts
      (if r.2.1 == ')' then pure (.global r.1, r.2.2)
      else if r.1.toList.any Flag.isGlobal then .error (r.2.2.fault .globalFlagOn 1)
      else do
        let off ← if r.2.1 == '-' then afterHyphen r.2.2 else pure (0, r.2.2)
        if off.1.toList.any Flag.isGlobal then .error (off.2.fault .globalFlagOff 1)
        else if r.1.toList.any off.1.has then .error (off.2.fault .flagOnAndOff 1)
        else pure (.scoped r.1 off.1, off.2)) fun r : InlineFlags × Source => r.2.Within ts := by
    rintro ⟨on, stop, after⟩ hafter
    dsimp only
    split_ifs
    · exact hafter
    · trivial
    · exact (afterHyphen_keeps hafter).bind (hscoped on)
    · exact hscoped on (0, after) hafter
  unfold read
  cases first with
  | some f => exact (turnedOn_keeps _ f 0 h).bind hoff
  | none => exact hoff (0, '-', s) h

end InlineFlags

end PatternGuard.Regex
