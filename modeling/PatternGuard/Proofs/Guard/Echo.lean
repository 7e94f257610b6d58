import Mathlib
import PatternGuard.Proofs.Guard.Create
import PatternGuard.Proofs.Regex.Wording

namespace PatternGuard.Guard

open PatternGuard.Text (IsWord OccursIn)
open PatternGuard.Text.Part (fixedTexts occursIn_after occursIn_before)

inductive FixedText : String → Prop
  | length : FixedText "Pattern exceeds maximum length of "
  | signature (sig : Hazard.Signature) : FixedText sig.message
  | depth : FixedText "Pattern has excessive quantifier nesting depth ("
  | refusal : FixedText "Invalid regex syntax: "
  | invalidFlag : FixedText "invalid flag '"
  | duplicateFlag : FixedText "duplicate flag '"
  | engine {s : String} (h : Regex.Fault.FixedText s) : FixedText s

def shownFlag? : Modifier.Fault → Option String
  | .invalid s => some s
  | .duplicate s => some s
  | .unusable => none

/-- What the error of a rejection shows of the pattern or of the flags. -/
inductive Shown [Regex.Interpreter] (pattern : String) (flags : Value) : String → Prop
  | flag {f : Modifier.Fault} {s : String} (hflags : Modifier.flags flags = .error f)
    (hs : s ∈ shownFlag? f) : Shown pattern flags s
  | engine {bits : Regex.FlagSet} {f : Regex.Fault} {s : String}
    (hflags : Modifier.flags flags = .ok bits)
    (hcompile : Regex.Pattern.compile pattern bits = .error f)
    (hshows : f.Shows pattern.toList s) : Shown pattern flags s

-- Closed statements are about the standard interpreter, all others bind one of their own.
attribute [local instance] Regex.Interpreter.standard

variable {pattern : String} {flags : Value} {reason : Reason} {w : List Char}

theorem shown_iff_of_flags [Regex.Interpreter] {f : Modifier.Fault}
    (h : Modifier.flags flags = .error f) {s : String} :
    Shown pattern flags s ↔ s ∈ shownFlag? f := by
  refine ⟨?_, .flag h⟩
  rintro (⟨hflags, hs⟩ | ⟨hflags, -, -⟩)
  · rw [h] at hflags
    cases hflags
    exact hs
  · rw [h] at hflags
    cases hflags

theorem shown_iff_of_compile [Regex.Interpreter] {bits : Regex.FlagSet} {f : Regex.Fault}
    (h : Modifier.flags flags = .ok bits) (hf : Regex.Pattern.compile pattern bits = .error f)
    {s : String} : Shown pattern flags s ↔ f.Shows pattern.toList s := by
  refine ⟨?_, .engine h hf⟩
  rintro (⟨hflags, -⟩ | ⟨hflags, hcompile, hshows⟩)
  · rw [h] at hflags
    cases hflags
  · rw [h] at hflags
    cases hflags
    rw [hf] at hcompile
    cases hcompile
    exact hshows

section Words

variable (hw : IsWord w) (hfixed : ∀ s, FixedText s → ¬ OccursIn w s)

include hw hfixed

theorem not_occursIn_tooLongMessage (limit : Nat) : ¬ OccursIn w (tooLongMessage limit) := by
  intro h
  have hnumber := (occursIn_after hw (by decide) (hfixed _ .length)).1 h
  exact hw.not_occursIn_natString limit hnumber

theorem not_occursIn_depthMessage (depth : Nat) : ¬ OccursIn w (Hazard.depthMessage depth) := by
  intro h
  have hclosing : ¬ OccursIn w ")" := hw.not_occursIn_of_length (by decide)
  have hopening := (occursIn_before hw (by decide) hclosing).1 h
  have hnumber := (occursIn_after hw (by decide) (hfixed _ .depth)).1 hopening
  exact hw.not_occursIn_natString depth hnumber

theorem not_occursIn_of_flagged {message : String}
    (h : Hazard.analyze pattern.toList = .flagged reason message) : ¬ OccursIn w message := by
  rcases Hazard.eq_of_analyze_flagged h with ⟨sig, -, rfl⟩ | ⟨-, rfl⟩
  · exact hfixed _ (.signature sig)
  · exact not_occursIn_depthMessage hw hfixed _

theorem occursIn_flagMessage_iff (f : Modifier.Fault) :
    OccursIn w f.toFault.message ↔ ∃ s ∈ shownFlag? f, OccursIn w s := by
  have hquote : ¬ OccursIn w "'" := hw.not_occursIn_of_length (by decide)
  cases f with
  | invalid t =>
    have hmessage : OccursIn w ("invalid flag '" ++ t ++ "'") ↔ OccursIn w t :=
      (occursIn_before hw (by decide) hquote).trans
        (occursIn_after hw (by decide) (hfixed _ .invalidFlag))
    exact hmessage.trans (by simp [shownFlag?])
  | duplicate t =>
    have hmessage : OccursIn w ("duplicate flag '" ++ t ++ "'") ↔ OccursIn w t :=
      (occursIn_before hw (by decide) hquote).trans
        (occursIn_after hw (by decide) (hfixed _ .duplicateFlag))
    exact hmessage.trans (by simp [shownFlag?])
  | unusable =>
    have hempty : ¬ OccursIn w "" := hw.not_occursIn_of_length (by decide)
    exact iff_of_false hempty (by simp [shownFlag?])

theorem occursIn_refusal_iff [Regex.Interpreter] {f : Fault}
    (h : compile pattern flags = .error f) (hf : isRejection f = true) :
    OccursIn w (syntaxMessage f.message) ↔ ∃ s, Shown pattern flags s ∧ OccursIn w s := by
  refine (occursIn_after hw (by decide) (hfixed _ .refusal)).trans ?_
  rcases compile_error_cases h with ⟨g, hflags, rfl⟩ | ⟨bits, g, hflags, hcompile, rfl⟩
  · simp only [shown_iff_of_flags hflags]
    exact occursIn_flagMessage_iff hw hfixed g
  · simp only [shown_iff_of_compile hflags hcompile]
    refine Regex.Fault.occursIn_message_iff hw (fun t ht => hfixed t (.engine ht)) hcompile ?_
    rintro message rfl
    cases hf

end Words

def lacksLetter (c : Char) (texts : List String) : Bool :=
  texts.all fun s => s.toList.all (· != c)

theorem lacksLetter_cause (cause : Regex.Cause) :
    lacksLetter 'z' (fixedTexts cause.parts) = true := by
  cases cause with
  | badEscape e => rfl
  | incompleteEscape e => rfl
  | octalTooLarge e => rfl
  | missing what => rfl
  | unterminatedName t => rfl
  | undefinedName n => rfl
  | unknownReference g => rfl
  | badRange low high => rfl
  | unknownExtension t => rfl
  | badGroupName n => rfl
  | unknownGroupName n => rfl
  | renamedGroup n g e => rfl
  | _ => decide +kernel

theorem lacksLetter_fault (pattern : List Char) (f : Regex.Fault) :
    lacksLetter 'z' (fixedTexts (f.parts pattern)) = true := by
  cases f with
  | syntaxAt cause position =>
    rw [Regex.Fault.parts, fixedTexts, List.filterMap_append, lacksLetter, List.all_append]
    refine Bool.and_eq_true_iff.2 ⟨lacksLetter_cause cause, ?_⟩
    rw [Regex.lineParts]
    split_ifs <;> rfl
  | objection o => cases o <;> rfl
  | _ => rfl

theorem not_fixedText_citizen (s : String) (h : FixedText s) : ¬ OccursIn "citizen".toList s := by
  suffices hz : 'z' ∉ s.toList from fun hin => hz (hin.subset (by decide))
  cases h with
  | length => decide +kernel
  | signature sig => cases sig <;> decide +kernel
  | depth => decide +kernel
  | refusal => decide +kernel
  | invalidFlag => decide +kernel
  | duplicateFlag => decide +kernel
  | engine h =>
    obtain ⟨pattern, f, hs⟩ := h
    intro hz
    have hlacks := List.all_eq_true.1 (lacksLetter_fault pattern f) s hs
    have hne : ('z' != 'z') = true := List.all_eq_true.1 hlacks 'z' hz
    cases hne

theorem isWord_citizen : IsWord "citizen".toList :=
  ⟨List.all_eq_true.1 (by decide : "citizen".toList.all Text.isLetter = true), by decide⟩

/-- A word that no fixed text holds is in the error of a rejection just if `re.compile` or
`parse_flags` refused the call with a message that shows a name, an escape, an operator or a flag
with that word. -/
theorem error_holds_shown_words [Regex.Interpreter] (c : Config) (now : Int) (pattern : String)
    (flags : Value) (reason : Reason) (error : String) (w : List Char)
    (h : (create c now (.text pattern) flags).outcome = .ok (.rejected reason error))
    (hw : IsWord w) (hfixed : ∀ s, FixedText s → ¬ OccursIn w s) :
    OccursIn w error ↔
      reason = .invalidSyntax ∧ ∃ s, Shown pattern flags s ∧ OccursIn w s := by
  change (createText c now pattern flags).outcome = _ at h
  rcases createText_cases c now pattern flags with
    ⟨-, hblock⟩ | ⟨given, message, -, hflagged, hblock⟩ | ⟨-, -, haccept⟩
  · rw [hblock] at h
    obtain ⟨rfl, rfl⟩ := block_rejected h
    refine iff_of_false (not_occursIn_tooLongMessage hw hfixed _) ?_
    rintro ⟨⟨⟩, -⟩
  · rw [hblock] at h
    obtain ⟨rfl, rfl⟩ := block_rejected h
    refine iff_of_false (not_occursIn_of_flagged hw hfixed hflagged) ?_
    rintro ⟨rfl, -⟩
    exact absurd (mem_safetyReasons_of_analyze hflagged) (by decide)
  · rw [haccept] at h
    obtain ⟨rfl, f, hcompile, hf, rfl⟩ := accept_rejected_cases h
    rw [occursIn_refusal_iff hw hfixed hcompile hf]
    exact (and_iff_right rfl).symm

theorem error_holds_no_word_of_open_group :
    (create .standard 0 (.text "(citizen") .null).outcome = .ok (.rejected .invalidSyntax
      "Invalid regex syntax: missing ), unterminated subpattern at position 0") ∧
    IsWord "citizen".toList ∧ (∀ s, FixedText s → ¬ OccursIn "citizen".toList s) ∧
    ¬ ∃ s, Shown "(citizen" .null s ∧ OccursIn "citizen".toList s := by
  have herror : (create .standard 0 (.text "(citizen") .null).outcome =
      .ok (.rejected .invalidSyntax (syntaxMessage
        ((Regex.Fault.syntaxAt .unterminatedGroup 0).message "(citizen".toList))) := rfl
  have hmessage : syntaxMessage
      ((Regex.Fault.syntaxAt .unterminatedGroup 0).message "(citizen".toList) =
        "Invalid regex syntax: missing ), unterminated subpattern at position 0" := by
    decide +kernel
  rw [hmessage] at herror
  have hshown := error_holds_shown_words .standard 0 "(citizen" .null _ _ _ herror isWord_citizen
    not_fixedText_citizen
  refine ⟨herror, isWord_citizen, not_fixedText_citizen, fun h => ?_⟩
  exact absurd (hshown.2 ⟨rfl, h⟩) (by decide +kernel)

theorem error_echoes_group_name :
    IsWord "citizen".toList ∧ OccursIn "citizen".toList "(?P<citizen-id>a)" ∧
    (∀ s, FixedText s → ¬ OccursIn "citizen".toList s) ∧
    (create .standard 0 (.text "(?P<citizen-id>a)") .null).outcome = .ok (.rejected .invalidSyntax
      "Invalid regex syntax: bad character in group name 'citizen-id' at position 4") ∧
    OccursIn "citizen".toList
      "Invalid regex syntax: bad character in group name 'citizen-id' at position 4" := by
  have herror : (create .standard 0 (.text "(?P<citizen-id>a)") .null).outcome =
      .ok (.rejected .invalidSyntax (syntaxMessage
        ((Regex.Fault.syntaxAt (.badGroupName "citizen-id") 4).message
          "(?P<citizen-id>a)".toList))) := rfl
  have hmessage : syntaxMessage
      ((Regex.Fault.syntaxAt (.badGroupName "citizen-id") 4).message
        "(?P<citizen-id>a)".toList) =
        "Invalid regex syntax: bad character in group name 'citizen-id' at position 4" := by
    decide +kernel
  rw [hmessage] at herror
  exact ⟨isWord_citizen, by decide, not_fixedText_citizen, herror, by decide +kernel⟩

end PatternGuard.Guard
