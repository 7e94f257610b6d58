import Mathlib
import PatternGuard.Proofs.Regex.ReaderFaults
import PatternGuard.Proofs.Text.Word

namespace PatternGuard.Regex

open Text (Part IsWord OccursIn)

def Cause.parts : Cause → List Part
  | .badEscape e => [.fixed "bad escape ", .inserted e]
  | .incompleteEscape e => [.fixed "incomplete escape ", .inserted e]
  | .octalTooLarge e =>
    [.fixed "octal escape value ", .inserted e, .fixed " outside of range 0-0o377"]
  | .missing what => [.fixed "missing ", .inserted what]
  | .unterminatedName t => [.fixed "missing ", .inserted t, .fixed ", unterminated name"]
  | .undefinedName n => [.fixed "undefined character name ", .inserted (Text.quoted n)]
  | .unknownReference g => [.fixed "invalid group reference ", .inserted (Number.natString g)]
  | .badRange low high =>
    [.fixed "bad character range ", .inserted low, .fixed "-", .inserted high]
  | .unknownExtension t => [.fixed "unknown extension ?", .inserted t]
  | .badGroupName n => [.fixed "bad character in group name ", .inserted (Text.quoted n)]
  | .unknownGroupName n => [.fixed "unknown group name ", .inserted (Text.quoted n)]
  | .renamedGroup n g e =>
    [.fixed "redefinition of group name ", .inserted (Text.quoted n), .fixed " as group ",
      .inserted (Number.natString g), .fixed "; was group ", .inserted (Number.natString e)]
  | cause => [.fixed cause.message]

def lineParts (pattern : List Char) (position : Nat) : List Part :=
  if newlines pattern == 0 then []
  else
    let before := pattern.take position
    let column := (before.reverse.takeWhile (· != '\n')).length + 1
    [.fixed " (line ", .inserted (Number.natString (newlines before + 1)), .fixed ", column ",
      .inserted (Number.natString column), .fixed ")"]

def Fault.parts (pattern : List Char) : Fault → List Part
  | .syntaxAt cause position =>
    cause.parts ++ .fixed " at position " :: .inserted (Number.natString position) ::
      lineParts pattern position
  | .objection (.template op) =>
    [.fixed "internal: unsupported template operator ", .inserted op]
  | .longNumber n =>
    [.fixed "Exceeds the limit (", .inserted (Number.natString digitLimit),
      .fixed " digits) for integer string conversion: value has ", .inserted (Number.natString n),
      .fixed " digits; use sys.set_int_max_str_digits() to increase the limit"]
  | .tooDeep message => [.inserted message]
  | f => [.fixed (f.message [])]

theorem Cause.render_parts (cause : Cause) : Part.render cause.parts = cause.message := by
  cases cause with
  | octalTooLarge e =>
    change _ = "octal escape value " ++ e ++ " outside of range 0-0o377"
    rw [String.append_assoc]
    rfl
  | unterminatedName t =>
    change _ = "missing " ++ t ++ ", unterminated name"
    rw [String.append_assoc]
    rfl
  | badRange low high =>
    change _ = "bad character range " ++ low ++ "-" ++ high
    rw [String.append_assoc, String.append_assoc]
    rfl
  | renamedGroup n g e =>
    change _ = "redefinition of group name " ++ Text.quoted n ++ " as group " ++
      Number.natString g ++ "; was group " ++ Number.natString e
    rw [String.append_assoc, String.append_assoc, String.append_assoc, String.append_assoc]
    rfl
  | _ => rfl

theorem Cause.areApart_parts (cause : Cause) : Part.areApart cause.parts = true := by
  cases cause <;> rfl

theorem render_lineParts (pattern : List Char) (position : Nat) :
    Part.render (lineParts pattern position) = lineNote pattern position := by
  unfold lineParts lineNote
  split_ifs
  · rfl
  · simp only [Part.render, Part.text, String.append_assoc]

theorem areApart_lineParts (pattern : List Char) (position : Nat) (s : String) :
    Part.areApart (.inserted s :: lineParts pattern position) = true := by
  unfold lineParts
  split_ifs <;> rfl

theorem Fault.render_parts (pattern : List Char) (f : Fault) :
    Part.render (f.parts pattern) = f.message pattern := by
  cases f with
  | syntaxAt cause position =>
    change Part.render (cause.parts ++ _) = cause.message ++ " at position " ++
      Number.natString position ++ lineNote pattern position
    rw [Part.render_append, Part.render_cons, Part.render_cons, cause.render_parts,
      render_lineParts, String.append_assoc, String.append_assoc]
    rfl
  | objection o => cases o <;> rfl
  | longNumber n =>
    change _ = "Exceeds the limit (" ++ Number.natString digitLimit
      ++ " digits) for integer string conversion: value has " ++ Number.natString n
      ++ " digits; use sys.set_int_max_str_digits() to increase the limit"
    rw [String.append_assoc, String.append_assoc, String.append_assoc]
    rfl
  | _ => rfl

theorem Fault.areApart_parts (pattern : List Char) (f : Fault) :
    Part.areApart (f.parts pattern) = true := by
  cases f with
  | syntaxAt cause position =>
    refine Part.areApart_append cause.areApart_parts rfl ?_
    exact Bool.and_eq_true_iff.2 ⟨rfl, areApart_lineParts pattern position _⟩
  | objection o => cases o <;> rfl
  | _ => rfl

def Cause.name? : Cause → Option String
  | .undefinedName n | .badGroupName n | .unknownGroupName n | .renamedGroup n _ _ => some n
  | _ => none

def Cause.escape? : Cause → Option String
  | .badEscape e | .incompleteEscape e => some e
  | _ => none

inductive Fault.Shows (pattern : List Char) : Fault → String → Prop
  | name {cause : Cause} {n : String} (position : Nat) (hname : cause.name? = some n)
    (hpattern : n.toList <:+: pattern) : Shows pattern (.syntaxAt cause position) (Text.quoted n)
  | codePoint {cause : Cause} {ds : List Char} (position : Nat)
    (hescape : cause.escape? = some (spelled 'U' ds)) (hpattern : '\\' :: 'U' :: ds <:+: pattern) :
    Shows pattern (.syntaxAt cause position) (spelled 'U' ds)
  | operator (g : Greed) : Shows pattern (.objection (.template g.operator)) g.operator

def Fault.FixedText (s : String) : Prop :=
  ∃ (pattern : List Char) (f : Fault), s ∈ Part.fixedTexts (f.parts pattern)

variable {pattern : List Char} {f : Fault} {w : List Char} {s : String}

theorem Cause.fixedText_of_mem (cause : Cause) (h : s ∈ Part.fixedTexts cause.parts) :
    Fault.FixedText s := by
  refine ⟨[], .syntaxAt cause 0, ?_⟩
  rw [Fault.parts, Part.fixedTexts, List.filterMap_append]
  exact List.mem_append_left _ h

theorem Fault.Shows.mem_insertedTexts (h : f.Shows pattern s) :
    s ∈ Part.insertedTexts (f.parts pattern) := by
  have hcause : ∀ (cause : Cause) (position : Nat), s ∈ Part.insertedTexts cause.parts →
      s ∈ Part.insertedTexts (Fault.parts pattern (.syntaxAt cause position)) := by
    intro cause position hs
    rw [parts, Part.insertedTexts_append]
    exact List.mem_append_left _ hs
  cases h with
  | @name cause n position hname hpattern =>
    refine hcause _ position ?_
    cases cause <;> cases hname <;> exact List.mem_cons_self
  | @codePoint cause ds position hescape hpattern =>
    refine hcause _ position ?_
    cases cause <;> cases hescape <;> exact List.mem_cons_self
  | operator g => exact List.mem_singleton_self _

theorem fixedText_of_expectation (hw : IsWord w) (h : s ∈ expectations) (hs : OccursIn w s) :
    ∃ t, Fault.FixedText t ∧ OccursIn w t := by
  simp only [expectations, List.mem_cons, List.not_mem_nil, or_false] at h
  rcases h with rfl | rfl | rfl | rfl | rfl | rfl
  · exact ⟨"bad character in group name ",
      Cause.fixedText_of_mem (.badGroupName "") List.mem_cons_self,
      hs.trans (by decide)⟩
  · exact ⟨"undefined character name ",
      Cause.fixedText_of_mem (.undefinedName "") List.mem_cons_self,
      hs.trans (by decide)⟩
  · exact absurd hs (hw.not_occursIn_of_letters (by decide))
  · exact absurd hs (hw.not_occursIn_of_letters (by decide))
  · exact absurd hs (hw.not_occursIn_of_letters (by decide))
  · exact absurd hs (hw.not_occursIn_of_letters (by decide))

theorem escape_of_occursIn {e : String} (hw : IsWord w)
    (h : Cause.ArisesIn (tokens pattern) (.badEscape e)) (he : OccursIn w e) :
    ∃ ds, e = spelled 'U' ds ∧ '\\' :: 'U' :: ds <:+: pattern := by
  obtain ⟨c, ds, rfl, hin, hshort | rfl⟩ := h
  · refine absurd he (hw.not_occursIn_of_letters ?_)
    rw [spelled, String.toList_ofList, List.countP_cons_of_neg (by decide)]
    exact List.countP_le_length.trans_lt (Nat.succ_lt_succ hshort)
  · exact ⟨ds, rfl, infix_of_escape hin⟩

theorem Cause.shows_of_occursIn {cause : Cause} (hw : IsWord w)
    (harises : cause.ArisesIn (tokens pattern)) (hs : s ∈ Part.insertedTexts cause.parts)
    (hoccurs : OccursIn w s) (position : Nat) :
    Fault.Shows pattern (.syntaxAt cause position) s ∨ ∃ t, Fault.FixedText t ∧ OccursIn w t := by
  have hshort : ¬ s.length < 5 := fun h => hw.not_occursIn_of_length h hoccurs
  have hnumber : ∀ n, s ≠ Number.natString n := by
    rintro n rfl
    exact hw.not_occursIn_natString n hoccurs
  -- Numbers and short texts have no room for a word, and what is missing the engine names itself;
  -- names and escapes are left.
  cases cause with
  | badEscape e =>
    obtain rfl := List.mem_singleton.1 hs
    obtain ⟨ds, rfl, hds⟩ := escape_of_occursIn hw harises hoccurs
    exact .inl (.codePoint position rfl hds)
  | incompleteEscape e =>
    obtain rfl := List.mem_singleton.1 hs
    obtain ⟨ds, rfl, hds⟩ := escape_of_occursIn hw harises hoccurs
    exact .inl (.codePoint position rfl hds)
  | octalTooLarge e =>
    obtain rfl := List.mem_singleton.1 hs
    exact absurd (Nat.lt_succ_of_le harises) hshort
  | missing what =>
    obtain rfl := List.mem_singleton.1 hs
    exact .inr (fixedText_of_expectation hw harises hoccurs)
  | unterminatedName t =>
    obtain rfl := List.mem_singleton.1 hs
    exact absurd (harises.trans_lt (by decide)) hshort
  | undefinedName n =>
    obtain rfl := List.mem_singleton.1 hs
    exact .inl (.name position rfl harises.isInfix)
  | unknownReference g => exact absurd (List.mem_singleton.1 hs) (hnumber g)
  | badRange low high =>
    rcases List.mem_pair.1 hs with rfl | rfl
    · exact absurd (harises.1.trans_lt (by decide)) hshort
    · exact absurd (harises.2.trans_lt (by decide)) hshort
  | unknownExtension t =>
    obtain rfl := List.mem_singleton.1 hs
    exact absurd (harises.trans_lt (by decide)) hshort
  | badGroupName n =>
    obtain rfl := List.mem_singleton.1 hs
    exact .inl (.name position rfl harises.isInfix)
  | unknownGroupName n =>
    obtain rfl := List.mem_singleton.1 hs
    exact .inl (.name position rfl harises.isInfix)
  | renamedGroup n g e =>
    rcases List.mem_cons.1 hs with rfl | hs
    · exact .inl (.name position rfl harises.isInfix)
    · rcases List.mem_pair.1 hs with hs | hs
      · exact absurd hs (hnumber g)
      · exact absurd hs (hnumber e)
  | _ => cases hs

theorem eq_natString_of_mem_lineParts {position : Nat}
    (h : s ∈ Part.insertedTexts (lineParts pattern position)) : ∃ n, s = Number.natString n := by
  unfold lineParts at h
  split_ifs at h
  · cases h
  · rcases List.mem_pair.1 h with rfl | rfl
    · exact ⟨_, rfl⟩
    · exact ⟨_, rfl⟩

theorem Fault.shows_of_occursIn [Interpreter] {source : String} {flags : FlagSet} (hw : IsWord w)
    (hcompile : Pattern.compile source flags = .error f) (hdeep : ∀ message, f ≠ .tooDeep message)
    (hs : s ∈ Part.insertedTexts (f.parts source.toList)) (hoccurs : OccursIn w s) :
    f.Shows source.toList s ∨ ∃ t, FixedText t ∧ OccursIn w t := by
  have hnumber : ∀ n, s ≠ Number.natString n := by
    rintro n rfl
    exact hw.not_occursIn_natString n hoccurs
  rcases Pattern.compile_error_cases hcompile with
    harises | ⟨o, rfl, hraised⟩ | ⟨rfl, -⟩ | ⟨rfl, -⟩ | ⟨message, rfl, -⟩
  · cases f with
    | syntaxAt cause position =>
      rw [parts, Part.insertedTexts_append, List.mem_append] at hs
      rcases hs with hs | hs
      · exact cause.shows_of_occursIn hw harises hs hoccurs position
      · rcases List.mem_cons.1 hs with hs | hs
        · exact absurd hs (hnumber position)
        · obtain ⟨n, hn⟩ := eq_natString_of_mem_lineParts hs
          exact absurd hn (hnumber n)
    | objection o => exact harises.elim
    | tooDeep message => exact harises.elim
    | longNumber n =>
      rcases List.mem_pair.1 hs with hs | hs
      · exact absurd hs (hnumber digitLimit)
      · exact absurd hs (hnumber n)
    | _ => cases hs
  · cases hraised with
    | lookbehindWidth => cases hs
    | template g =>
      obtain rfl := List.mem_singleton.1 hs
      exact .inl (.operator g)
  · cases hs
  · cases hs
  · exact absurd rfl (hdeep message)

theorem Fault.occursIn_message_iff [Interpreter] {source : String} {flags : FlagSet}
    (hw : IsWord w) (hfixed : ∀ t, FixedText t → ¬ OccursIn w t)
    (hcompile : Pattern.compile source flags = .error f) (hdeep : ∀ message, f ≠ .tooDeep message) :
    OccursIn w (f.message source.toList) ↔ ∃ s, f.Shows source.toList s ∧ OccursIn w s := by
  rw [← f.render_parts, Part.occursIn_render_iff_inserted hw (f.areApart_parts _)
    fun t ht => hfixed t ⟨_, f, ht⟩]
  constructor
  · rintro ⟨s, hs, hoccurs⟩
    rcases shows_of_occursIn hw hcompile hdeep hs hoccurs with hshows | ⟨t, ht, htext⟩
    · exact ⟨s, hshows, hoccurs⟩
    · exact absurd htext (hfixed t ht)
  · rintro ⟨s, hshows, hoccurs⟩
    exact ⟨s, hshows.mem_insertedTexts, hoccurs⟩

end PatternGuard.Regex
