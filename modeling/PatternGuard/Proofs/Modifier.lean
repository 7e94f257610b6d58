import Mathlib
import PatternGuard.Regex.Flag

namespace PatternGuard.Modifier

def names : List String := ["g", "i", "m", "s", "u", "y"]

/-- Letters as a caller passes them, in one text or as a list of texts. -/
inductive Writes : Value → List String → Prop
  | text (s : String) : Writes (.text s) (s.toList.map String.singleton)
  | list (ls : List String) : Writes (.list (ls.map .text)) ls

structure IsSet (ls : List String) : Prop where
  known : ∀ l ∈ ls, l ∈ names
  distinct : ls.Nodup

def FailsBehind (before : List String) (l : String) : Prop := l ∉ names ∨ l ∈ before

def bit (l : String) : Nat := (letters.lookup l).getD 0

def joined (ls : List String) : Nat := ls.foldr (fun l bits => bit l ||| bits) 0

variable {v w : Value} {l : String} {ls ms before after seen : List String} {bits : Nat}

theorem flags_of_writes (h : Writes v ls) :
    flags v = (parse (ls.map .letter)).map Int.ofNat := by
  cases h with
  | text s =>
    rw [List.map_map]
    rfl
  | list =>
    simp only [flags, items?, List.map_map]
    rfl

theorem lookup_letters (l : String) :
    letters.lookup l = if l ∈ names then some (bit l) else none := by
  split_ifs with hl
  · simp only [names, List.mem_cons, List.not_mem_nil, or_false] at hl
    rcases hl with rfl | rfl | rfl | rfl | rfl | rfl <;> rfl
  · rw [List.lookup_eq_none_iff]
    intro e he
    rw [bne_iff_ne]
    rintro rfl
    exact hl (List.mem_map_of_mem he)

theorem isSet_nil : IsSet [] := ⟨by simp, List.nodup_nil⟩

theorem isSet_cons_iff : IsSet (l :: ls) ↔ l ∈ names ∧ l ∉ ls ∧ IsSet ls := by
  constructor
  · rintro ⟨hknown, hdistinct⟩
    obtain ⟨hl, hls⟩ := List.forall_mem_cons.1 hknown
    obtain ⟨hnew, hdistinct⟩ := List.nodup_cons.1 hdistinct
    exact ⟨hl, hnew, hls, hdistinct⟩
  · rintro ⟨hl, hnew, hls, hdistinct⟩
    exact ⟨List.forall_mem_cons.2 ⟨hl, hls⟩, List.nodup_cons.2 ⟨hnew, hdistinct⟩⟩

theorem IsSet.perm (h : IsSet ls) (hperm : ms.Perm ls) : IsSet ms :=
  ⟨fun l hl => h.known l (hperm.subset hl), hperm.nodup_iff.2 h.distinct⟩

theorem isSet_middle_iff :
    IsSet (before ++ l :: after) ↔ l ∈ names ∧ l ∉ before ++ after ∧ IsSet (before ++ after) := by
  rw [← isSet_cons_iff]
  exact ⟨fun h => h.perm List.perm_middle.symm, fun h => h.perm List.perm_middle⟩

theorem joined_perm (h : ms.Perm ls) : joined ms = joined ls := by
  have : LeftCommutative fun (l : String) (bits : Nat) => bit l ||| bits :=
    ⟨fun l m bits => by rw [← Nat.lor_assoc, Nat.lor_comm (bit l), Nat.lor_assoc]⟩
  exact h.foldr_eq 0

theorem joined_middle (before after : List String) (l : String) :
    joined (before ++ l :: after) = bit l ||| joined (before ++ after) :=
  joined_perm List.perm_middle

theorem bit_eq_zero (h : l ∈ ["g", "y"]) : bit l = 0 := by
  simp only [List.mem_cons, List.not_mem_nil, or_false] at h
  rcases h with rfl | rfl <;> rfl

theorem joined_middle_of_mem (h : l ∈ ["g", "y"]) (before after : List String) :
    joined (before ++ l :: after) = joined (before ++ after) := by
  rw [joined_middle, bit_eq_zero h, Nat.zero_or]

theorem parseFrom_letter (l : String) (items : List Item) :
    parseFrom seen bits (.letter l :: items) =
      if l ∉ names then .error (.invalid l)
      else if l ∈ seen then .error (.duplicate l)
      else parseFrom (l :: seen) (bits ||| bit l) items := by
  rw [parseFrom, lookup_letters]
  by_cases hl : l ∈ names
  · simp [hl]
  · simp [hl]

theorem parseFrom_append (h : IsSet before) (hseen : ∀ l ∈ before, l ∉ seen) (items : List Item) :
    parseFrom seen bits (before.map .letter ++ items) =
      parseFrom (before.reverse ++ seen) (bits ||| joined before) items := by
  induction before generalizing seen bits with
  | nil => simp [joined]
  | cons l before ih =>
    obtain ⟨hl, hnew, hbefore⟩ := isSet_cons_iff.1 h
    obtain ⟨hlseen, hseen⟩ := List.forall_mem_cons.1 hseen
    have hrest : ∀ m ∈ before, m ∉ l :: seen := by
      intro m hm hmem
      rcases List.mem_cons.1 hmem with rfl | hmem
      · exact hnew hm
      · exact hseen m hm hmem
    rw [List.map_cons, List.cons_append, parseFrom_letter, if_neg (not_not.2 hl), if_neg hlseen,
      ih hbefore hrest, List.reverse_cons, List.append_assoc, List.singleton_append, Nat.lor_assoc]
    rfl

theorem parse_of_isSet (h : IsSet ls) : parse (ls.map .letter) = .ok (joined ls) := by
  rw [parse, ← List.append_nil (ls.map Item.letter), parseFrom_append h (by simp), Nat.zero_or]
  rfl

theorem parse_of_failsBehind (h : IsSet before) (hl : FailsBehind before l) (after : List String) :
    parse ((before ++ l :: after).map .letter) =
      .error (if l ∈ before then .duplicate l else .invalid l) := by
  rw [parse, List.map_append, parseFrom_append h (by simp), List.map_cons, parseFrom_letter]
  simp only [List.append_nil, List.mem_reverse]
  by_cases hbefore : l ∈ before
  · simp [hbefore, h.known l hbefore]
  · simp [hbefore, hl.resolve_right hbefore]

theorem isSet_or_exists_failsBehind (ls : List String) :
    IsSet ls ∨
      ∃ before l after, ls = before ++ l :: after ∧ IsSet before ∧ FailsBehind before l := by
  induction ls using List.reverseRecOn with
  | nil => exact .inl isSet_nil
  | append_singleton ls l ih =>
    rcases ih with h | ⟨before, m, after, rfl, hbefore, hm⟩
    · by_cases hl : FailsBehind ls l
      · exact .inr ⟨ls, l, [], rfl, h, hl⟩
      · obtain ⟨hknown, hnew⟩ := not_or.1 hl
        refine .inl (isSet_middle_iff.2 ?_)
        rw [List.append_nil]
        exact ⟨not_not.1 hknown, hnew, h⟩
    · exact .inr ⟨before, m, after ++ [l], by simp, hbefore, hm⟩

theorem flags_of_isSet (hv : Writes v ls) (h : IsSet ls) : flags v = .ok (joined ls) := by
  rw [flags_of_writes hv, parse_of_isSet h]
  rfl

theorem flags_of_failsBehind (hv : Writes v (before ++ l :: after)) (h : IsSet before)
    (hl : FailsBehind before l) :
    flags v = .error (if l ∈ before then .duplicate l else .invalid l) := by
  rw [flags_of_writes hv, parse_of_failsBehind h hl]
  rfl

theorem accepted_iff (hv : Writes v ls) : (∃ n, flags v = .ok n) ↔ IsSet ls := by
  constructor
  · rintro ⟨n, hn⟩
    rcases isSet_or_exists_failsBehind ls with h | ⟨before, l, after, rfl, hbefore, hl⟩
    · exact h
    · rw [flags_of_failsBehind hv hbefore hl] at hn
      cases hn
  · intro h
    exact ⟨joined ls, flags_of_isSet hv h⟩

theorem flags_eq_of_joined (hv : Writes v ls) (hw : Writes w ms) (hls : IsSet ls) (hms : IsSet ms)
    (h : joined ms = joined ls) : flags w = flags v := by
  rw [flags_of_isSet hw hms, flags_of_isSet hv hls, h]

/-- `parse_flags` takes just the letters that are known and not repeated, and gives the union of
their bits whatever their order; `g` and `y` add nothing. Otherwise its error names the first letter
that is unknown or repeated. -/
theorem flags_accept_sets (hv : Writes v ls) :
    ((∃ n, flags v = .ok n) ↔ IsSet ls) ∧
    (IsSet ls → flags v = .ok (joined ls) ∧
      (∀ w ms, Writes w ms → ms.Perm ls → flags w = flags v) ∧
      (∀ w before after, ∀ l ∈ ["g", "y"], ls = before ++ l :: after →
        Writes w (before ++ after) → flags w = flags v) ∧
      ∀ w before after, ∀ l ∈ ["g", "y"], ls = before ++ after → l ∉ ls →
        Writes w (before ++ l :: after) → flags w = flags v) ∧
    (¬ IsSet ls →
      ∃ before l after, ls = before ++ l :: after ∧ IsSet before ∧ FailsBehind before l) ∧
    ∀ before l after, ls = before ++ l :: after → IsSet before →
      (l ∉ names → (flags v).mapError Fault.toFault =
        .error ⟨.badValue, "invalid flag '" ++ l ++ "'"⟩) ∧
      (l ∈ before → (flags v).mapError Fault.toFault =
        .error ⟨.badValue, "duplicate flag '" ++ l ++ "'"⟩) := by
  refine ⟨accepted_iff hv, fun h => ⟨flags_of_isSet hv h, ?permuted, ?removed, ?inserted⟩,
    (isSet_or_exists_failsBehind ls).resolve_left, ?failed⟩
  case permuted =>
    intro w ms hw hperm
    exact flags_eq_of_joined hv hw h (h.perm hperm) (joined_perm hperm)
  case removed =>
    rintro w before after l hl rfl hw
    exact flags_eq_of_joined hv hw h (isSet_middle_iff.1 h).2.2 (joined_middle_of_mem hl _ _).symm
  case inserted =>
    rintro w before after l hl rfl hnew hw
    have hknown : ["g", "y"] ⊆ names := by decide
    have hset : IsSet (before ++ l :: after) := isSet_middle_iff.2 ⟨hknown hl, hnew, h⟩
    exact flags_eq_of_joined hv hw h hset (joined_middle_of_mem hl _ _)
  case failed =>
    rintro before l after rfl hbefore
    constructor
    · intro hl
      rw [flags_of_failsBehind hv hbefore (.inl hl), if_neg fun hmem => hl (hbefore.known l hmem)]
      rfl
    · intro hl
      rw [flags_of_failsBehind hv hbefore (.inr hl), if_pos hl]
      rfl

theorem flags_accept_sets_of_texts :
    Writes (.text "mig") ["m", "i", "g"] ∧ IsSet ["m", "i", "g"] ∧ flags (.text "mig") = .ok 10 ∧
    flags (.text "gim") = flags (.text "mig") ∧
    flags (.list [.text "m", .text "i"]) = flags (.text "mig") ∧
    Writes (.text "igiz") ["i", "g", "i", "z"] ∧ IsSet ["i", "g"] ∧
    (flags (.text "igiz")).mapError Fault.toFault =
      .error ⟨.badValue, "duplicate flag 'i'"⟩ := by
  have haccepted : Writes (.text "mig") ["m", "i", "g"] := .text "mig"
  have hset : IsSet ["m", "i", "g"] := ⟨by decide, by decide⟩
  obtain ⟨-, hstands, -, -⟩ := flags_accept_sets haccepted
  obtain ⟨hbits, hpermuted, hremoved, -⟩ := hstands hset
  have hrefused : Writes (.text "igiz") ["i", "g", "i", "z"] := .text "igiz"
  have hbefore : IsSet ["i", "g"] := ⟨by decide, by decide⟩
  obtain ⟨-, -, -, hnamed⟩ := flags_accept_sets hrefused
  exact ⟨haccepted, hset, hbits, hpermuted (.text "gim") ["g", "i", "m"] (.text "gim") (by decide),
    hremoved (.list [.text "m", .text "i"]) ["m", "i"] [] "g" (by decide) rfl (.list ["m", "i"]),
    hrefused, hbefore, (hnamed ["i", "g"] "i" ["z"] rfl hbefore).2 (by decide)⟩

end PatternGuard.Modifier
