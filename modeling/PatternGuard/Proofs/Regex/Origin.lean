import Mathlib
import PatternGuard.Regex.Reader

/-! What errors of the reader show is spelled by tokens of the pattern. Each reading function keeps
to this, and so does a run of the reader. -/

namespace PatternGuard.Regex

def spelling (ts : List Token) : List Char := ts.flatMap Token.text

def Spelled (ts : List Token) (cs : List Char) : Prop := ∃ us, us <:+: ts ∧ spelling us = cs

def expectations : List String :=
  ["group name", "character name", "\x7b", "flag", ":", InlineFlags.startsOn]

def Cause.ArisesIn (ts : List Token) : Cause → Prop
  | .badEscape e | .incompleteEscape e =>
    ∃ c ds, e = spelled c ds ∧ .escape c :: ds.map .char <:+: ts ∧ (ds.length < 4 ∨ c = 'U')
  | .undefinedName n | .badGroupName n | .unknownGroupName n | .renamedGroup n _ _ =>
    Spelled ts n.toList
  | .missing what => what ∈ expectations
  | .unterminatedName t => t.length ≤ 1
  | .octalTooLarge e => e.length ≤ 4
  | .badRange low high => low.length ≤ 2 ∧ high.length ≤ 2
  | .unknownExtension t => t.length ≤ 3
  | _ => True

def Fault.ArisesIn (ts : List Token) : Fault → Prop
  | .syntaxAt cause _ => cause.ArisesIn ts
  | .hugeRepeat =>
    ∃ ds : List Char, ds.map .char <:+: ts ∧ (∀ d ∈ ds, Number.isDigit d = true) ∧
      Width.limit ≤ Number.natValue ds
  | .hugeWord =>
    ∃ ds : List Char, .escape 'U' :: ds.map .char <:+: ts ∧ ds.length = 8 ∧
      (∀ d ∈ ds, isHexDigit d = true) ∧ 0x7fffffff < valueIn 16 ds
  | .longNumber _ | .localeFlag | .asciiAndUnicode => True
  | .objection _ | .farLookbehind | .reversedGroup | .tooDeep _ => False

/-- A reading step ends well or with an error that the tokens give rise to. -/
def KeepsTo {α : Type} (ts : List Token) (x : Except Fault α) (good : α → Prop) : Prop :=
  match x with
  | .ok a => good a
  | .error f => f.ArisesIn ts

section KeepsTo

variable {α β : Type} {ts : List Token} {good : α → Prop} {good' : β → Prop}

@[simp] theorem keepsTo_ok {a : α} : KeepsTo ts (.ok a) good ↔ good a := Iff.rfl

@[simp] theorem keepsTo_pure {a : α} : KeepsTo ts (pure a) good ↔ good a := Iff.rfl

@[simp] theorem keepsTo_error {f : Fault} : KeepsTo ts (.error f) good ↔ f.ArisesIn ts := Iff.rfl

theorem KeepsTo.bind {x : Except Fault α} {f : α → Except Fault β} (hx : KeepsTo ts x good)
    (hf : ∀ a, good a → KeepsTo ts (f a) good') : KeepsTo ts (x >>= f) good' := by
  cases x with
  | ok a => exact hf a hx
  | error e => exact hx

theorem KeepsTo.map {x : Except Fault α} {f : α → β} (hx : KeepsTo ts x good)
    (hf : ∀ a, good a → good' (f a)) : KeepsTo ts (x.map f) good' := by
  cases x with
  | ok a => exact hf a hx
  | error e => exact hx

theorem KeepsTo.mono {x : Except Fault α} {good' : α → Prop} (hx : KeepsTo ts x good)
    (h : ∀ a, good a → good' a) : KeepsTo ts x good' := by
  cases x with
  | ok a => exact h a hx
  | error e => exact hx

end KeepsTo

namespace Source

variable {ts us : List Token} {s s' : Source}

def Within (ts : List Token) (s : Source) : Prop := s.rest <:+ ts

theorem Within.next (h : s.Within ts) (hrest : s.rest = us ++ s'.rest) : s'.Within ts :=
  List.IsSuffix.trans ⟨us, hrest.symm⟩ h

theorem Within.cons {t : Token} (h : s.Within ts) (hrest : s.rest = t :: s'.rest) :
    t :: s'.rest <:+ ts :=
  hrest ▸ h

theorem Within.isInfix {vs : List Token} (h : s.Within ts) (hrest : s.rest = us ++ vs) :
    us <:+: ts := by
  obtain ⟨before, rfl⟩ := h
  rw [hrest]
  exact List.infix_append' _ _ _

theorem settle_keeps (s : Source) : KeepsTo ts s.settle (· = s) := by
  unfold settle
  split
  · trivial
  · rfl

theorem drop_keeps (s : Source) : KeepsTo ts s.drop fun after => after.rest = s.rest.tail :=
  (settle_keeps _).mono fun _ h => h ▸ rfl

theorem take_keeps (s : Source) :
    KeepsTo ts s.take fun r => s.rest = r.1.toList ++ r.2.rest := by
  refine (drop_keeps s).map fun after hafter => ?_
  cases hrest : s.rest <;> simp_all [next?]

theorem accept_keeps (s : Source) (c : Char) :
    KeepsTo ts (s.accept c) fun r => s.rest = (if r.1 then [.char c] else []) ++ r.2.rest := by
  unfold accept
  split_ifs with hnext
  · refine (drop_keeps s).map fun after hafter => ?_
    have hhead : s.rest.head? = some (.char c) := eq_of_beq hnext
    obtain ⟨tail, htail⟩ := List.head?_eq_some_iff.1 hhead
    simp [htail, hafter]
  · rfl

theorem nextChar?_eq_some {c : Char} (h : s.nextChar? = some c) :
    ∃ tail, s.rest = .char c :: tail := by
  unfold nextChar? next? at h
  split at h
  · rename_i hhead
    obtain ⟨tail, htail⟩ := List.head?_eq_some_iff.1 hhead
    exact ⟨tail, by rw [htail, Option.some.inj h]⟩
  · cases h

theorem takeWhile_keeps (s : Source) (p : Char → Bool) (count : Nat) :
    KeepsTo ts (s.takeWhile p count) fun r =>
      s.rest = r.1.map .char ++ r.2.rest ∧ (∀ c ∈ r.1, p c = true) ∧ r.1.length ≤ count := by
  induction count generalizing s with
  | zero => simp [takeWhile]
  | succ count ih =>
    unfold takeWhile
    split
    · rename_i c hc
      obtain ⟨tail, htail⟩ := nextChar?_eq_some hc
      split_ifs with hp
      · refine (drop_keeps s).bind fun after hafter => ?_
        refine (ih after).bind ?_
        rintro ⟨cs, last⟩ ⟨hrest, hall, hlength⟩
        refine ⟨?_, ?_, Nat.succ_le_succ hlength⟩
        · simp [htail, hafter, ← hrest]
        · simpa [hp] using hall
      · simp
    · simp

theorem readUntil_keeps {what : String} (hwhat : what ∈ expectations) (terminator : Char)
    (seen : List Char) (fuel : Nat) (s : Source) :
    KeepsTo ts (readUntil what terminator seen fuel s) fun r =>
      ∃ us, s.rest = us ++ .char terminator :: r.2.rest ∧ r.1 = seen ++ spelling us := by
  induction fuel generalizing seen s with
  | zero => exact hwhat
  | succ fuel ih =>
    refine (take_keeps s).bind ?_
    rintro ⟨_ | t, after⟩ hrest
    · dsimp only
      split_ifs
      · exact hwhat
      · simp [fault, Fault.ArisesIn, Cause.ArisesIn]
    · dsimp only
      split_ifs with ht hseen
      · exact hwhat
      · rw [eq_of_beq ht] at hrest
        exact ⟨[], hrest, by simp [spelling]⟩
      · refine (ih (seen ++ t.text) after).mono ?_
        rintro ⟨cs, last⟩ ⟨us, husage, rfl⟩
        refine ⟨t :: us, ?_, ?_⟩
        · simp [hrest, husage]
        · simp [spelling]

theorem name_keeps {what : String} (hwhat : what ∈ expectations) (terminator : Char)
    (h : s.Within ts) :
    KeepsTo ts (s.name what terminator) fun r => Spelled ts r.1 ∧ r.2.Within ts := by
  refine (readUntil_keeps hwhat terminator [] _ s).mono ?_
  rintro ⟨cs, after⟩ ⟨us, hrest, rfl⟩
  have hlast : s.rest = (us ++ [.char terminator]) ++ after.rest := by
    rw [hrest, List.append_assoc, List.singleton_append]
  exact ⟨⟨us, h.isInfix hrest, rfl⟩, h.next hlast⟩

end Source

end PatternGuard.Regex
