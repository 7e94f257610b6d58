import Mathlib
import PatternGuard.Number

namespace PatternGuard.Number

variable {n : Nat} {c : Char}

theorem isDigit_digitChar : ∀ d < 10, isDigit (digitChar d) = true := by
  decide

theorem natText_ne_nil (n : Nat) : natText n ≠ [] := by
  rw [natText]
  split_ifs <;> simp

theorem isDigit_of_mem_natText (h : c ∈ natText n) : isDigit c = true := by
  fun_induction natText n with
  | case1 n hn =>
    rw [List.mem_singleton.1 h]
    exact isDigit_digitChar n hn
  | case2 n hn ih =>
    rcases List.mem_append.1 h with hhigh | hlow
    · exact ih hhigh
    · rw [List.mem_singleton.1 hlow]
      exact isDigit_digitChar (n % 10) (Nat.mod_lt n (by decide))

theorem exists_natText_eq_cons (n : Nat) : ∃ c cs, natText n = c :: cs ∧ isDigit c = true := by
  obtain ⟨c, cs, htext⟩ := List.exists_cons_of_ne_nil (natText_ne_nil n)
  refine ⟨c, cs, htext, isDigit_of_mem_natText (n := n) ?_⟩
  rw [htext]
  exact List.mem_cons_self

theorem natValue_concat (cs : List Char) (c : Char) :
    natValue (cs ++ [c]) = 10 * natValue cs + (c.toNat - 0x30) := by
  simp [natValue]

theorem natValue_natText (n : Nat) : natValue (natText n) = n := by
  have hdigit : ∀ d < 10, (digitChar d).toNat - 0x30 = d := by decide
  fun_induction natText n with
  | case1 n hn => simp [natValue, hdigit n hn]
  | case2 n hn ih =>
    rw [natValue_concat, ih, hdigit (n % 10) (Nat.mod_lt n (by decide))]
    exact Nat.div_add_mod n 10

theorem hexValue?_hexDigit : ∀ d < 16, hexValue? (hexDigit d) = some d := by
  decide

end PatternGuard.Number

namespace PatternGuard.Text

variable {a b s t : List Char} {c d : Char}

theorem compare_cons_self (c : Char) (s t : List Char) :
    compare (c :: s) (c :: t) = compare s t := by
  rw [List.compare_cons_cons, compare_eq_iff_eq.2 rfl, Ordering.eq_then]

theorem compare_cons_of_lt (h : c < d) (s t : List Char) : compare (c :: s) (d :: t) = .lt := by
  rw [List.compare_cons_cons, compare_lt_iff_lt.2 h, Ordering.lt_then]

theorem compare_append (h : a.length = b.length) (s t : List Char) :
    compare (a ++ s) (b ++ t) = (compare a b).then (compare s t) := by
  induction a generalizing b with
  | nil =>
    rw [List.eq_nil_of_length_eq_zero h.symm]
    rfl
  | cons c a ih =>
    cases b with
    | nil => cases h
    | cons d b =>
      rw [List.cons_append, List.cons_append, List.compare_cons_cons, List.compare_cons_cons,
        ih (Nat.succ.inj h), Ordering.then_assoc]

theorem compare_of_lt (h : a < b) : compare a b = .lt := by
  induction h with
  | nil => rfl
  | cons _ ih =>
    rw [compare_cons_self]
    exact ih
  | rel h => exact compare_cons_of_lt h _ _

theorem compare_toList (s t : String) : compare s.toList t.toList = compare s t := by
  rcases lt_trichotomy s t with h | rfl | h
  · rw [compare_lt_iff_lt.2 h, compare_of_lt (String.lt_iff_toList_lt.1 h)]
  · rw [Std.compare_self, Std.compare_self]
  · rw [Std.OrientedOrd.eq_swap, Std.OrientedOrd.eq_swap (a := s), compare_lt_iff_lt.2 h,
      compare_of_lt (String.lt_iff_toList_lt.1 h)]

end PatternGuard.Text

namespace PatternGuard.Number

variable {width m n : Nat}

theorem compare_eq_compare {α β : Type} [LinearOrder α] [LinearOrder β] {a b : α} {c d : β}
    (hlt : a < b → c < d) (heq : a = b → c = d) (hgt : b < a → d < c) :
    compare a b = compare c d := by
  rcases lt_trichotomy a b with h | h | h
  · rw [compare_lt_iff_lt.2 h, compare_lt_iff_lt.2 (hlt h)]
  · rw [compare_eq_iff_eq.2 h, compare_eq_iff_eq.2 (heq h)]
  · rw [compare_gt_iff_gt.2 h, compare_gt_iff_gt.2 (hgt h)]

theorem compare_div_mod (m n k : Nat) :
    (compare (m / k) (n / k)).then (compare (m % k) (n % k)) = compare m n := by
  rcases lt_trichotomy (m / k) (n / k) with h | h | h
  · rw [compare_lt_iff_lt.2 h, compare_lt_iff_lt.2 (Nat.lt_of_div_lt_div h), Ordering.lt_then]
  · have hm := Nat.div_add_mod m k
    have hn := Nat.div_add_mod n k
    rw [compare_eq_iff_eq.2 h, Ordering.eq_then]
    rw [h] at hm
    apply compare_eq_compare <;> omega
  · rw [compare_gt_iff_gt.2 h, compare_gt_iff_gt.2 (Nat.lt_of_div_lt_div h), Ordering.gt_then]

theorem compare_digitChar :
    ∀ m < 10, ∀ n < 10, compare (digitChar m) (digitChar n) = compare m n := by
  decide

theorem padded_one (h : n < 10) : padded 1 n = [digitChar n] := by
  rw [padded, natText, if_pos h]
  rfl

theorem padded_succ (hwidth : 0 < width) (n : Nat) :
    padded (width + 1) n = padded width (n / 10) ++ [digitChar (n % 10)] := by
  rw [padded, natText]
  split_ifs with hn
  · have hzero : natText 0 = ['0'] := by
      rw [natText]
      rfl
    obtain ⟨k, rfl⟩ := Nat.exists_eq_add_of_le' hwidth
    rw [Nat.div_eq_of_lt hn, Nat.mod_eq_of_lt hn, padded, hzero]
    simp [List.replicate_succ']
  · simp [padded]

theorem div_lt_of_lt_pow_succ (h : n < 10 ^ (width + 1)) : n / 10 < 10 ^ width :=
  Nat.div_lt_of_lt_mul (by rwa [← pow_succ'])

theorem length_padded (hwidth : 0 < width) (h : n < 10 ^ width) :
    (padded width n).length = width := by
  induction width, hwidth using Nat.le_induction generalizing n with
  | base => rw [padded_one h, List.length_singleton]
  | succ width hwidth ih =>
    rw [padded_succ hwidth, List.length_append, ih (div_lt_of_lt_pow_succ h), List.length_singleton]

theorem compare_padded (hwidth : 0 < width) (hm : m < 10 ^ width) (hn : n < 10 ^ width) :
    compare (padded width m) (padded width n) = compare m n := by
  induction width, hwidth using Nat.le_induction generalizing m n with
  | base =>
    rw [padded_one hm, padded_one hn, List.compare_cons_cons, compare_digitChar m hm n hn]
    exact Ordering.then_eq
  | succ width hwidth ih =>
    have hmdiv := div_lt_of_lt_pow_succ hm
    have hndiv := div_lt_of_lt_pow_succ hn
    have hlength : (padded width (m / 10)).length = (padded width (n / 10)).length := by
      rw [length_padded hwidth hmdiv, length_padded hwidth hndiv]
    have hlast : compare (digitChar (m % 10)) (digitChar (n % 10)) = compare (m % 10) (n % 10) :=
      compare_digitChar _ (Nat.mod_lt m (by decide)) _ (Nat.mod_lt n (by decide))
    calc compare (padded (width + 1) m) (padded (width + 1) n)
      _ = (compare (padded width (m / 10)) (padded width (n / 10))).then
            (compare [digitChar (m % 10)] [digitChar (n % 10)]) := by
          rw [padded_succ hwidth, padded_succ hwidth, Text.compare_append hlength]
      _ = (compare (m / 10) (n / 10)).then (compare (m % 10) (n % 10)) := by
          rw [ih hmdiv hndiv, List.compare_cons_cons, hlast, List.compare_nil_nil,
            Ordering.then_eq]
      _ = compare m n := compare_div_mod m n 10

theorem compare_padded_append (hwidth : 0 < width) (hm : m < 10 ^ width) (hn : n < 10 ^ width)
    (s t : List Char) :
    compare (padded width m ++ s) (padded width n ++ t) = (compare m n).then (compare s t) := by
  rw [Text.compare_append, compare_padded hwidth hm hn]
  rw [length_padded hwidth hm, length_padded hwidth hn]

end PatternGuard.Number
