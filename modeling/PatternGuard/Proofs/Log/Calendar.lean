import Mathlib
import PatternGuard.Log
import PatternGuard.Proofs.Number

namespace PatternGuard.Log

open Number

variable {lens : List Nat} {a b d m : Nat}

theorem le_findMonth (lens : List Nat) (m d : Nat) : m ≤ (findMonth lens m d).1 := by
  induction lens generalizing m d with
  | nil => exact le_refl m
  | cons len lens ih =>
    rw [findMonth]
    split_ifs
    · exact le_refl m
    · exact (Nat.le_succ m).trans (ih (m + 1) (d - len))

theorem compare_findMonth (lens : List Nat) (m a b : Nat) :
    (compare (findMonth lens m a).1 (findMonth lens m b).1).then
      (compare (findMonth lens m a).2 (findMonth lens m b).2) = compare a b := by
  induction lens generalizing m a b with
  | nil => rw [findMonth, findMonth, Std.compare_self, Ordering.eq_then]
  | cons len lens ih =>
    have hpast (d : Nat) : m < (findMonth lens (m + 1) (d - len)).1 := le_findMonth lens (m + 1) _
    rw [findMonth, findMonth]
    -- Both days are in the first length, or the walk goes past it for one of them, or for both.
    split_ifs with ha hb hb
    · rw [Std.compare_self, Ordering.eq_then]
    · rw [compare_lt_iff_lt.2 (hpast b), compare_lt_iff_lt.2 (ha.trans_le (not_lt.1 hb)),
        Ordering.lt_then]
    · rw [compare_gt_iff_gt.2 (hpast a), compare_gt_iff_gt.2 (hb.trans_le (not_lt.1 ha)),
        Ordering.gt_then]
    · rw [ih]
      apply compare_eq_compare <;> omega

theorem findMonth_of_lt (h : d < lens.sum) (m : Nat) :
    ∃ i len, lens[i]? = some len ∧
      (findMonth lens m d).1 = m + i ∧ (findMonth lens m d).2 < len := by
  induction lens generalizing m d with
  | nil => cases h
  | cons len lens ih =>
    rw [findMonth]
    split_ifs with hd
    · exact ⟨0, len, rfl, rfl, hd⟩
    · rw [List.sum_cons] at h
      obtain ⟨i, l, hi, hfound, hl⟩ := ih (d := d - len) (by omega) (m + 1)
      exact ⟨i + 1, l, hi, by rw [hfound]; omega, hl⟩

theorem findYear_eq_findMonth (n y d : Nat) :
    findYear n y d = findMonth ((List.range' y n).map yearLength) y d := by
  induction n generalizing y d with
  | zero => rfl
  | succ n ih => rw [findYear, List.range'_succ, List.map_cons, findMonth, ih]

theorem yearLength_eq (y : Nat) :
    yearLength y = if 4 ∣ y ∧ (¬ 100 ∣ y ∨ 400 ∣ y) then 366 else 365 := by
  simp [yearLength, isLeapYear, Nat.dvd_iff_mod_eq_zero]

theorem sum_yearLength (n : Nat) :
    ((List.range' 1 n).map yearLength).sum + n / 100 = 365 * n + n / 4 + n / 400 := by
  induction n with
  | zero => rfl
  | succ n ih =>
    rw [List.range'_concat, List.map_append, List.sum_append, List.map_singleton,
      List.sum_singleton, Nat.one_mul, Nat.add_comm 1 n, yearLength_eq, Nat.succ_div, Nat.succ_div,
      Nat.succ_div]
    split_ifs <;> omega

theorem sum_monthLengths (y : Nat) : (monthLengths y).sum = yearLength y := by
  unfold monthLengths yearLength
  split_ifs <;> rfl

theorem le_of_mem_monthLengths {y len : Nat} (h : len ∈ monthLengths y) : len ≤ 31 := by
  simp only [monthLengths, List.mem_cons, List.not_mem_nil, or_false] at h
  split_ifs at h <;> omega

def Date.inYear (y d : Nat) : Date :=
  ⟨y, (findMonth (monthLengths y) 1 d).1, (findMonth (monthLengths y) 1 d).2 + 1⟩

theorem ofDay_eq (day : Nat) :
    Date.ofDay day = .inYear (findYear 9999 1 day).1 (findYear 9999 1 day).2 := rfl

def Date.order (d e : Date) : Ordering :=
  (compare d.year e.year).then ((compare d.month e.month).then (compare d.day e.day))

theorem order_inYear (y z a b : Nat) :
    (Date.inYear y a).order (.inYear z b) = (compare y z).then (compare a b) := by
  simp only [Date.order, Date.inYear]
  rcases lt_trichotomy y z with h | rfl | h
  · rw [compare_lt_iff_lt.2 h, Ordering.lt_then, Ordering.lt_then]
  · have hday (m n : Nat) : compare (m + 1) (n + 1) = compare m n := by
      apply compare_eq_compare <;> omega
    rw [hday, compare_findMonth]
  · rw [compare_gt_iff_gt.2 h, Ordering.gt_then, Ordering.gt_then]

theorem order_ofDay (a b : Nat) : (Date.ofDay a).order (.ofDay b) = compare a b := by
  rw [ofDay_eq, ofDay_eq, order_inYear, findYear_eq_findMonth, findYear_eq_findMonth,
    compare_findMonth]

structure Date.Fits (d : Date) : Prop where
  year : d.year < 10 ^ 4
  month : d.month < 10 ^ 2
  day : d.day < 10 ^ 2

theorem fits_inYear {y d : Nat} (hy : y < 10 ^ 4) (hd : d < yearLength y) :
    (Date.inYear y d).Fits := by
  rw [← sum_monthLengths] at hd
  obtain ⟨i, len, hi, hmonth, hday⟩ := findMonth_of_lt hd 1
  have hlen := le_of_mem_monthLengths (List.mem_of_getElem? hi)
  have hmonths : i < 12 := (List.getElem?_eq_some_iff.1 hi).1
  constructor
  · exact hy
  · simp only [Date.inYear, hmonth]
    omega
  · simp only [Date.inYear]
    omega

theorem fits_ofDay {day : Nat} (h : day < ((List.range' 1 9999).map yearLength).sum) :
    (Date.ofDay day).Fits := by
  obtain ⟨i, len, hi, hyear, hday⟩ := findMonth_of_lt h 1
  rw [← findYear_eq_findMonth] at hyear hday
  obtain ⟨hlast, hlen⟩ := List.getElem?_eq_some_iff.1 hi
  rw [List.length_map, List.length_range'] at hlast
  rw [List.getElem_map, List.getElem_range', Nat.one_mul, ← hyear] at hlen
  have hfits : (findYear 9999 1 day).1 < 10 ^ 4 := by
    rw [hyear]
    omega
  exact fits_inYear hfits (hday.trans_eq hlen.symm)

end PatternGuard.Log
