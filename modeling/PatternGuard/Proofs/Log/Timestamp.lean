import Mathlib
import PatternGuard.Proofs.Log.Calendar
import PatternGuard.Proofs.Log.Fields

namespace PatternGuard.Log

open Number

variable {m n : Nat} {now t₁ t₂ : Int}

theorem compare_text_append {d e : Date} (hd : d.Fits) (he : e.Fits) (s t : List Char) :
    compare (d.text ++ s) (e.text ++ t) = (d.order e).then (compare s t) := by
  simp only [Date.text, List.append_assoc, List.cons_append]
  rw [compare_padded_append (by decide) hd.year he.year, Text.compare_cons_self,
    compare_padded_append (by decide) hd.month he.month, Text.compare_cons_self,
    compare_padded_append (by decide) hd.day he.day, Date.order, Ordering.then_assoc,
    Ordering.then_assoc]

def fractionText (fraction : Nat) : List Char :=
  if fraction == 0 then [] else '.' :: padded 6 fraction

theorem fractionText_of_pos (h : 0 < n) : fractionText n = '.' :: padded 6 n := by
  simp [fractionText, h.ne']

/-- A time without a fraction sorts first, as the sign of the offset comes before the point. -/
theorem compare_fractionText (hm : m < 10 ^ 6) (hn : n < 10 ^ 6) :
    compare (fractionText m ++ offsetText) (fractionText n ++ offsetText) = compare m n := by
  have hsign (s : List Char) : compare offsetText ('.' :: s) = .lt :=
    Text.compare_cons_of_lt (by decide) _ s
  rcases Nat.eq_zero_or_pos m with rfl | hmpos
  · rcases Nat.eq_zero_or_pos n with rfl | hnpos
    · rw [Std.compare_self, Std.compare_self]
    · rw [fractionText_of_pos hnpos, compare_lt_iff_lt.2 hnpos]
      exact hsign _
  · rcases Nat.eq_zero_or_pos n with rfl | hnpos
    · rw [fractionText_of_pos hmpos, compare_gt_iff_gt.2 hmpos, Std.OrientedOrd.eq_swap]
      exact congrArg Ordering.swap (hsign _)
    · rw [fractionText_of_pos hmpos, fractionText_of_pos hnpos, List.cons_append,
        List.cons_append, Text.compare_cons_self, compare_padded_append (by decide) hm hn,
        Std.compare_self, Ordering.then_eq]

theorem timeText_append (micros : Nat) (s : List Char) :
    timeText micros ++ s =
      padded 2 (micros / 1000000 / 60 / 60) ++ ':' :: (padded 2 (micros / 1000000 / 60 % 60) ++
        ':' :: (padded 2 (micros / 1000000 % 60) ++ (fractionText (micros % 1000000) ++ s))) := by
  simp only [timeText, fractionText, Nat.div_div_eq_div_mul _ 60 60, List.append_assoc,
    List.cons_append]

theorem compare_timeText (hm : m < 86400000000) (hn : n < 86400000000) :
    compare (timeText m ++ offsetText) (timeText n ++ offsetText) = compare m n := by
  rw [timeText_append, timeText_append, compare_padded_append (by decide) (by omega) (by omega),
    Text.compare_cons_self, compare_padded_append (by decide) (by omega) (by omega),
    Text.compare_cons_self, compare_padded_append (by decide) (by omega) (by omega),
    compare_fractionText (by omega) (by omega)]
  rw [← Ordering.then_assoc, compare_div_mod, ← Ordering.then_assoc, compare_div_mod,
    compare_div_mod]

/-- The years from 1 to 9999. -/
def InCalendar (now : Int) : Prop := -62135596800000000 ≤ now ∧ now < 253402300800000000

theorem inCalendar_iff :
    InCalendar now ↔ 0 ≤ now / microsPerDay + epochDay ∧
      now / microsPerDay + epochDay < ((List.range' 1 9999).map yearLength).sum := by
  have hdays := sum_yearLength 9999
  simp only [InCalendar, microsPerDay, epochDay]
  omega

def sinceYearOne (now : Int) : Nat := (now + 62135596800000000).toNat

theorem compare_sinceYearOne (h₁ : InCalendar t₁) (h₂ : InCalendar t₂) :
    compare (sinceYearOne t₁) (sinceYearOne t₂) = compare t₁ t₂ := by
  simp only [InCalendar, sinceYearOne] at h₁ h₂ ⊢
  apply compare_eq_compare <;> omega

theorem InCalendar.day_eq (h : InCalendar now) :
    (now / microsPerDay + epochDay).toNat = sinceYearOne now / 86400000000 := by
  simp only [InCalendar, microsPerDay, epochDay, sinceYearOne] at h ⊢
  omega

theorem InCalendar.time_eq (h : InCalendar now) :
    (now % microsPerDay).toNat = sinceYearOne now % 86400000000 := by
  simp only [InCalendar, microsPerDay, sinceYearOne] at h ⊢
  omega

theorem timestampChars_eq (h : InCalendar now) :
    timestampChars now = (Date.ofDay (sinceYearOne now / 86400000000)).text ++
      'T' :: (timeText (sinceYearOne now % 86400000000) ++ offsetText) := by
  rw [timestampChars, h.day_eq, h.time_eq, List.append_assoc, List.cons_append]

example : timestamp (-62135596800000000) = "0001-01-01T00:00:00+00:00" := by decide +kernel

theorem InCalendar.fits (h : InCalendar now) :
    (Date.ofDay (sinceYearOne now / 86400000000)).Fits := by
  apply fits_ofDay
  obtain ⟨hstart, hend⟩ := inCalendar_iff.1 h
  rw [← h.day_eq]
  omega

theorem compare_timestamp (h₁ : InCalendar t₁) (h₂ : InCalendar t₂) :
    compare (timestamp t₁) (timestamp t₂) = compare t₁ t₂ := by
  have htime (now : Int) : sinceYearOne now % 86400000000 < 86400000000 :=
    Nat.mod_lt _ (by decide)
  rw [← Text.compare_toList, timestamp, timestamp, String.toList_ofList, String.toList_ofList,
    timestampChars_eq h₁, timestampChars_eq h₂, compare_text_append h₁.fits h₂.fits, order_ofDay,
    Text.compare_cons_self, compare_timeText (htime t₁) (htime t₂), compare_div_mod,
    compare_sinceYearOne h₁ h₂]

/-- Timestamps sort as texts in the order of the clock, and are equal only for equal readings. -/
theorem written_times_sort (h₁ : InCalendar t₁) (h₂ : InCalendar t₂) :
    compare (timestamp t₁) (timestamp t₂) = compare t₁ t₂ ∧
    (timestamp t₁ = timestamp t₂ ↔ t₁ = t₂) ∧
    ∀ now component level message extra,
      (Keyed.keys extra).Nodup → "ts" ∉ Keyed.keys extra →
      let entry := (Value.map (payload component now level message extra)).toJson
      write component now (.text level) message (.map extra) = .ok (entry.line ++ "\n") ∧
      entry.member? "ts" = some (.text (timestamp now)) := by
  have hcompare := compare_timestamp h₁ h₂
  refine ⟨hcompare, ?_, ?_⟩
  · rw [← Std.compare_eq_iff_eq, hcompare, compare_eq_iff_eq]
  · intro now component level message extra hkeys hts entry
    have hmember : entry.member? "ts" = some ((Keyed.get? "ts" extra).elim
        (.text (timestamp now)) fun v => (redactValue v).toJson) :=
      member?_payload_of_mem_canonical hkeys List.mem_cons_self
    rw [Keyed.get?_eq_none hts] at hmember
    exact ⟨rfl, hmember⟩

theorem written_times_sort_at_epoch :
    InCalendar (-1) ∧ InCalendar 0 ∧ InCalendar 1 ∧
    compare (timestamp (-1)) (timestamp 0) = .lt ∧ compare (timestamp 0) (timestamp 1) = .lt ∧
    timestamp 0 ≠ timestamp 1 ∧ (Keyed.keys [("reason", Value.text "ok")]).Nodup ∧
    "ts" ∉ Keyed.keys [("reason", Value.text "ok")] ∧
    (Value.map (payload standardComponent 0 "info" (.text "m")
      [("reason", .text "ok")])).toJson.member? "ts" = some (.text (timestamp 0)) := by
  have hbefore : InCalendar (-1) := by simp [InCalendar]
  have hstart : InCalendar 0 := by simp [InCalendar]
  have hafter : InCalendar 1 := by simp [InCalendar]
  have hkeys : (Keyed.keys [("reason", Value.text "ok")]).Nodup := by decide
  have hts : "ts" ∉ Keyed.keys [("reason", Value.text "ok")] := by decide
  obtain ⟨hlt, -, -⟩ := written_times_sort hbefore hstart
  obtain ⟨hlt', hsame, hentries⟩ := written_times_sort hstart hafter
  exact ⟨hbefore, hstart, hafter, hlt, hlt', fun h => absurd (hsame.1 h) (by decide), hkeys, hts,
    (hentries 0 standardComponent "info" (.text "m") [("reason", .text "ok")] hkeys hts).2⟩

end PatternGuard.Log
