import Mathlib
import PatternGuard.Search

namespace PatternGuard.Search

inductive Event
  | cancelled (s : Slot)
  | posted (p : Post)

namespace Event

def slot : Event → Slot
  | .cancelled s => s
  | .posted p => p.slot

def post? : Event → Option Post
  | .cancelled _ => none
  | .posted p => some p

@[simp] theorem filterMap_post?_cancelled (s : Slot) (es : List Event) :
    (cancelled s :: es).filterMap post? = es.filterMap post? := rfl

@[simp] theorem filterMap_post?_posted (p : Post) (es : List Event) :
    (posted p :: es).filterMap post? = p :: es.filterMap post? := rfl

end Event

def Post.Holds (p : Post) : Prop := ∃ f, p.settlement.future? = some f

theorem Settlement.future?_ne_pending {v : Settlement} {f : Future} (h : v.future? = some f) :
    f ≠ .pending := by
  rintro rfl
  cases v with
  | result v => cases h
  | fault f =>
    rw [future?] at h
    split_ifs at h
    cases h
  | foreign => cases h

namespace Board

variable {b : Board} {s : Slot}

@[simp] theorem get_set (b : Board) (f : Future) (s : Slot) : (b.set f s).get s = f := by
  cases s <;> rfl

theorem get_set_of_ne {t : Slot} (h : s ≠ t) (b : Board) (f : Future) :
    (b.set f t).get s = b.get s := by
  cases s <;> cases t <;> first | rfl | exact absurd rfl h

def settle (b : Board) (p : Post) : Board :=
  match b.get p.slot, p.settlement.future? with
  | .pending, some f => b.set f p.slot
  | _, _ => b

def after (b : Board) : Event → Board
  | .cancelled s => b.cancel s
  | .posted p => b.settle p

def afterAll (b : Board) (es : List Event) : Board := es.foldl after b

@[simp] theorem afterAll_nil (b : Board) : b.afterAll [] = b := rfl

@[simp] theorem afterAll_cons (b : Board) (e : Event) (es : List Event) :
    b.afterAll (e :: es) = (b.after e).afterAll es := rfl

@[simp] theorem afterAll_append (b : Board) (es fs : List Event) :
    b.afterAll (es ++ fs) = (b.afterAll es).afterAll fs :=
  List.foldl_append

theorem afterAll_cancelled (b : Board) (ss : List Slot) :
    b.afterAll (ss.map .cancelled) = ss.foldl cancel b :=
  List.foldl_map

theorem settle_of_pending {p : Post} {f : Future} (hpending : b.get p.slot = .pending)
    (hf : p.settlement.future? = some f) : b.settle p = b.set f p.slot := by
  simp [settle, hpending, hf]

theorem settle_of_settled {p : Post} (h : b.get p.slot ≠ .pending) : b.settle p = b := by
  rw [settle]
  split
  · exact absurd ‹_› h
  · rfl

theorem after_cases (b : Board) (e : Event) :
    b.after e = b ∨
      b.get e.slot = .pending ∧ ∃ f, f ≠ .pending ∧ b.after e = b.set f e.slot := by
  cases e with
  | cancelled s =>
    rw [after, cancel]
    split
    · exact .inr ⟨‹_›, .cancelled, by simp, rfl⟩
    · exact .inl rfl
  | posted p =>
    rw [after, settle]
    split
    · rename_i f hpending hf
      exact .inr ⟨hpending, f, Settlement.future?_ne_pending hf, rfl⟩
    · exact .inl rfl

theorem get_after_of_ne {e : Event} (h : s ≠ e.slot) (b : Board) :
    (b.after e).get s = b.get s := by
  rcases b.after_cases e with hsame | ⟨-, f, -, hset⟩
  · rw [hsame]
  · rw [hset, get_set_of_ne h]

theorem get_after_of_settled (h : b.get s ≠ .pending) (e : Event) :
    (b.after e).get s = b.get s := by
  by_cases hs : s = e.slot
  · rcases b.after_cases e with hsame | ⟨hpending, -⟩
    · rw [hsame]
    · exact absurd (hs ▸ hpending) h
  · exact get_after_of_ne hs b

theorem get_afterAll_of_settled (h : b.get s ≠ .pending) (es : List Event) :
    (b.afterAll es).get s = b.get s := by
  induction es generalizing b with
  | nil => rfl
  | cons e es ih =>
    have hstep := get_after_of_settled h e
    rw [afterAll_cons, ih (hstep ▸ h), hstep]

theorem exists_change (b : Board) (s : Slot) (es : List Event) :
    ∃ k f, ∀ n, (b.afterAll (es.take n)).get s = if n ≤ k then b.get s else f := by
  induction es generalizing b with
  | nil => exact ⟨0, b.get s, fun n => by simp⟩
  | cons e es ih =>
    by_cases hsame : (b.after e).get s = b.get s
    · obtain ⟨k, f, h⟩ := ih (b.after e)
      refine ⟨k + 1, f, fun n => ?_⟩
      cases n with
      | zero => simp
      | succ n => simp [h, hsame]
    · -- The event is the one change, for the future was pending before it.
      have hchange : (b.after e).get s ≠ .pending := by
        intro hpending
        by_cases hb : b.get s = .pending
        · exact hsame (hpending.trans hb.symm)
        · exact hsame (get_after_of_settled hb e)
      refine ⟨0, (b.after e).get s, fun n => ?_⟩
      cases n with
      | zero => simp
      | succ n => simp [get_afterAll_of_settled hchange]

theorem get_settle_ne_pending {p : Post} (h : p.Holds) (b : Board) :
    (b.settle p).get p.slot ≠ .pending := by
  obtain ⟨f, hf⟩ := h
  by_cases hpending : b.get p.slot = .pending
  · rw [settle_of_pending hpending hf, get_set]
    exact Settlement.future?_ne_pending hf
  · rwa [settle_of_settled hpending]

theorem get_afterAll_of_posted {p : Post} {es : List Event} (h : p.Holds) (hp : .posted p ∈ es)
    (b : Board) : (b.afterAll es).get p.slot ≠ .pending := by
  obtain ⟨before, rest, rfl⟩ := List.append_of_mem hp
  have hsettled := get_settle_ne_pending h (b.afterAll before)
  rw [afterAll_append, afterAll_cons, after, get_afterAll_of_settled hsettled]
  exact hsettled

def snapshots (b : Board) : List Event → List Board
  | [] => []
  | .cancelled s :: es => (b.cancel s).snapshots es
  | .posted p :: es => b.settle p :: (b.settle p).snapshots es

theorem snapshots_cancelled_append (b : Board) (ss : List Slot) (es : List Event) :
    b.snapshots (ss.map .cancelled ++ es) = (ss.foldl cancel b).snapshots es := by
  induction ss generalizing b with
  | nil => rfl
  | cons s ss ih => simp [snapshots, ih]

theorem length_snapshots (b : Board) (es : List Event) :
    (b.snapshots es).length = (es.filterMap Event.post?).length := by
  induction es generalizing b with
  | nil => rfl
  | cons e es ih =>
    cases e with
    | cancelled s => simp [snapshots, ih]
    | posted p => simp [snapshots, ih]

end Board

end PatternGuard.Search
