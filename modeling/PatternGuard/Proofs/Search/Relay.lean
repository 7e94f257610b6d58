import Mathlib
import PatternGuard.Proofs.Search.Board

namespace PatternGuard.Search

namespace Loop

variable {l : Loop} {ps : List Post}

def events (l : Loop) (n : Nat) : List Post → List Event
  | [] => []
  | p :: ps =>
    (l.cancels n).map .cancelled
      ++ if l.accepts n then .posted p :: l.events (n + 1) ps else []

theorem filterMap_post?_events (l : Loop) (n : Nat) (ps : List Post) :
    (l.events n ps).filterMap Event.post? <+: ps := by
  induction ps generalizing n with
  | nil => exact List.prefix_rfl
  | cons p ps ih =>
    have hcancels : ((l.cancels n).map Event.cancelled).filterMap Event.post? = [] := by
      simp [List.filterMap_map, Event.post?]
    rw [events, List.filterMap_append, hcancels, List.nil_append]
    split_ifs
    · simpa using ih (n + 1)
    · exact List.nil_prefix

theorem posted_mem_events (hopen : l.closesAfter = none) {p : Post} (hp : p ∈ ps) (n : Nat) :
    .posted p ∈ l.events n ps := by
  have haccepts : l.accepts n = true := by rw [accepts, hopen]
  induction ps generalizing n with
  | nil => cases hp
  | cons q ps ih =>
    rw [events, if_pos haccepts]
    cases hp with
    | head => simp
    | tail _ hp =>
      have hrest := ih hp (n + 1) (by rw [accepts, hopen])
      simp [hrest]

end Loop

namespace Relay

variable {l : Loop} {r : Relay}

@[simp] theorem settle_tried (r : Relay) (p : Post) : (r.settle p).tried = r.tried := by
  rw [settle]
  split
  · split <;> rfl
  · rfl

@[simp] theorem settle_heard (r : Relay) (p : Post) : (r.settle p).heard = r.heard := by
  rw [settle]
  split
  · split <;> rfl
  · rfl

@[simp] theorem settle_board (r : Relay) (p : Post) :
    (r.settle p).board = r.board.settle p := by
  cases hslot : r.board.get p.slot with
  | pending => cases hf : p.settlement.future? <;> simp [settle, Board.settle, hslot, hf]
  | _ => simp [settle, Board.settle, hslot]

theorem settle_of_holds {p : Post} (h : p.Holds) (r : Relay) :
    (r.settle p).accepted = r.accepted ++ [r.board.settle p] ∧
      (r.settle p).failed = r.failed := by
  obtain ⟨f, hf⟩ := h
  cases hslot : r.board.get p.slot with
  | pending => simp [settle, Board.settle, hslot, hf]
  | _ => simp [settle, Board.settle, hslot]

def next (r : Relay) (l : Loop) : Relay :=
  { r with
    board := (l.cancels r.tried).foldl Board.cancel r.board
    tried := r.tried + 1
    heard := l.accepts r.tried }

theorem post_of_heard (h : r.heard = true) (l : Loop) (p : Post) :
    r.post l p = if l.accepts r.tried then (r.next l).settle p else r.next l := by
  rw [post, if_pos h]
  rfl

def postAll (r : Relay) (l : Loop) (ps : List Post) : Relay := ps.foldl (fun r p => r.post l p) r

@[simp] theorem postAll_nil (r : Relay) (l : Loop) : r.postAll l [] = r := rfl

@[simp] theorem postAll_cons (r : Relay) (l : Loop) (p : Post) (ps : List Post) :
    r.postAll l (p :: ps) = (r.post l p).postAll l ps := rfl

theorem postAll_of_not_heard (h : r.heard = false) (l : Loop) (ps : List Post) :
    r.postAll l ps = r := by
  induction ps with
  | nil => rfl
  | cons p ps ih =>
    have hpost : r.post l p = r := by simp [post, h]
    rw [postAll_cons, hpost, ih]

theorem postAll_board (hheard : r.heard = true) (l : Loop) (ps : List Post) :
    (r.postAll l ps).board = r.board.afterAll (l.events r.tried ps) := by
  induction ps generalizing r with
  | nil => rfl
  | cons p ps ih =>
    rw [postAll_cons, post_of_heard hheard, Loop.events, Board.afterAll_append,
      Board.afterAll_cancelled]
    by_cases haccepts : l.accepts r.tried = true
    · rw [if_pos haccepts, if_pos haccepts, ih (by simpa [next] using haccepts), settle_tried,
        settle_board]
      rfl
    · rw [if_neg haccepts, if_neg haccepts, postAll_of_not_heard (by simpa [next] using haccepts)]
      rfl

theorem postAll_of_holds {ps : List Post} (hheard : r.heard = true) (hps : ∀ p ∈ ps, p.Holds) :
    (r.postAll l ps).accepted = r.accepted ++ r.board.snapshots (l.events r.tried ps) ∧
      (r.postAll l ps).failed = r.failed := by
  induction ps generalizing r with
  | nil => simp [Loop.events, Board.snapshots]
  | cons p ps ih =>
    rw [postAll_cons, post_of_heard hheard, Loop.events, Board.snapshots_cancelled_append]
    by_cases haccepts : l.accepts r.tried = true
    · obtain ⟨haccepted, hfailed⟩ := settle_of_holds (hps p (by simp)) (r.next l)
      rw [if_pos haccepts, if_pos haccepts]
      obtain ⟨hrest, hrestFailed⟩ :=
        @ih ((r.next l).settle p) (by simpa [next] using haccepts) fun q hq => hps q (by simp [hq])
      constructor
      · rw [hrest, haccepted, List.append_assoc, settle_tried, settle_board]
        rfl
      · rw [hrestFailed, hfailed]
        rfl
    · rw [if_neg haccepts, if_neg haccepts, postAll_of_not_heard (by simpa [next] using haccepts)]
      simp [next, Board.snapshots]

end Relay

inductive Message.Settles : Message → Prop
  | value {s : Status} (v : Value) : s ≠ .error → Settles ⟨s, .value v⟩
  | fault {f : Fault} : f.kind ≠ .exhausted → Settles ⟨.error, .fault f⟩

theorem Message.Settles.holds {m : Message} (h : m.Settles) (s : Slot) :
    Post.Holds ⟨s, .ofMessage m⟩ := by
  cases h with
  | @value status v hstatus =>
    refine ⟨.result v.isTrue, ?_⟩
    cases status with
    | error => exact absurd rfl hstatus
    | ready => rfl
    | ok => rfl
    | unknown => rfl
  | fault hkind => exact ⟨_, if_neg hkind⟩

def Pipe.posts (p : Pipe) : List Post :=
  match p.messages with
  | [] => [⟨.started, .fault lostBeforeStart⟩, ⟨.finished, .fault lostBeforeStart⟩]
  | [_] => [⟨.started, .result (.bool true)⟩, ⟨.finished, .fault lostWithoutResult⟩]
  | _ :: m :: _ => [⟨.started, .result (.bool true)⟩, ⟨.finished, .ofMessage m⟩]

namespace Pipe

theorem map_slot_posts (p : Pipe) : p.posts.map Post.slot = [.started, .finished] := by
  rw [posts]
  split <;> rfl

theorem holds_posts {p : Pipe} (hsecond : ∀ m ∈ p.messages[1]?, m.Settles) :
    ∀ q ∈ p.posts, q.Holds := by
  obtain ⟨messages, closed⟩ := p
  have hresult : ∀ s, Post.Holds ⟨s, .result (.bool true)⟩ := fun s => ⟨_, rfl⟩
  have hlost : ∀ s message, Post.Holds ⟨s, .fault ⟨.lostWorker, message⟩⟩ := fun s m => ⟨_, rfl⟩
  match messages with
  | [] => simp [posts, lostBeforeStart, hlost]
  | [_] => simp [posts, lostWithoutResult, hresult, hlost]
  | _ :: m :: _ => simp [posts, hresult, (hsecond m rfl).holds]

end Pipe

namespace Relay

theorem run_eq (l : Loop) {p : Pipe} (hclosed : p.closed = true) :
    run l p = (start.postAll l p.posts).close := by
  obtain ⟨messages, closed⟩ := p
  have hclosed : closed = true := hclosed
  subst hclosed
  cases messages with
  | nil => rfl
  | cons first rest =>
    cases hheard : (start.post l ⟨.started, .result (.bool true)⟩).heard with
    | true => cases rest <;> simp [run, Pipe.posts, hheard]
    | false => cases rest <;> simp [run, Pipe.posts, hheard, postAll_of_not_heard]

/-- All posts and cancellations while a relay is at work, in order. -/
def history (l : Loop) (p : Pipe) : List Event := l.events 0 p.posts

def boardAt (l : Loop) (p : Pipe) (n : Nat) : Board := Board.fresh.afterAll ((history l p).take n)

/-- The relay ends and closes its pipe, at most two posts are accepted, the first about the start,
each future is settled at most once and by what was posted about it, and nobody waits for a future
forever unless the loop is closed. -/
structure Orderly (l : Loop) (p : Pipe) : Prop where
  ends : (run l p).readerClosed = true ∧ (run l p).failed = false
  told : (run l p).board = Board.fresh.afterAll (history l p) ∧
    (run l p).accepted = Board.fresh.snapshots (history l p)
  posts : ((history l p).filterMap Event.post?).map Post.slot <+: [.started, .finished] ∧
    (run l p).accepted.length ≤ 2
  apart : ∀ before q rest, history l p = before ++ .posted q :: rest → ∀ s ≠ q.slot,
    (Board.fresh.afterAll (before ++ [.posted q])).get s = (Board.fresh.afterAll before).get s
  once : ∀ s, ∃ k f, ∀ n, (boardAt l p n).get s = if n ≤ k then .pending else f
  kept : ∀ n s, (boardAt l p n).get s ≠ .pending → (run l p).board.get s = (boardAt l p n).get s
  startsFirst : ∀ before q rest, history l p = before ++ .posted q :: rest → q.slot = .finished →
    ∃ first, .posted first ∈ before ∧ first.slot = .started
  settled : l.closesAfter = none → ∀ s, (run l p).board.get s ≠ .pending

theorem slots_history (l : Loop) (p : Pipe) :
    ((history l p).filterMap Event.post?).map Post.slot <+: [.started, .finished] := by
  rw [← p.map_slot_posts]
  exact (l.filterMap_post?_events 0 p.posts).map Post.slot

theorem exists_started_before {l : Loop} {p : Pipe} {before rest : List Event} {q : Post}
    (h : history l p = before ++ .posted q :: rest) (hq : q.slot = .finished) :
    ∃ first, .posted first ∈ before ∧ first.slot = .started := by
  have hslots := slots_history l p
  rw [h, List.filterMap_append, Event.filterMap_post?_posted, List.map_append, List.map_cons, hq]
    at hslots
  cases hbefore : before.filterMap Event.post? with
  | nil => simp [hbefore] at hslots
  | cons first more =>
    rw [hbefore, List.map_cons, List.cons_append, List.cons_prefix_cons] at hslots
    have hmem : first ∈ before.filterMap Event.post? := by simp [hbefore]
    obtain ⟨e, he, hpost⟩ := List.mem_filterMap.1 hmem
    cases e with
    | cancelled s => cases hpost
    | posted first => exact ⟨_, Option.some.inj hpost ▸ he, hslots.1⟩

/-- A relay is orderly on every pipe that ends, whenever the loop is closed and whichever futures
are cancelled between its posts. -/
theorem run_orderly (l : Loop) (p : Pipe) (hclosed : p.closed = true)
    (hsecond : ∀ m ∈ p.messages[1]?, m.Settles) : Orderly l p := by
  have hholds := Pipe.holds_posts hsecond
  obtain ⟨haccepted, hfailed⟩ := @postAll_of_holds l start p.posts rfl hholds
  have hboard : (run l p).board = Board.fresh.afterAll (history l p) := by
    rw [run_eq l hclosed]
    exact postAll_board rfl l p.posts
  have haccepted : (run l p).accepted = Board.fresh.snapshots (history l p) := by
    rw [run_eq l hclosed]
    exact haccepted
  have hslots := slots_history l p
  refine ⟨⟨?_, ?_⟩, ⟨hboard, haccepted⟩, ⟨hslots, ?_⟩, ?_, ?_, ?_, ?_, ?_⟩
  · rw [run_eq l hclosed]
    rfl
  · rw [run_eq l hclosed]
    exact hfailed
  · rw [haccepted, Board.length_snapshots]
    simpa using hslots.length_le
  · intro before q rest _ s hs
    rw [Board.afterAll_append]
    exact Board.get_after_of_ne (e := .posted q) hs _
  · intro s
    obtain ⟨k, f, h⟩ := Board.fresh.exists_change s (history l p)
    exact ⟨k, f, fun n => by rw [boardAt, h]; cases s <;> rfl⟩
  · intro n s hsettled
    have hrest := Board.get_afterAll_of_settled hsettled ((history l p).drop n)
    rwa [boardAt, ← Board.afterAll_append, List.take_append_drop, ← hboard] at hrest
  · exact fun before q rest h hq => exists_started_before h hq
  · intro hopen s
    have hmem : s ∈ p.posts.map Post.slot := by
      rw [p.map_slot_posts]
      cases s <;> simp
    obtain ⟨q, hq, rfl⟩ := List.mem_map.1 hmem
    rw [hboard]
    exact Board.get_afterAll_of_posted (hholds q hq) (Loop.posted_mem_events hopen hq 0) _

theorem run_orderly_when_overtaken :
    (Pipe.mk [ready, ⟨.ok, .value (.bool true)⟩] true).closed = true ∧
    (∀ m ∈ (Pipe.mk [ready, ⟨.ok, .value (.bool true)⟩] true).messages[1]?, m.Settles) ∧
    (run ⟨none, fun n => if n = 1 then [.finished] else []⟩
        ⟨[ready, ⟨.ok, .value (.bool true)⟩], true⟩).board = ⟨.result true, .cancelled⟩ ∧
    (run ⟨none, fun n => if n = 1 then [.finished] else []⟩
        ⟨[ready, ⟨.ok, .value (.bool true)⟩], true⟩).accepted.length ≤ 2 := by
  have hsecond :
      ∀ m ∈ (Pipe.mk [ready, ⟨.ok, .value (.bool true)⟩] true).messages[1]?, m.Settles := by
    intro m hm
    cases hm
    exact .value _ (by decide)
  have horderly := run_orderly ⟨none, fun n => if n = 1 then [.finished] else []⟩ _ rfl hsecond
  exact ⟨rfl, hsecond, horderly.told.1, horderly.posts.2⟩

end Relay

end PatternGuard.Search
