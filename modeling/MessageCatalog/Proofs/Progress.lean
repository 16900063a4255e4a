import Mathlib
import MessageCatalog.Progress

/-! # When a directory completes

The counters say how many events of each kind there were, in whatever order they came. If no file is
discovered behind the end of the listing, then nothing but that end can come behind completion: a
file that is finished later would be one more than there are. So completion is told once, by the last
event.
-/

namespace MessageCatalog.Progress

/-- The progress after events that are recorded one after the other. -/
def after (p : Progress) : List Event → Progress
  | [] => p
  | event :: events => (p.record event).2.after events

/-- What is told at each of these events. -/
def answers (p : Progress) : List Event → List (Option Bool)
  | [] => []
  | event :: events => (p.record event).1 :: (p.record event).2.answers events

/-- How events come in a traversal: at no time are more files finished than discovered, and no file
is discovered once the listing has ended. -/
structure Orderly (events : List Event) : Prop where
  finished_le : ∀ before, before <+: events →
    before.count .finished ≤ before.count .discovered
  closed : ∀ before behind, events = before ++ .listingDone :: behind → .discovered ∉ behind

/-- The events of a directory whose listing gives `n` files and ends. -/
structure AllOf (n : Nat) (events : List Event) : Prop where
  discovered : events.count .discovered = n
  finished : events.count .finished = n
  listingDone : events.count .listingDone = 1

variable {p : Progress} {event : Event} {events before behind : List Event}

/-! ## Counters and answers -/

theorem after_eq (p : Progress) (events : List Event) :
    p.after events = ⟨p.discovered + events.count .discovered,
      p.finished + events.count .finished, p.listingDone || events.contains .listingDone⟩ := by
  induction events generalizing p with
  | nil => simp [after]
  | cons event events ih =>
      rw [after, ih]
      cases event <;>
        simp [record, childDiscovered, childFinished, listingFinished, Nat.add_assoc, Nat.add_comm 1]

theorem after_concat (p : Progress) (before : List Event) (event : Event) :
    p.after (before ++ [event]) = ((p.after before).record event).2 := by
  induction before generalizing p with
  | nil => rfl
  | cons first before ih => exact ih (p.record first).2

theorem answers_append (p : Progress) (before behind : List Event) :
    p.answers (before ++ behind) = p.answers before ++ (p.after before).answers behind := by
  induction before generalizing p with
  | nil => rfl
  | cons first before ih => exact congrArg _ (ih (p.record first).2)

/-- What is told at an event is whether the directory is complete behind it, unless a file was
discovered. -/
theorem record_eq_true_iff : (p.record event).1 = some true ↔
    event ≠ .discovered ∧ (p.record event).2.isComplete = true := by
  cases event <;> simp [record, childFinished, listingFinished]

theorem isComplete_after_iff : (initial.after events).isComplete = true ↔
    .listingDone ∈ events ∧ events.count .finished = events.count .discovered := by
  simp [after_eq, initial, isComplete]

theorem exists_of_mem_answers (told : some true ∈ p.answers events) :
    ∃ before event behind, events = before ++ event :: behind ∧
      (p.after (before ++ [event])).isComplete = true := by
  induction events generalizing p with
  | nil => cases told
  | cons first events ih =>
      rcases List.mem_cons.mp told with here | later
      · exact ⟨[], first, events, rfl, (record_eq_true_iff.mp here.symm).2⟩
      · obtain ⟨before, event, behind, rfl, complete⟩ := ih later
        exact ⟨first :: before, event, behind, rfl, complete⟩

/-! ## Behind completion -/

namespace Orderly

variable (orderly : Orderly (before ++ behind))
  (complete : (initial.after before).isComplete = true)
include orderly complete

/-- Behind completion nothing but the end of the listing can come. -/
theorem eq_listingDone : ∀ event ∈ behind, event = .listingDone := by
  obtain ⟨ended, done⟩ := isComplete_after_iff.mp complete
  have closed : .discovered ∉ behind := by
    obtain ⟨front, rest, rfl⟩ := List.append_of_mem ended
    refine fun later => orderly.closed front (rest ++ behind) ?_ (List.mem_append_right rest later)
    rw [List.append_assoc, List.cons_append]
  have finished : behind.count .finished = 0 := by
    have within := orderly.finished_le _ List.prefix_rfl
    rw [List.count_append, List.count_append, List.count_eq_zero.mpr closed] at within
    omega
  intro event among
  cases event with
  | discovered => exact absurd among closed
  | finished => exact absurd among (List.count_eq_zero.mp finished)
  | listingDone => rfl

theorem isComplete_append : (initial.after (before ++ behind)).isComplete = true := by
  obtain ⟨ended, done⟩ := isComplete_after_iff.mp complete
  have only := orderly.eq_listingDone complete
  have discovered : .discovered ∉ behind := fun among => nomatch only _ among
  have finished : .finished ∉ behind := fun among => nomatch only _ among
  refine isComplete_after_iff.mpr ⟨List.mem_append_left behind ended, ?_⟩
  rw [List.count_append, List.count_append, List.count_eq_zero.mpr discovered,
    List.count_eq_zero.mpr finished, done]

theorem eq_nil (once : (before ++ behind).count .listingDone = 1) : behind = [] := by
  have ended := List.count_pos_iff.mpr (isComplete_after_iff.mp complete).1
  rw [List.count_append] at once
  have none : behind.count .listingDone = 0 := by omega
  refine List.eq_nil_iff_forall_not_mem.mpr fun event among => ?_
  rw [orderly.eq_listingDone complete event among] at among
  exact List.count_eq_zero.mp none among

end Orderly

theorem Orderly.not_allOf_concat_discovered {front : List Event} {n : Nat}
    (orderly : Orderly (front ++ [.discovered])) : ¬AllOf n (front ++ [.discovered]) := by
  intro all
  have within := orderly.finished_le front ⟨[.discovered], rfl⟩
  have finished : front.count .finished = n := by
    rw [← all.finished, List.count_append]
    rfl
  have discovered : front.count .discovered + 1 = n := by
    rw [← all.discovered, List.count_append]
    rfl
  omega

/-- Whatever the order of the events, the counters tell their numbers, and files in flight are those
that are discovered and not finished, of which there are never less than none. If all files of a
directory are finished and its listing has ended once, the last of these events tells that the
directory is complete, no event tells it before, and the directory is not complete before. If a file
is never finished, or the listing does not end, no event ever tells so. -/
theorem completes_with_last (orderly : Orderly events) :
    (∀ before, before <+: events →
      let p := initial.after before
      p.discovered = before.count .discovered ∧ p.finished = before.count .finished ∧
        p.finished ≤ p.discovered ∧
        p.inFlight + before.count .finished = before.count .discovered) ∧
    (∀ n, AllOf n events →
      (∃ front, initial.answers events = front ++ [some true] ∧ some true ∉ front) ∧
      (∀ before, before <+: events →
        ((initial.after before).isComplete = true ↔ before = events))) ∧
    (events.count .finished < events.count .discovered ∨ .listingDone ∉ events →
      some true ∉ initial.answers events) := by
  refine ⟨fun before first => ?_, fun n all => ?_, fun unfinished told => ?_⟩
  · have within := orderly.finished_le before first
    simp only [after_eq, initial, inFlight]
    omega
  · have whole : (initial.after events).isComplete = true :=
      isComplete_after_iff.mpr ⟨List.count_pos_iff.mp (by rw [all.listingDone]; exact Nat.one_pos),
        all.finished.trans all.discovered.symm⟩
    have only : ∀ before behind, events = before ++ behind →
        (initial.after before).isComplete = true → behind = [] := by
      rintro before behind rfl complete
      exact orderly.eq_nil complete all.listingDone
    constructor
    · rcases List.eq_nil_or_concat events with rfl | ⟨front, last, split⟩
      · cases all.listingDone
      · rw [List.concat_eq_append] at split
        have told : ((initial.after front).record last).1 = some true := by
          refine record_eq_true_iff.mpr ⟨?_, by rw [← after_concat, ← split, whole]⟩
          rintro rfl
          exact (split ▸ orderly).not_allOf_concat_discovered (split ▸ all)
        refine ⟨initial.answers front, by rw [split, answers_append, answers, answers, told], ?_⟩
        intro earlier
        obtain ⟨before, event, behind, rfl, complete⟩ := exists_of_mem_answers earlier
        have rest := only (before ++ [event]) (behind ++ [last]) (by simp [split]) complete
        exact List.concat_ne_nil last behind (List.concat_eq_append ▸ rest)
    · rintro before ⟨behind, rfl⟩
      refine ⟨fun complete => ?_, fun same => same ▸ whole⟩
      rw [only before behind rfl complete, List.append_nil]
  · obtain ⟨before, event, behind, rfl, complete⟩ := exists_of_mem_answers told
    rw [List.append_cons] at orderly unfinished
    obtain ⟨ended, done⟩ := isComplete_after_iff.mp (orderly.isComplete_append complete)
    rcases unfinished with fewer | open_
    · omega
    · exact open_ ended

/-- A file is discovered after the first one was finished, and finished after the listing has
ended. -/
theorem completes_with_last_two_files :
    let events : List Event := [.discovered, .finished, .discovered, .listingDone, .finished]
    Orderly events ∧ AllOf 2 events ∧
      ∃ front, initial.answers events = front ++ [some true] ∧ some true ∉ front := by
  intro events
  have orderly : Orderly events := by
    have within : ∀ before ∈ events.inits, before.count .finished ≤ before.count .discovered := by
      decide
    have closed : ∀ rest ∈ events.tails, rest.head? = some .listingDone →
        .discovered ∉ rest.tail := by decide
    exact ⟨fun before first => within before ((List.mem_inits before events).mpr first),
      fun before behind split => closed _ ((List.mem_tails _ _).mpr ⟨before, split.symm⟩) rfl⟩
  have all : AllOf 2 events := ⟨rfl, rfl, rfl⟩
  exact ⟨orderly, all, ((completes_with_last orderly).2.1 2 all).1⟩

end MessageCatalog.Progress
