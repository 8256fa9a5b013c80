import Mathlib.Data.List.Basic
import Mathlib.Data.List.Flatten

namespace Await

/-- A machine that replies to every event. -/
structure Machine (State Event Reply : Type) where
  step : State → Event → State × Reply

namespace Machine
variable {State Event Reply : Type}

def run (m : Machine State Event Reply) (s : State) : List Event → State
  | [] => s
  | event :: rest => m.run (m.step s event).1 rest

/-- The events of a run with the replies to them. -/
def replies (m : Machine State Event Reply) (s : State) : List Event → List (Event × Reply)
  | [] => []
  | event :: rest => (event, (m.step s event).2) :: m.replies (m.step s event).1 rest

variable (m : Machine State Event Reply)

theorem replies_append (s : State) (first second : List Event) :
    m.replies s (first ++ second) = m.replies s first ++ m.replies (m.run s first) second := by
  induction first generalizing s with
  | nil => rfl
  | cons event rest ih => exact congrArg (List.cons _) (ih _)

/-- The entries of a run are the replies to its events, each where its event is. -/
theorem mem_replies {s : State} {events : List Event} {event : Event} {reply : Reply} :
    (event, reply) ∈ m.replies s events ↔
      ∃ before rest, events = before ++ event :: rest ∧ reply = (m.step (m.run s before) event).2 := by
  constructor
  · intro member
    induction events generalizing s with
    | nil => cases member
    | cons first rest ih =>
      rcases List.mem_cons.mp member with same | later
      · cases same
        exact ⟨[], rest, rfl, rfl⟩
      · obtain ⟨before, after, split, replied⟩ := ih later
        exact ⟨first :: before, after, congrArg (List.cons first) split, replied⟩
  · rintro ⟨before, rest, rfl, rfl⟩
    rw [replies_append]
    exact List.mem_append_right _ (List.mem_cons_self ..)

/-- A record to which every step adds what its reply notes holds, after a run,
all that the replies of the run note. -/
theorem record_run {Note : Type} (record : State → List Note) (note : Event × Reply → List Note)
    (step : ∀ s event, record (m.step s event).1 = record s ++ note (event, (m.step s event).2))
    (s : State) (events : List Event) : record (m.run s events) = record s ++ (m.replies s events).flatMap note := by
  induction events generalizing s with
  | nil => exact (List.append_nil _).symm
  | cons event rest ih =>
    have later := ih (m.step s event).1
    rw [step, List.append_assoc] at later
    exact later

/-- What every step keeps, a run keeps. -/
theorem keeps {I : State → Prop} (step : ∀ s event, I s → I (m.step s event).1) {s : State} (start : I s) (events : List Event) :
    I (m.run s events) := by
  induction events generalizing s with
  | nil => exact start
  | cons event rest ih => exact ih (step s event start)

end Machine

/-- Where one note is always a part of another, the notes on a list agree only if
those on each of its entries do. -/
theorem flatMap_eq_iff {α β : Type} {f g : α → List β} (part : ∀ x, (f x).Sublist (g x)) (entries : List α) :
    entries.flatMap f = entries.flatMap g ↔ ∀ x ∈ entries, f x = g x := by
  refine ⟨fun same => ?_, fun same => List.flatMap_congr same⟩
  induction entries with
  | nil => intro x member; cases member
  | cons first rest ih =>
    have later : (rest.flatMap f).Sublist (rest.flatMap g) := List.Sublist.flatMap_right rest fun x _ => part x
    have lengths := congrArg List.length same
    simp only [List.flatMap_cons, List.length_append] at lengths
    have here := (part first).length_le
    have there := later.length_le
    have firstSame := (part first).eq_of_length (by omega)
    have restSame := later.eq_of_length (by omega)
    intro x member
    rcases List.mem_cons.mp member with rfl | after
    · exact firstSame
    · exact ih restSame x after

variable {World State Event Reply Key : Type} [DecidableEq Key]

/-- A machine that is made of parts under keys: an event moves the part under its
own key, as that part moves alone, and leaves the other parts as they are. -/
structure Splits (whole : Machine World Event Reply) (part : Machine State Event Reply) (key : Event → Key)
    (view : Key → World → State) : Prop where
  moves : ∀ w event, view (key event) (whole.step w event).1 = (part.step (view (key event) w) event).1
  replies : ∀ w event, (whole.step w event).2 = (part.step (view (key event) w) event).2
  others : ∀ w event k, k ≠ key event → view k (whole.step w event).1 = view k w

namespace Splits
variable {whole : Machine World Event Reply} {part : Machine State Event Reply} {key : Event → Key} {view : Key → World → State}

/-- Along a run, a part goes as it does alone along the events under its key. -/
theorem run_view (splits : Splits whole part key view) (w : World) (events : List Event) (k : Key) :
    view k (whole.run w events) = part.run (view k w) (events.filter fun event => key event = k) := by
  induction events generalizing w with
  | nil => rfl
  | cons event rest ih =>
    have later := ih (whole.step w event).1
    by_cases mine : key event = k
    · have moved := splits.moves w event
      rw [mine] at moved
      rw [List.filter_cons_of_pos (by simpa using mine), Machine.run, Machine.run, later, moved]
    · rw [List.filter_cons_of_neg (by simpa using mine), Machine.run, later, splits.others w event k (Ne.symm mine)]

/-- Runs with the same events under a key leave the same part under it. -/
theorem run_congr (splits : Splits whole part key view) (w : World) {events events' : List Event} {k : Key}
    (same : (events.filter fun event => key event = k) = events'.filter fun event => key event = k) :
    view k (whole.run w events) = view k (whole.run w events') := by
  rw [splits.run_view, splits.run_view, same]

/-- And the same next reply to an event under it. -/
theorem reply_congr (splits : Splits whole part key view) (w : World) {events events' : List Event} {event : Event}
    (same : (events.filter fun other => key other = key event) = events'.filter fun other => key other = key event) :
    (whole.step (whole.run w events) event).2 = (whole.step (whole.run w events') event).2 := by
  rw [splits.replies, splits.replies, splits.run_congr w same]

end Splits

end Await
