import AirBnbClone.Debounce

/-!
# The debounced streams of the cubits

`firstThenDebounce` opens an empty window for the first event of a stream and a full one for every
later event. The cubits listen to their repositories through it, so that a list is shown at once and
then at most once in each period, and so that the last change is never left out.
-/

namespace AirBnbClone

open Debounce

variable {α : Type}

/-- The closure over `first`. -/
def firstWindow (duration : ℕ) (first : Bool) (_ : α) : Bool × ℕ :=
  if first then (false, 0) else (false, duration)

def firstThenDebounce (op : Operator) (duration : ℕ) (source : List (Timed α)) :
    List (Timed α) :=
  op.debounce (firstWindow duration) true source

/-- All windows are equally long. -/
def debounceTime (op : Operator) (duration : ℕ) (source : List (Timed α)) : List (Timed α) :=
  op.debounce (fun (s : Unit) _ => (s, duration)) () source

structure HearsInTime (duration : ℕ) (source out : List (Timed α)) : Prop where
  /-- Every event is heard once at most, in order. -/
  values : (out.map Timed.value).Sublist (source.map Timed.value)
  /-- What is heard is the newest event, and no older than the period. -/
  newest : ∀ x ∈ out, ∃ before e after, source = before ++ e :: after ∧ x.value = e.value ∧
    e.time ≤ x.time ∧ x.time ≤ e.time + duration ∧ ∀ e' ∈ after, x.time ≤ e'.time
  spaced : out.Pairwise (fun x y => x.time + duration ≤ y.time)
  first : ∀ e rest, source = e :: rest → (∀ e' ∈ rest, e.time < e'.time) → out.head? = some e
  last : ∀ e, source.getLast? = some e → ∃ x, out.getLast? = some x ∧ x.value = e.value ∧
    e.time ≤ x.time ∧ x.time ≤ e.time + duration

theorem firstWindow_le (duration : ℕ) (first : Bool) (a : α) :
    (firstWindow duration first a).2 ≤ duration := by
  cases first with
  | false => exact le_rfl
  | true => exact Nat.zero_le duration

/-- Only the first window is shorter than the period. -/
theorem le_firstWindow_later (duration : ℕ) (first : Bool) (a a' : α) :
    duration ≤ (firstWindow duration (firstWindow duration first a).1 a').2 := by
  cases first <;> exact le_rfl

theorem exists_last_heard (op : Operator) (duration : ℕ) {source : List (Timed α)} {e : Timed α}
    (he : source.getLast? = some e) :
    ∃ x, (firstThenDebounce op duration source).getLast? = some x ∧ x.value = e.value ∧
      e.time ≤ x.time ∧ x.time ≤ e.time + duration := by
  obtain ⟨s, hs⟩ := (op.delivers (firstWindow duration) true source).getLast?_eq he
  exact ⟨_, hs, rfl, Nat.le_add_right _ _,
    Nat.add_le_add_left (firstWindow_le duration s e.value) _⟩

/-- Whatever the events of a stream and their times, a cubit hears through `firstThenDebounce` of
the first one at once, of the last one within the period, and of no two within one period. -/
theorem firstThenDebounce_hearsInTime (op : Operator) (duration : ℕ) (source : List (Timed α))
    (hsource : InOrder source) :
    HearsInTime duration source (firstThenDebounce op duration source) := by
  have hdelivers := op.delivers (firstWindow duration) true source
  constructor
  · exact hdelivers.values_sublist
  · intro x hx
    obtain ⟨before, e, after, s, hsplit, rfl, hafter⟩ := hdelivers.exists_event hsource hx
    exact ⟨before, e, after, hsplit, rfl, Nat.le_add_right _ _,
      Nat.add_le_add_left (firstWindow_le duration s e.value) _, hafter⟩
  · exact hdelivers.spaced hsource (le_firstWindow_later duration)
  · rintro e rest rfl halone
    exact hdelivers.head?_eq (by simpa [firstWindow] using halone)
  · exact fun e he => exists_last_heard op duration he

def threeSnapshots : List (Timed String) := [⟨100, "r1"⟩, ⟨200, "r2"⟩, ⟨600, "r3"⟩]

theorem firstThenDebounce_hearsInTime_threeSnapshots :
    HearsInTime 500 threeSnapshots [⟨100, "r1"⟩, ⟨1100, "r3"⟩] :=
  firstThenDebounce_hearsInTime Operator.eager 500 threeSnapshots (by decide)

end AirBnbClone
