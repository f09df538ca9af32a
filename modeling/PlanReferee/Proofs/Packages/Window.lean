import PlanReferee.Proofs.Packages.Audit

/-! The window of a need keeps exactly the versions that suit it. A window starts from the versions
at hand and only narrows, so that it says nothing of versions that nobody has; among those at hand
it tells the suitable ones from the others, and it may well keep none. -/

namespace PlanReferee.Packages

/-- A window that keeps, of the versions at hand, the suitable ones. -/
structure Keeps (state : State) (program library : String) (available : List Int)
    (window : Window) : Prop where
  filled : available ≠ []
  frames : Frames state program library available window
  /-- The bounds may be taken in any order, and more than once. -/
  orderless : ∀ bounds, state.Covers program library bounds → ∀ low high,
    IsLeast {v | v ∈ available} low → IsGreatest {v | v ∈ available} high →
      bounds.foldl (fun window bound => window.narrow bound.side bound.version) ⟨low, high⟩ =
        window
  inside : ∀ low high, IsLeast {v | v ∈ available} low → IsGreatest {v | v ∈ available} high →
    low ≤ window.low ∧ window.high ≤ high
  suitable : ∀ v ∈ available, window.contains v = true ↔ state.Suits program library v

/-- There is no window without versions at hand, and only then. -/
def ExactWindow (state : State) (program library : String) (available : List Int) :
    Option Window → Prop
  | none => available = []
  | some window => Keeps state program library available window

theorem Frames.inside {state : State} {program library : String} {available : List Int}
    {window : Window} (frames : Frames state program library available window) {low high : Int}
    (least : IsLeast {v | v ∈ available} low) (greatest : IsGreatest {v | v ∈ available} high) :
    low ≤ window.low ∧ window.high ≤ high :=
  ⟨frames.low.2 (.inl least), frames.high.2 (.inl greatest)⟩

theorem keeps_of_window? {state : State} {program library : String} {available : List Int}
    {window : Window} (h : state.window? program library available = some window) :
    Keeps state program library available window := by
  have frames := window_frames h
  constructor
  case filled =>
    rw [ne_eq, ← window?_eq_none_iff state program library, h]
    exact Option.some_ne_none window
  case frames => exact frames
  case orderless =>
    intro bounds covers low high least greatest
    exact (frames_foldl covers least greatest).unique frames
  case inside => exact fun low high => frames.inside
  case suitable =>
    intro v at_hand
    rw [contains_window h at_hand, all_boundsOn]

theorem window?_exact (state : State) (program library : String) (available : List Int) :
    ExactWindow state program library available (state.window? program library available) := by
  cases h : state.window? program library available with
  | none => exact (window?_eq_none_iff state program library available).mp h
  | some window => exact keeps_of_window? h

/-- A bound above all versions at hand leaves a window that holds nothing, with its low end above
the high one; a bound outside their range does not widen it. -/
example :
    let bounds : List Bound := [⟨"web", "ssl", .lower, 3⟩, ⟨"web", "ssl", .upper, 9⟩]
    State.window? { bounds := .ofList bounds } "web" "ssl" [2, -1, 2] = some ⟨3, 2⟩ := by
  decide +kernel

end PlanReferee.Packages
