import PlanReferee.Proofs.Coffee.Layout

/-! Doors and neighbours. Which rooms are neighbours is kept beside the doors, and only grows, while a
door keeps the last pair of rooms that it was said to join. So rooms that a door has once joined stay
neighbours. -/

namespace PlanReferee.Coffee

/-- A stored door joins two rooms, in this order or in the other one. -/
def State.Joined (state : State) (a b : String) : Prop :=
  ∃ (name : String) (door : Door), state.doors[name]? = some door ∧
    (door.joins = some (a, b) ∨ door.joins = some (b, a))

/-- The neighbours of each room are those that some door leads to. -/
def State.Agrees (state : State) : Prop := ∀ a b, b ∈ state.nextTo a ↔ state.Joined a b

/-- The last word on some door is that it joins these two rooms, in this order or in the other one. -/
def LastJoined (facts : List Fact) (a b : String) : Prop :=
  ∃ name, LastSaid facts (Record.pair? name) (some (a, b)) ∨
    LastSaid facts (Record.pair? name) (some (b, a))

theorem pair?_eq_some_iff (state : State) (name : String) (pair : String × String) :
    state.pair? name = some pair ↔
      ∃ door, state.doors[name]? = some door ∧ door.joins = some pair := by
  rw [State.pair?, Option.bind_eq_some_iff]

theorem joined_iff (facts : List Fact) (a b : String) :
    (after facts).Joined a b ↔ LastJoined facts a b := by
  have last : ∀ name pair, LastSaid facts (Record.pair? name) (some pair) ↔
      ∃ door, (after facts).doors[name]? = some door ∧ door.joins = some pair := by
    intro name pair
    rw [← pair?_eq_some_iff]
    exact ⟨(pair?_after facts name).unique, fun h => h ▸ pair?_after facts name⟩
  simp only [State.Joined, LastJoined, last, and_or_left, exists_or]

theorem stated_of_pair {facts : List Fact} {name a b : String}
    (said : LastSaid facts (Record.pair? name) (some (a, b))) :
    Stated facts (.connected a b name) := by
  obtain ⟨record, stated, tells⟩ := said.stated
  cases record with
  | connected x y through =>
    simp only [Record.pair?, Option.ite_none_right_eq_some, Option.some.injEq,
      Prod.mk.injEq] at tells
    obtain ⟨rfl, rfl, rfl⟩ := tells
    exact stated
  | _ => cases tells

theorem nextTo_of_lastJoined {facts : List Fact} {a b : String} (last : LastJoined facts a b) :
    b ∈ (after facts).nextTo a := by
  rw [mem_nextTo_after]
  obtain ⟨name, said | said⟩ := last
  · exact ⟨name, .inl (stated_of_pair said)⟩
  · exact ⟨name, .inr (stated_of_pair said)⟩

theorem lastJoined_comm (facts : List Fact) (a b : String) :
    LastJoined facts a b ↔ LastJoined facts b a := by
  simp only [LastJoined, or_comm]

theorem agrees_after_iff (facts : List Fact) : (after facts).Agrees ↔
    ∀ a b door, Stated facts (.connected a b door) → LastJoined facts a b := by
  simp only [State.Agrees, joined_iff]
  constructor
  · intro agrees a b door stated
    exact (agrees a b).mp ((mem_nextTo_after facts a b).mpr ⟨door, .inl stated⟩)
  · refine fun kept a b => ⟨fun beside => ?_, nextTo_of_lastJoined⟩
    obtain ⟨door, stated | stated⟩ := (mem_nextTo_after facts a b).mp beside
    · exact kept a b door stated
    · exact (lastJoined_comm facts a b).mpr (kept b a door stated)

/-- A door that is said to join one pair of rooms only keeps it. -/
theorem lastJoined_of_agreed {facts : List Fact} {a b door : String}
    (agreed : Agreed facts (Record.pair? door)) (stated : Stated facts (.connected a b door)) :
    LastJoined facts a b := by
  refine ⟨door, .inl ((agreed.lastSaid_iff _).mpr fun pair => ⟨?_, ?_⟩)⟩
  · rintro ⟨rfl⟩
    exact ⟨_, stated, by simp [Record.pair?]⟩
  · rintro ⟨record, stated', tells⟩
    exact congrArg some (agreed _ _ _ _ stated stated' (by simp [Record.pair?]) tells)

/-- Doors lead to neighbours only. That all neighbours are behind a door holds exactly when each two
rooms that were ever connected are still what some door joins, and so where no door is connected to
two pairs of rooms. -/
theorem neighbours_agree_iff (facts : List Fact) :
    (∀ a b, State.Joined (world.offerAll facts) a b →
      b ∈ State.nextTo (world.offerAll facts) a) ∧
    (State.Agrees (world.offerAll facts) ↔
      ∀ a b door, Stated facts (.connected a b door) → LastJoined facts a b) ∧
    ((∀ door, Agreed facts (Record.pair? door)) → State.Agrees (world.offerAll facts)) := by
  refine ⟨fun a b joined => ?_, agrees_after_iff facts, fun agreed => ?_⟩
  · exact nextTo_of_lastJoined ((joined_iff facts a b).mp joined)
  · exact (agrees_after_iff facts).mpr fun a b door => lastJoined_of_agreed (agreed door)

/-- One door, first between the rooms a and b, then between a and c. -/
def rehung : List String := ["connected(a,b,d)", "connected(a,c,d)"]

def rehungFacts : List Fact :=
  [⟨"connected(a,b,d)", "connected", "a,b,d"⟩, ⟨"connected(a,c,d)", "connected", "a,c,d"⟩]

/-- The room b stays a neighbour of a, though no door leads there any more. -/
theorem rehung_not_agrees : Fact.readAll rehung = .ok rehungFacts ∧
    "b" ∈ State.nextTo (world.offerAll rehungFacts) "a" ∧
    ¬ State.Joined (world.offerAll rehungFacts) "a" "b" := by
  have doors : (after rehungFacts).doors.toList = [("d", ⟨"d", some ("a", "c"), false⟩)] := by
    decide +kernel
  refine ⟨by decide +kernel, by decide +kernel, ?_⟩
  rintro ⟨name, door, stored, joins⟩
  rw [← Std.ExtTreeMap.mem_toList_iff_getElem?_eq_some] at stored
  have only : (name, door) = ("d", ⟨"d", some ("a", "c"), false⟩) :=
    List.mem_singleton.mp (doors ▸ stored)
  cases only
  revert joins
  decide

end PlanReferee.Coffee
