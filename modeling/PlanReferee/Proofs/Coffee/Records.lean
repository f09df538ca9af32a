import PlanReferee.Proofs.Grammar
import PlanReferee.Proofs.Review
import PlanReferee.World.Coffee

/-! What the facts of a coffee puzzle state, and how the last of them on one subject is found. -/

namespace PlanReferee.Coffee

/-- The name of the facts that state a room of a kind. -/
def RoomKind.word : RoomKind → String
  | plain => "room"
  | office => "office"
  | kitchen => "kitchen"

/-- What a fact states. The name of a door may hold commas, those of the rooms it joins may not. -/
def States (fact : Fact) : Record → Prop
  | .door name => fact.name = "door" ∧ name = fact.args
  | .room name kind => fact.name = kind.word ∧ name = fact.args
  | .drink name => fact.name = "drink" ∧ name = fact.args
  | .connected a b door => fact.name = "connected" ∧ ',' ∉ a.toList ∧ ',' ∉ b.toList ∧
      fact.args = a ++ "," ++ b ++ "," ++ door

/-- Some fact states this. -/
def Stated (facts : List Fact) (record : Record) : Prop := ∃ fact ∈ facts, States fact record

/-- What the last fact on a subject says of it, if any fact says something. -/
def LastSaid {α : Type} (facts : List Fact) (tells? : Record → Option α) : Option α → Prop
  | none => ∀ record, Stated facts record → tells? record = none
  | some value => ∃ before fact after record, facts = before ++ fact :: after ∧
      States fact record ∧ tells? record = some value ∧
      ∀ other, Stated after other → tells? other = none

/-- Three free places take what stands before the first comma, before the second one and behind it. -/
theorem splitArgs?_three (args : String) (values : List (List Char)) :
    splitArgs? [.any, .any, .any] args.toList = some values ↔
      ∃ a b c : String, ',' ∉ a.toList ∧ ',' ∉ b.toList ∧ args = a ++ "," ++ b ++ "," ++ c ∧
        values = [a.toList, b.toList, c.toList] := by
  have joined : ∀ a b c : String, args = a ++ "," ++ b ++ "," ++ c ↔
      args.toList = a.toList ++ ',' :: (b.toList ++ ',' :: c.toList) := by
    intro a b c
    rw [← String.toList_inj]
    simp only [String.toList_append, List.append_assoc]
    exact Iff.rfl
  simp only [splitArgs?_cons, splitArgs?_singleton, Slot.accepts, true_and, joined]
  constructor
  · rintro ⟨a, _, _, split, plain, ⟨b, c, _, rfl, plain', rfl, rfl⟩, rfl⟩
    refine ⟨String.ofList a, String.ofList b, String.ofList c, ?_⟩
    simp only [String.toList_ofList]
    exact ⟨plain, plain', split, trivial⟩
  · rintro ⟨a, b, c, plain, plain', split, rfl⟩
    exact ⟨a.toList, _, _, split, plain, ⟨b.toList, c.toList, _, rfl, plain', rfl, rfl⟩, rfl⟩

theorem read?_eq_some_iff (fact : Fact) (record : Record) :
    lexicon.read? fact = some record ↔ States fact record := by
  have distinct : (lexicon.map Entry.name).Nodup := by decide +kernel
  rw [Lexicon.read?_eq_some_iff distinct]
  simp only [lexicon, List.mem_cons, exists_eq_or_imp, List.not_mem_nil, or_false, exists_eq_left,
    Entry.read?_unary]
  simp only [Entry.read?_eq_some_iff, splitArgs?_three]
  cases record with
  | room name kind => cases kind <;> simp [States, RoomKind.word]
  | _ => simp [States]

theorem knows_eq_false_iff (fact : Fact) :
    world.knows fact = false ↔ ∀ record, ¬ States fact record := by
  simp only [← read?_eq_some_iff]
  rw [World.knows, Option.isSome_eq_false_iff, Option.isNone_iff_eq_none]
  exact Option.eq_none_iff_forall_ne_some

theorem LastSaid.stated {α : Type} {facts : List Fact} {tells? : Record → Option α} {value : α}
    (said : LastSaid facts tells? (some value)) :
    ∃ record, Stated facts record ∧ tells? record = some value := by
  obtain ⟨before, fact, after, record, rfl, states, tells, _⟩ := said
  exact ⟨record, ⟨fact, List.mem_append_right before List.mem_cons_self, states⟩, tells⟩

/-! What is left of all facts. -/

/-- What is known after all facts. -/
def after (facts : List Fact) : State := world.offerAll facts

theorem kept_after {Kept : State → Prop} (fresh : Kept {})
    (note : ∀ (state : State) record, Kept state → Kept (state.note record)) (facts : List Fact) :
    Kept (after facts) :=
  @World.kept_offerAll world Kept fresh note facts

theorem marked_after (Marked : State → Prop) {Marks : Record → Prop} (fresh : ¬ Marked {})
    (note : ∀ (state : State) record, Marked (state.note record) ↔ Marks record ∨ Marked state)
    (facts : List Fact) : Marked (after facts) ↔ ∃ record, Stated facts record ∧ Marks record := by
  have marked := @World.marked_offerAll world Marked Marks fresh note facts
  refine marked.trans ⟨?_, ?_⟩
  · rintro ⟨fact, given, record, read, marks⟩
    exact ⟨record, ⟨fact, given, (read?_eq_some_iff fact record).mp read⟩, marks⟩
  · rintro ⟨record, ⟨fact, given, states⟩, marks⟩
    exact ⟨fact, given, record, (read?_eq_some_iff fact record).mpr states, marks⟩

theorem silent_iff {α : Type} (facts : List Fact) (tells? : Record → Option α) :
    (∀ record, Stated facts record → tells? record = none) ↔
      ∀ fact ∈ facts, (lexicon.read? fact).bind tells? = none := by
  simp only [Option.bind_eq_none_iff, read?_eq_some_iff, Stated, forall_exists_index, and_imp]
  exact ⟨fun h fact given record => h record fact given,
    fun h record fact given => h fact given record⟩

theorem lastSaid_iff {α : Type} (facts : List Fact) (tells? : Record → Option α)
    (value? : Option α) : LastSaid facts tells? value? ↔
      (facts.filterMap fun fact => (lexicon.read? fact).bind tells?).getLast? = value? := by
  cases value? with
  | none => rw [List.getLast?_eq_none_iff, List.filterMap_eq_nil_iff, LastSaid, silent_iff]
  | some value =>
    simp only [LastSaid, getLast?_filterMap, Option.bind_eq_some_iff, read?_eq_some_iff, silent_iff]
    constructor
    · rintro ⟨before, fact, after, record, split, states, tells, rest⟩
      exact ⟨before, fact, after, split, ⟨record, states, tells⟩, rest⟩
    · rintro ⟨before, fact, after, split, ⟨record, states, tells⟩, rest⟩
      exact ⟨before, fact, after, record, split, states, tells, rest⟩

theorem LastSaid.unique {α : Type} {facts : List Fact} {tells? : Record → Option α}
    {value? other? : Option α} (h : LastSaid facts tells? value?)
    (h' : LastSaid facts tells? other?) : value? = other? :=
  ((lastSaid_iff facts tells? value?).mp h).symm.trans ((lastSaid_iff facts tells? other?).mp h')

theorem lastSaid_after {α : Type} (value? : State → Option α) {tells? : Record → Option α}
    (fresh : value? {} = none)
    (note : ∀ (state : State) record,
      value? (state.note record) = (tells? record).or (value? state)) (facts : List Fact) :
    LastSaid facts tells? (value? (after facts)) :=
  (lastSaid_iff facts tells? _).mpr
    (@World.latest_offerAll world α value? tells? fresh note facts).symm

end PlanReferee.Coffee
