import PlanReferee.Proofs.Coffee.Records
import PlanReferee.Proofs.Plan.Reordering
import PlanReferee.Proofs.Verdict

/-! The layout that facts describe: which rooms and doors there are, of what kind a room is, what a
door joins and which rooms are neighbours. The facts leave nothing open, and as long as they do not
contradict each other, neither their order nor their repetition shows. -/

namespace PlanReferee.Coffee

open Std (ExtTreeMap ExtTreeSet)

/-- The two rooms that a record lets a door join. -/
def Record.pair? (door : String) : Record → Option (String × String)
  | connected a b through => if through = door then some (a, b) else none
  | _ => none

/-- The kind that a record gives to a room, other than that of a plain one. -/
def Record.special? (name : String) : Record → Option RoomKind
  | room called kind => if called = name ∧ kind ≠ .plain then some kind else none
  | _ => none

/-- A state that has what the facts say, and nothing else. -/
structure Describes (facts : List Fact) (state : State) : Prop where
  neighbours : ∀ room, Lists (fun next => ∃ door, Stated facts (.connected room next door) ∨
    Stated facts (.connected next room door)) (state.nextTo room)
  adjoining : ∀ room, room ∈ state.adjacency ↔ state.nextTo room ≠ []
  doors : ∀ name, name ∈ state.doors ↔
    Stated facts (.door name) ∨ ∃ a b, Stated facts (.connected a b name)
  door : ∀ (name : String) (door : Door), state.doors[name]? = some door →
    door.name = name ∧ door.isOpen = false ∧ LastSaid facts (Record.pair? name) door.joins
  rooms : ∀ name, name ∈ state.rooms ↔ ∃ kind, Stated facts (.room name kind)
  room : ∀ (name : String) (room : Room), state.rooms[name]? = some room →
    room.name = name ∧ room.drinks = ∅ ∧
      ∃ special?, LastSaid facts (Record.special? name) special? ∧
        room.kind = special?.getD .plain
  drinks : ∀ name, name ∈ state.drinks ↔ Stated facts (.drink name)

/-- No room is called both an office and a kitchen, and no door is said to join two pairs of
rooms. -/
structure Consistent (facts : List Fact) : Prop where
  rooms : ∀ name, Stated facts (.room name .office) → ¬ Stated facts (.room name .kitchen)
  doors : ∀ name a b a' b', Stated facts (.connected a b name) →
    Stated facts (.connected a' b' name) → (a, b) = (a', b')

/-! What one record does. -/

/-- What becomes of a door. A door that is only named stays as it is. -/
def Record.onDoor (name : String) (known? : Option Door) : Record → Option Door
  | door called => if called = name then some (known?.getD { name := called }) else known?
  | connected a b through =>
    if through = name then some { known?.getD { name := through } with joins := some (a, b) }
    else known?
  | _ => known?

/-- What becomes of a room. A room that is called a plain one stays as it is. -/
def Record.onRoom (name : String) (known? : Option Room) : Record → Option Room
  | room called .plain => if called = name then some (known?.getD { name := called }) else known?
  | room called kind =>
    if called = name then some { known?.getD { name := called } with kind } else known?
  | _ => known?

theorem getElem?_insertIfNew_eq {ν : Type} (entries : ExtTreeMap String ν) (key name : String)
    (value : ν) : (entries.insertIfNew key value)[name]? =
      if key = name then some (entries[name]?.getD value) else entries[name]? := by
  simp only [ExtTreeMap.getElem?_insertIfNew, Std.compare_eq_iff_eq]
  by_cases same : key = name
  · subst same
    simp only [ExtTreeMap.mem_iff_isSome_getElem?, true_and, if_true]
    cases entries[key]? <;> rfl
  · simp only [same, false_and, if_false]

theorem getElem?_alter_eq {ν : Type} (entries : ExtTreeMap String ν) (key name : String)
    (change : Option ν → Option ν) : (entries.alter key change)[name]? =
      if key = name then change entries[name]? else entries[name]? := by
  simp only [ExtTreeMap.getElem?_alter, Std.compare_eq_iff_eq]
  by_cases same : key = name
  · simp only [same, if_true]
  · simp only [same, if_false]

theorem getElem?_doors_note (state : State) (record : Record) (name : String) :
    (state.note record).doors[name]? = record.onDoor name state.doors[name]? := by
  cases record with
  | door called => exact getElem?_insertIfNew_eq state.doors called name _
  | room called kind => cases kind <;> rfl
  | drink called => rfl
  | connected a b through => exact getElem?_alter_eq state.doors through name _

theorem getElem?_rooms_note (state : State) (record : Record) (name : String) :
    (state.note record).rooms[name]? = record.onRoom name state.rooms[name]? := by
  cases record with
  | room called kind =>
    cases kind with
    | plain => exact getElem?_insertIfNew_eq state.rooms called name _
    | office => exact getElem?_alter_eq state.rooms called name _
    | kitchen => exact getElem?_alter_eq state.rooms called name _
  | _ => rfl

/-- The adjacency has one room beside another. -/
def State.Beside (state : State) (room next : String) : Prop :=
  ∃ known, state.adjacency[room]? = some known ∧ next ∈ known

/-- A record connects two rooms, in this order or in the other one. -/
def Record.Links (room next : String) : Record → Prop
  | connected a b _ => a = room ∧ b = next ∨ a = next ∧ b = room
  | _ => False

theorem beside_note (state : State) (record : Record) (room next : String) :
    (state.note record).Beside room next ↔ record.Links room next ∨ state.Beside room next := by
  cases record with
  | connected a b door =>
    have filed : (state.note (.connected a b door)).Beside room next ↔
        (state.Beside room next ∨ room = a ∧ next = b) ∨ room = b ∧ next = a := by
      rw [State.Beside, State.note]
      dsimp only
      rw [adjoin, filed_iff, adjoin, filed_iff]
      exact Iff.rfl
    rw [filed, Record.Links]
    grind
  | room name kind => cases kind <;> simp [State.note, State.Beside, Record.Links]
  | _ => simp [State.note, State.Beside, Record.Links]

/-! What a state shows. -/

theorem mem_nextTo (state : State) (room next : String) :
    next ∈ state.nextTo room ↔ state.Beside room next := by
  rw [State.nextTo, State.Beside]
  cases state.adjacency[room]? <;> simp

theorem nextTo_ascending (state : State) (room : String) :
    (state.nextTo room).Pairwise fun a b => compare a b = .lt := by
  rw [State.nextTo]
  cases state.adjacency[room]? with
  | none => exact .nil
  | some known => exact known.ordered_toList

def Record.NamesDoor (name : String) : Record → Prop
  | door called => called = name
  | connected _ _ through => through = name
  | _ => False

def Record.NamesRoom (name : String) : Record → Prop
  | room called _ => called = name
  | _ => False

theorem mem_doors_note (state : State) (record : Record) (name : String) :
    name ∈ (state.note record).doors ↔ record.NamesDoor name ∨ name ∈ state.doors := by
  rw [ExtTreeMap.mem_iff_isSome_getElem?, ExtTreeMap.mem_iff_isSome_getElem?, getElem?_doors_note]
  cases record with
  | door called => by_cases same : called = name <;> simp [Record.onDoor, Record.NamesDoor, same]
  | connected a b through =>
    by_cases same : through = name <;> simp [Record.onDoor, Record.NamesDoor, same]
  | _ => simp [Record.onDoor, Record.NamesDoor]

theorem mem_rooms_note (state : State) (record : Record) (name : String) :
    name ∈ (state.note record).rooms ↔ record.NamesRoom name ∨ name ∈ state.rooms := by
  rw [ExtTreeMap.mem_iff_isSome_getElem?, ExtTreeMap.mem_iff_isSome_getElem?, getElem?_rooms_note]
  cases record with
  | room called kind =>
    by_cases same : called = name <;> cases kind <;>
      simp [Record.onRoom, Record.NamesRoom, same]
  | _ => simp [Record.onRoom, Record.NamesRoom]

theorem mem_drinks_note (state : State) (record : Record) (name : String) :
    name ∈ (state.note record).drinks ↔ record = .drink name ∨ name ∈ state.drinks := by
  cases record with
  | room called kind => cases kind <;> simp [State.note]
  | _ => simp [State.note]

/-- The rooms that a stored door joins. -/
def State.pair? (state : State) (door : String) : Option (String × String) :=
  (state.doors[door]?).bind Door.joins

theorem pair?_note (state : State) (record : Record) (door : String) :
    (state.note record).pair? door = (record.pair? door).or (state.pair? door) := by
  rw [State.pair?, State.pair?, getElem?_doors_note]
  cases record with
  | door called =>
    by_cases same : called = door <;> cases state.doors[door]? <;>
      simp [Record.onDoor, Record.pair?, same]
  | connected a b through =>
    by_cases same : through = door <;> simp [Record.onDoor, Record.pair?, same]
  | _ => simp [Record.onDoor, Record.pair?]

/-- The kind of a stored room, where it is not a plain one. -/
def State.special? (state : State) (room : String) : Option RoomKind :=
  (state.rooms[room]?.map Room.kind).filter fun kind => kind ≠ .plain

theorem special?_note (state : State) (record : Record) (room : String) :
    (state.note record).special? room = (record.special? room).or (state.special? room) := by
  rw [State.special?, State.special?, getElem?_rooms_note]
  cases record with
  | room called kind =>
    by_cases same : called = room <;> cases kind <;> cases state.rooms[room]? <;>
      simp [Record.onRoom, Record.special?, same]
  | _ => simp [Record.onRoom, Record.special?]

/-! What no record changes. -/

/-- A door under its own name, and closed. -/
def Door.Shut (name : String) (door : Door) : Prop := door.name = name ∧ door.isOpen = false

/-- A room under its own name, and without drinks. -/
def Room.Bare (name : String) (room : Room) : Prop := room.name = name ∧ room.drinks = ∅

/-- Nothing is out of place, and just those rooms have an entry that have a neighbour. -/
structure State.Tidy (state : State) : Prop where
  door : ∀ (name : String) (door : Door), state.doors[name]? = some door → door.Shut name
  room : ∀ (name : String) (room : Room), state.rooms[name]? = some room → room.Bare name
  adjoining : ∀ room : String, room ∈ state.adjacency ↔ ∃ next, state.Beside room next

theorem tidy_fresh : State.Tidy {} where
  door _ _ stored := by simp at stored
  room _ _ stored := by simp at stored
  adjoining _ := by simp [State.Beside]

/-- What holds of the value in place, if there is one, and of the one put there holds afterwards. -/
theorem of_changed {ν : Type} (Kept : ν → Prop) {here : Prop} [Decidable here] {put value : ν}
    {known? : Option ν} (known : ∀ old, known? = some old → Kept old) (new : here → Kept put)
    (found : (if here then some put else known?) = some value) : Kept value := by
  split at found
  · rename_i h
    cases found
    exact new h
  · exact known value found

theorem shut_onDoor {name : String} {known? : Option Door} {door : Door} (record : Record)
    (known : ∀ door, known? = some door → door.Shut name)
    (found : record.onDoor name known? = some door) : door.Shut name := by
  have whole : (known?.getD { name }).Shut name := by
    cases known? with
    | none => exact ⟨rfl, rfl⟩
    | some old => exact known old rfl
  cases record with
  | door called =>
    refine of_changed (Door.Shut name) known (fun same => ?_) found
    subst same
    exact whole
  | connected a b through =>
    refine of_changed (Door.Shut name) known (fun same => ?_) found
    subst same
    exact whole
  | room called kind => exact known door found
  | drink called => exact known door found

theorem bare_onRoom {name : String} {known? : Option Room} {room : Room} (record : Record)
    (known : ∀ room, known? = some room → room.Bare name)
    (found : record.onRoom name known? = some room) : room.Bare name := by
  have whole : (known?.getD { name }).Bare name := by
    cases known? with
    | none => exact ⟨rfl, rfl⟩
    | some old => exact known old rfl
  cases record with
  | room called kind =>
    cases kind <;> refine of_changed (Room.Bare name) known (fun same => ?_) found <;>
      subst same <;> exact whole
  | _ => exact known room found

theorem mem_adjacency_note (state : State) (record : Record) (room : String) :
    room ∈ (state.note record).adjacency ↔
      (∃ next, record.Links room next) ∨ room ∈ state.adjacency := by
  cases record with
  | connected a b door =>
    simp only [State.note, adjoin, ExtTreeMap.mem_iff_isSome_getElem?, getElem?_alter_eq,
      Record.Links]
    by_cases ofB : b = room
    · simp [ofB]
    · by_cases ofA : a = room <;> simp [ofA, ofB]
  | room name kind => cases kind <;> simp [State.note, Record.Links]
  | _ => simp [State.note, Record.Links]

theorem State.Tidy.note {state : State} (tidy : state.Tidy) (record : Record) :
    (state.note record).Tidy where
  door name door stored := shut_onDoor record (tidy.door name) (getElem?_doors_note .. ▸ stored)
  room name room stored := bare_onRoom record (tidy.room name) (getElem?_rooms_note .. ▸ stored)
  adjoining room := by
    simp only [mem_adjacency_note, beside_note, tidy.adjoining, exists_or]

theorem tidy_after (facts : List Fact) : (after facts).Tidy :=
  kept_after tidy_fresh (fun _ record tidy => tidy.note record) facts

/-! What all facts say. -/

theorem links_iff (facts : List Fact) (room next : String) :
    (∃ record, Stated facts record ∧ record.Links room next) ↔ ∃ door,
      Stated facts (.connected room next door) ∨ Stated facts (.connected next room door) := by
  constructor
  · rintro ⟨record, stated, links⟩
    cases record with
    | connected a b door =>
      rcases links with ⟨rfl, rfl⟩ | ⟨rfl, rfl⟩
      · exact ⟨door, .inl stated⟩
      · exact ⟨door, .inr stated⟩
    | _ => exact links.elim
  · rintro ⟨door, stated | stated⟩
    · exact ⟨_, stated, .inl ⟨rfl, rfl⟩⟩
    · exact ⟨_, stated, .inr ⟨rfl, rfl⟩⟩

theorem namesDoor_iff (facts : List Fact) (name : String) :
    (∃ record, Stated facts record ∧ record.NamesDoor name) ↔
      Stated facts (.door name) ∨ ∃ a b, Stated facts (.connected a b name) := by
  constructor
  · rintro ⟨record, stated, names⟩
    cases record with
    | door called => exact .inl (names ▸ stated)
    | connected a b through => exact .inr ⟨a, b, names ▸ stated⟩
    | _ => exact names.elim
  · rintro (stated | ⟨a, b, stated⟩)
    · exact ⟨_, stated, rfl⟩
    · exact ⟨_, stated, rfl⟩

theorem namesRoom_iff (facts : List Fact) (name : String) :
    (∃ record, Stated facts record ∧ record.NamesRoom name) ↔
      ∃ kind, Stated facts (.room name kind) := by
  constructor
  · rintro ⟨record, stated, names⟩
    cases record with
    | room called kind => exact ⟨kind, names ▸ stated⟩
    | _ => exact names.elim
  · rintro ⟨kind, stated⟩
    exact ⟨_, stated, rfl⟩

theorem mem_nextTo_after (facts : List Fact) (room next : String) :
    next ∈ (after facts).nextTo room ↔ ∃ door,
      Stated facts (.connected room next door) ∨ Stated facts (.connected next room door) := by
  have fresh : ¬ State.Beside {} room next := by simp [State.Beside]
  have marked := marked_after (fun state => state.Beside room next) fresh
    (fun state record => beside_note state record room next) facts
  rw [mem_nextTo, marked, links_iff]

theorem pair?_after (facts : List Fact) (name : String) :
    LastSaid facts (Record.pair? name) ((after facts).pair? name) :=
  lastSaid_after (fun state => state.pair? name) rfl (fun state record => pair?_note state record name)
    facts

theorem special?_after (facts : List Fact) (name : String) :
    LastSaid facts (Record.special? name) ((after facts).special? name) :=
  lastSaid_after (fun state => state.special? name) rfl
    (fun state record => special?_note state record name) facts

theorem describes_after (facts : List Fact) : Describes facts (after facts) where
  neighbours room := ⟨nextTo_ascending _ room, mem_nextTo_after facts room⟩
  adjoining room := by
    rw [(tidy_after facts).adjoining, ne_eq, List.eq_nil_iff_forall_not_mem, not_forall]
    simp only [mem_nextTo, not_not]
  doors name := by
    have marked := marked_after (fun state => name ∈ state.doors) (by simp)
      (fun state record => mem_doors_note state record name) facts
    rw [marked, namesDoor_iff]
  door name door stored := by
    obtain ⟨named, closed⟩ := (tidy_after facts).door name door stored
    have joins := pair?_after facts name
    rw [State.pair?, stored] at joins
    exact ⟨named, closed, joins⟩
  rooms name := by
    have marked := marked_after (fun state => name ∈ state.rooms) (by simp)
      (fun state record => mem_rooms_note state record name) facts
    rw [marked, namesRoom_iff]
  room name room stored := by
    obtain ⟨named, empty⟩ := (tidy_after facts).room name room stored
    refine ⟨named, empty, _, special?_after facts name, ?_⟩
    rw [State.special?, stored, Option.map_some]
    cases room.kind <;> rfl
  drinks name := by
    have marked := marked_after (fun state => name ∈ state.drinks) (by simp)
      (fun state record => mem_drinks_note state record name) facts
    simpa only [exists_eq_right] using marked

/-! Descriptions leave nothing open. -/

theorem neighbours_symm (facts : List Fact) (a b : String) :
    b ∈ (after facts).nextTo a ↔ a ∈ (after facts).nextTo b := by
  rw [mem_nextTo_after, mem_nextTo_after]
  simp only [or_comm]

theorem Describes.unique {facts : List Fact} {state other : State} (h : Describes facts state)
    (h' : Describes facts other) : state = other := by
  have rooms : state.rooms = other.rooms := by
    refine map_ext (fun name => (h.rooms name).trans (h'.rooms name).symm) ?_
    intro name room room' stored stored'
    obtain ⟨named, empty, special?, said, kind⟩ := h.room name room stored
    obtain ⟨named', empty', special?', said', kind'⟩ := h'.room name room' stored'
    cases room
    cases room'
    cases said.unique said'
    simp_all
  have doors : state.doors = other.doors := by
    refine map_ext (fun name => (h.doors name).trans (h'.doors name).symm) ?_
    intro name door door' stored stored'
    obtain ⟨named, closed, said⟩ := h.door name door stored
    obtain ⟨named', closed', said'⟩ := h'.door name door' stored'
    have joins := said.unique said'
    cases door
    cases door'
    simp_all
  have drinks : state.drinks = other.drinks :=
    ExtTreeSet.ext_mem fun name => (h.drinks name).trans (h'.drinks name).symm
  have nextTo : ∀ room, state.nextTo room = other.nextTo room :=
    fun room => (h.neighbours room).unique (h'.neighbours room)
  have adjacency : state.adjacency = other.adjacency := by
    refine files_ext (fun room => ?_) fun room next => ?_
    · rw [h.adjoining, h'.adjoining, nextTo]
    · have same := mem_nextTo other room next
      rw [← nextTo, mem_nextTo] at same
      exact same
  cases state
  cases other
  simp_all

/-! Facts in another order. -/

theorem stated_congr {facts other : List Fact} (same : ∀ fact, fact ∈ facts ↔ fact ∈ other)
    (record : Record) : Stated facts record ↔ Stated other record := by
  simp only [Stated, same]

/-- No two facts differ in what they tell. -/
def Agreed {α : Type} (facts : List Fact) (tells? : Record → Option α) : Prop :=
  ∀ record record' value value', Stated facts record → Stated facts record' →
    tells? record = some value → tells? record' = some value' → value = value'

/-- Where the facts agree, the last of them has nothing to tell that the others have not. -/
theorem Agreed.lastSaid_iff {α : Type} {facts : List Fact} {tells? : Record → Option α}
    (agreed : Agreed facts tells?) (value? : Option α) : LastSaid facts tells? value? ↔
      ∀ value, value? = some value ↔
        ∃ record, Stated facts record ∧ tells? record = some value := by
  have onlyIf : ∀ value?, LastSaid facts tells? value? → ∀ value, value? = some value ↔
      ∃ record, Stated facts record ∧ tells? record = some value := by
    intro value? said value
    cases value? with
    | none =>
      refine ⟨nofun, ?_⟩
      rintro ⟨record, stated, tells⟩
      rw [said record stated] at tells
      cases tells
    | some last =>
      obtain ⟨record, stated, tells⟩ := said.stated
      constructor
      · rintro ⟨rfl⟩
        exact ⟨record, stated, tells⟩
      · rintro ⟨record', stated', tells'⟩
        rw [agreed record record' last value stated stated' tells tells']
  refine ⟨onlyIf value?, fun told => ?_⟩
  obtain ⟨last?, said⟩ : ∃ last?, LastSaid facts tells? last? :=
    ⟨_, (Coffee.lastSaid_iff facts tells? _).mpr rfl⟩
  have same : value? = last? :=
    Option.ext fun value => (told value).trans (onlyIf last? said value).symm
  rwa [same]

theorem Agreed.congr {α : Type} {facts other : List Fact} {tells? : Record → Option α}
    (same : ∀ fact, fact ∈ facts ↔ fact ∈ other) (agreed : Agreed facts tells?)
    (value? : Option α) : LastSaid other tells? value? ↔ LastSaid facts tells? value? := by
  have agreed' : Agreed other tells? := by
    intro record record' value value' stated stated'
    rw [← stated_congr same] at stated stated'
    exact agreed record record' value value' stated stated'
  rw [agreed.lastSaid_iff, agreed'.lastSaid_iff]
  simp only [stated_congr same]

theorem Consistent.pairs {facts : List Fact} (consistent : Consistent facts) (name : String) :
    Agreed facts (Record.pair? name) := by
  intro record record' pair pair' stated stated' tells tells'
  cases record with
  | connected a b through =>
    cases record' with
    | connected a' b' through' =>
      simp only [Record.pair?, Option.ite_none_right_eq_some, Option.some.injEq] at tells tells'
      obtain ⟨rfl, rfl⟩ := tells
      obtain ⟨rfl, rfl⟩ := tells'
      exact consistent.doors _ a b a' b' stated stated'
    | _ => cases tells'
  | _ => cases tells

theorem Consistent.specials {facts : List Fact} (consistent : Consistent facts) (name : String) :
    Agreed facts (Record.special? name) := by
  intro record record' kind kind' stated stated' tells tells'
  cases record with
  | room called given =>
    cases record' with
    | room called' given' =>
      simp only [Record.special?, Option.ite_none_right_eq_some, Option.some.injEq] at tells tells'
      obtain ⟨⟨rfl, special⟩, rfl⟩ := tells
      obtain ⟨⟨rfl, special'⟩, rfl⟩ := tells'
      have apart := consistent.rooms called'
      cases given <;> cases given' <;> simp_all
    | _ => cases tells'
  | _ => cases tells

theorem Describes.congr {facts other : List Fact} {state : State}
    (same : ∀ fact, fact ∈ facts ↔ fact ∈ other) (consistent : Consistent facts)
    (h : Describes other state) : Describes facts state where
  neighbours room := (h.neighbours room).congr fun next => by simp only [stated_congr same]
  adjoining := h.adjoining
  doors name := by simp only [h.doors, stated_congr same]
  door name door stored := by
    obtain ⟨named, closed, joins⟩ := h.door name door stored
    exact ⟨named, closed, ((consistent.pairs name).congr same _).mp joins⟩
  rooms name := by simp only [h.rooms, stated_congr same]
  room name room stored := by
    obtain ⟨named, empty, special?, said, kind⟩ := h.room name room stored
    exact ⟨named, empty, special?, ((consistent.specials name).congr same _).mp said, kind⟩
  drinks name := by simp only [h.drinks, stated_congr same]

/-- The facts determine what is known of a layout: it is the one state that they describe, in it
neighbours are neighbours both ways, and a fact that says nothing of layouts leaves every state as
it is. Facts without a contradiction may come in any order and repeatedly. -/
theorem layout_determined (facts : List Fact) :
    (∀ state : State, Describes facts state ↔ state = world.offerAll facts) ∧
    (∀ a b, b ∈ State.nextTo (world.offerAll facts) a ↔
      a ∈ State.nextTo (world.offerAll facts) b) ∧
    (∀ fact, (world.knows fact = false ↔ ∀ record, ¬ States fact record) ∧
      (world.knows fact = false → ∀ state, world.offer state fact = state)) ∧
    (Consistent facts → ∀ other, (∀ fact, fact ∈ facts ↔ fact ∈ other) →
      world.offerAll other = world.offerAll facts) := by
  refine ⟨fun state => ⟨fun h => h.unique (describes_after facts), ?_⟩, neighbours_symm facts,
    fun fact => ⟨knows_eq_false_iff fact, ?_⟩, fun consistent other same => ?_⟩
  · rintro rfl
    exact describes_after facts
  · exact fun refused state => World.offer_of_not_knows state refused
  · have described : Describes facts (after other) := (describes_after other).congr same consistent
    exact described.unique (describes_after facts)

example : (after (["office(o)", "room(o)"].filterMap Fact.read?)).rooms["o"]? =
    some { name := "o", kind := .office } := by
  decide +kernel

end PlanReferee.Coffee
