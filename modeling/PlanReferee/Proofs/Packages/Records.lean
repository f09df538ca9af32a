import PlanReferee.Proofs.Grammar
import PlanReferee.Proofs.Review

/-! What the facts of a package puzzle state, and what is known of it after them: the same, in
whatever order they come. -/

namespace PlanReferee

open Std (ExtTreeSet)
open Text (Numeral64)

namespace Packages

/-- A fact `name(library,version)`. -/
def OfLibrary (fact : Fact) (name : String) (library : Library) : Prop :=
  fact.name = name ∧ ',' ∉ library.name.toList ∧
    ∃ ds, fact.args.toList = library.name.toList ++ ',' :: ds ∧ Numeral64 ds library.version

/-- A fact `name(program,library,version)`. -/
def OfBound (fact : Fact) (name program library : String) (version : Int) : Prop :=
  fact.name = name ∧ ',' ∉ program.toList ∧ ',' ∉ library.toList ∧
    ∃ ds, fact.args.toList = program.toList ++ ',' :: (library.toList ++ ',' :: ds) ∧
      Numeral64 ds version

/-- What a fact states. -/
def States (fact : Fact) : Record → Prop
  | .program name => fact.name = "program" ∧ name = fact.args
  | .version library => OfLibrary fact "version" library
  | .bound ⟨program, library, .lower, v⟩ => OfBound fact "requiresAtLeast" program library v
  | .bound ⟨program, library, .upper, v⟩ => OfBound fact "requiresAtMost" program library v
  | .installed library => OfLibrary fact "installed" library
  | .shouldDelete library => OfLibrary fact "shouldDelete" library
  | .shouldInstall library => OfLibrary fact "shouldInstall" library
  | .wants program => fact.name = "wants" ∧ program = fact.args

theorem version?_eq_some_iff (ds : List Char) (v : Int) :
    (Slot.digits.accepts ds = true ∧ version? (String.ofList ds) = some v) ↔ Numeral64 ds v := by
  rw [version?, String.toList_ofList, Text.numeral64_iff]

theorem read?_libraryEntry (name : String) (make : Library → Record) (fact : Fact)
    (record : Record) : (libraryEntry name make).read? fact = some record ↔
      ∃ library, OfLibrary fact name library ∧ record = make library := by
  simp only [Entry.read?_eq_some_iff, libraryEntry, splitArgs?_cons, splitArgs?_singleton,
    OfLibrary]
  constructor
  · rintro ⟨named, _, ⟨library, ds, _, split, plain, _, ⟨digits, rfl⟩, rfl⟩, h⟩
    obtain ⟨v, hv, rfl⟩ := Option.map_eq_some_iff.mp h
    refine ⟨⟨String.ofList library, v⟩, ⟨named, ?_, ds, ?_,
      (version?_eq_some_iff ds v).mp ⟨digits, hv⟩⟩, rfl⟩
    · rwa [String.toList_ofList]
    · rwa [String.toList_ofList]
  · rintro ⟨⟨library, v⟩, ⟨named, plain, ds, split, version⟩, rfl⟩
    obtain ⟨digits, hv⟩ := (version?_eq_some_iff ds v).mpr version
    refine ⟨named, _, ⟨library.toList, ds, _, split, plain, rfl, ⟨digits, rfl⟩, rfl⟩, ?_⟩
    simp only [List.map_cons, List.map_nil, String.ofList_toList, hv, Option.map_some]

theorem read?_boundEntry (name : String) (side : Side) (fact : Fact) (record : Record) :
    (boundEntry name side).read? fact = some record ↔ ∃ program library v,
      OfBound fact name program library v ∧ record = .bound ⟨program, library, side, v⟩ := by
  simp only [Entry.read?_eq_some_iff, boundEntry, splitArgs?_cons, splitArgs?_singleton, OfBound]
  constructor
  · rintro ⟨named, _, ⟨program, rest, _, split, plain, _,
      ⟨library, ds, _, cut, plain', _, ⟨digits, rfl⟩, rfl⟩, rfl⟩, h⟩
    obtain ⟨v, hv, rfl⟩ := Option.map_eq_some_iff.mp h
    refine ⟨String.ofList program, String.ofList library, v, ⟨named, ?_, ?_, ds, ?_,
      (version?_eq_some_iff ds v).mp ⟨digits, hv⟩⟩, rfl⟩
    · rwa [String.toList_ofList]
    · rwa [String.toList_ofList]
    · rw [String.toList_ofList, String.toList_ofList, split, cut]
  · rintro ⟨program, library, v, ⟨named, plain, plain', ds, split, version⟩, rfl⟩
    obtain ⟨digits, hv⟩ := (version?_eq_some_iff ds v).mpr version
    refine ⟨named, _, ⟨program.toList, _, _, split, plain, rfl,
      ⟨library.toList, ds, _, rfl, plain', rfl, ⟨digits, rfl⟩, rfl⟩, rfl⟩, ?_⟩
    simp only [List.map_cons, List.map_nil, String.ofList_toList, hv, Option.map_some]

theorem read?_eq_some_iff (fact : Fact) (record : Record) :
    lexicon.read? fact = some record ↔ States fact record := by
  have distinct : (lexicon.map Entry.name).Nodup := by decide +kernel
  rw [Lexicon.read?_eq_some_iff distinct]
  simp only [lexicon, List.mem_cons, exists_eq_or_imp, List.not_mem_nil, or_false, exists_eq_left,
    Entry.read?_unary, read?_libraryEntry, read?_boundEntry]
  cases record with
  | bound bound =>
    obtain ⟨program, library, side, v⟩ := bound
    cases side <;> simp only [States, Record.bound.injEq, Bound.mk.injEq, reduceCtorEq, and_false,
      exists_false, or_false, false_or, true_and, false_and]
    · constructor
      · rintro ⟨_, _, _, h, rfl, rfl, rfl⟩
        exact h
      · exact fun h => ⟨_, _, _, h, rfl, rfl, rfl⟩
    · constructor
      · rintro ⟨_, _, _, h, rfl, rfl, rfl⟩
        exact h
      · exact fun h => ⟨_, _, _, h, rfl, rfl, rfl⟩
  | _ => simp [States]

/-! What is known. -/

/-- A record has been noted. -/
def State.Knows (state : State) : Record → Prop
  | .program name => name ∈ state.programs
  | .version library => library ∈ state.versions
  | .bound bound => bound ∈ state.bounds
  | .installed library => library ∈ state.installed
  | .shouldDelete library => library ∈ state.shouldDelete
  | .shouldInstall library => library ∈ state.shouldInstall
  | .wants program => program ∈ state.wanted

theorem knows_note (state : State) (record other : Record) :
    (state.note record).Knows other ↔ record = other ∨ state.Knows other := by
  cases record <;> cases other <;> simp [State.note, State.Knows, ExtTreeSet.mem_insert]

theorem knows_facts (facts : List Fact) (record : Record) :
    State.Knows (world.offerAll facts) record ↔ ∃ fact ∈ facts, States fact record := by
  have fresh : ∀ record, ¬ State.Knows {} record := by
    intro record
    cases record <;> exact ExtTreeSet.not_mem_empty
  simp only [← read?_eq_some_iff]
  exact @World.knows_offerAll world State.Knows fresh knows_note facts record

end Packages

end PlanReferee
