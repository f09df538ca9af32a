import PlanReferee.Plan.Statement
import PlanReferee.Proofs.Grammar

/-! Which entry of a lexicon claims a fact. A lexicon is searched in two ways, for the record of a
fact and for the place of the entry that makes it, and both searches stop at the first entry that
fits. What stands behind that entry has no say, and an entry that does not fit only moves the places
behind it. -/

namespace PlanReferee

variable {ρ : Type}

namespace Entry

/-- An entry fits a fact of its name if it can split the arguments and its reader does not refuse
the values. -/
def Fits (entry : Entry ρ) (fact : Fact) : Prop :=
  fact.name = entry.name ∧ ∃ values, splitArgs? entry.slots fact.args.toList = some values ∧
    (entry.record? (values.map String.ofList)).isSome = true

theorem fits_iff (entry : Entry ρ) (fact : Fact) :
    entry.Fits fact ↔ (entry.read? fact).isSome = true := by
  simp only [Fits, Option.isSome_iff_exists, read?_eq_some_iff]
  constructor
  · rintro ⟨named, values, split, record, made⟩
    exact ⟨record, named, values, split, made⟩
  · rintro ⟨record, named, values, split, made⟩
    exact ⟨named, values, split, record, made⟩

theorem not_fits_iff (entry : Entry ρ) (fact : Fact) :
    ¬ entry.Fits fact ↔ entry.read? fact = none := by
  rw [fits_iff, Bool.not_eq_true, Option.isSome_eq_false_iff, Option.isNone_iff_eq_none]

instance (entry : Entry ρ) (fact : Fact) : Decidable (entry.Fits fact) :=
  decidable_of_iff' _ (entry.fits_iff fact)

end Entry

namespace Lexicon

variable {lexicon : Lexicon ρ} {entry : Entry ρ} {fact : Fact} {i : Nat}

/-! Both searches, one entry at a time. -/

theorem read?_of_fits (fits : entry.Fits fact) (lexicon : Lexicon ρ) :
    Lexicon.read? (entry :: lexicon) fact = entry.read? fact := by
  obtain ⟨record, made⟩ := Option.isSome_iff_exists.mp ((entry.fits_iff fact).mp fits)
  rw [read?, List.findSome?_cons, made]

theorem place?_of_fits (fits : entry.Fits fact) (lexicon : Lexicon ρ) :
    Lexicon.place? (entry :: lexicon) fact = some 0 := by
  rw [place?, List.findIdx?_cons, if_pos ((entry.fits_iff fact).mp fits)]

theorem read?_of_not_fits (unfit : ¬ entry.Fits fact) (lexicon : Lexicon ρ) :
    Lexicon.read? (entry :: lexicon) fact = lexicon.read? fact := by
  rw [read?, List.findSome?_cons, (entry.not_fits_iff fact).mp unfit]
  rfl

theorem place?_of_not_fits (unfit : ¬ entry.Fits fact) (lexicon : Lexicon ρ) :
    Lexicon.place? (entry :: lexicon) fact = (lexicon.place? fact).map (· + 1) := by
  rw [place?, List.findIdx?_cons, if_neg (mt (entry.fits_iff fact).mpr unfit)]
  rfl

theorem isSome_read? (lexicon : Lexicon ρ) (fact : Fact) :
    (lexicon.read? fact).isSome = (lexicon.place? fact).isSome := by
  induction lexicon with
  | nil => rfl
  | cons entry lexicon ih =>
    by_cases fits : entry.Fits fact
    · rw [read?_of_fits fits, place?_of_fits fits, (entry.fits_iff fact).mp fits]
      rfl
    · rw [read?_of_not_fits fits, place?_of_not_fits fits, Option.isSome_map, ih]

/-! The entry that claims a fact. -/

/-- The entry at place `i` fits the fact, and no entry before it does. -/
structure FirstFit (lexicon : Lexicon ρ) (fact : Fact) (i : Nat) (entry : Entry ρ) : Prop where
  stands : lexicon[i]? = some entry
  fits : entry.Fits fact
  first : ∀ j < i, ∀ earlier, lexicon[j]? = some earlier → ¬ earlier.Fits fact

namespace FirstFit

theorem tail {head : Entry ρ} (found : FirstFit (head :: lexicon) fact (i + 1) entry) :
    FirstFit lexicon fact i entry where
  stands := found.stands
  fits := found.fits
  first j before := found.first (j + 1) (Nat.succ_lt_succ before)

theorem append (found : FirstFit lexicon fact i entry) (more : Lexicon ρ) :
    FirstFit (lexicon ++ more) fact i entry := by
  obtain ⟨within, _⟩ := List.getElem?_eq_some_iff.mp found.stands
  constructor
  case stands => rw [List.getElem?_append_left within, found.stands]
  case fits => exact found.fits
  case first =>
    intro j before earlier stands
    rw [List.getElem?_append_left (Nat.lt_trans before within)] at stands
    exact found.first j before earlier stands

theorem read?_eq (found : FirstFit lexicon fact i entry) :
    lexicon.read? fact = entry.read? fact := by
  induction lexicon generalizing i with
  | nil => cases found.stands
  | cons head lexicon ih =>
    cases i with
    | zero =>
      cases found.stands
      exact read?_of_fits found.fits lexicon
    | succ i =>
      have unfit : ¬ head.Fits fact := found.first 0 i.succ_pos head rfl
      rw [read?_of_not_fits unfit, ih found.tail]

end FirstFit

theorem place?_eq_some_iff (lexicon : Lexicon ρ) (fact : Fact) (i : Nat) :
    lexicon.place? fact = some i ↔ ∃ entry, FirstFit lexicon fact i entry := by
  rw [place?, List.findIdx?_eq_some_iff_getElem]
  constructor
  · rintro ⟨within, fits, first⟩
    refine ⟨lexicon[i], List.getElem?_eq_getElem within, (Entry.fits_iff _ fact).mpr fits, ?_⟩
    intro j before earlier stands
    obtain ⟨_, rfl⟩ := List.getElem?_eq_some_iff.mp stands
    exact mt (Entry.fits_iff _ fact).mp (first j before)
  · rintro ⟨entry, stands, fits, first⟩
    obtain ⟨within, rfl⟩ := List.getElem?_eq_some_iff.mp stands
    refine ⟨within, (Entry.fits_iff _ fact).mp fits, fun j before => ?_⟩
    exact mt (Entry.fits_iff _ fact).mpr (first j before _ (List.getElem?_eq_getElem _))

/-! Changes that a fact does not see. -/

theorem append_of_claimed (claimed : (lexicon.place? fact).isSome = true) (more : Lexicon ρ) :
    Lexicon.read? (lexicon ++ more) fact = lexicon.read? fact ∧
      Lexicon.place? (lexicon ++ more) fact = lexicon.place? fact := by
  obtain ⟨i, place⟩ := Option.isSome_iff_exists.mp claimed
  obtain ⟨entry, found⟩ := (place?_eq_some_iff lexicon fact i).mp place
  have still := found.append more
  constructor
  · rw [still.read?_eq, found.read?_eq]
  · rw [place, (place?_eq_some_iff _ fact i).mpr ⟨entry, still⟩]

/-- Where an entry stands after another is put in before place `i`. -/
def movedPlace (i k : Nat) : Nat := if k < i then k else k + 1

theorem movedPlace_zero (k : Nat) : movedPlace 0 k = k + 1 := if_neg k.not_lt_zero

theorem movedPlace_succ (i k : Nat) : movedPlace (i + 1) (k + 1) = movedPlace i k + 1 := by
  unfold movedPlace
  split <;> split <;> omega

theorem insertIdx_of_not_fits (unfit : ¬ entry.Fits fact) (lexicon : Lexicon ρ) (i : Nat) :
    Lexicon.read? (lexicon.insertIdx i entry) fact = lexicon.read? fact ∧
      Lexicon.place? (lexicon.insertIdx i entry) fact =
        (lexicon.place? fact).map (movedPlace i) := by
  -- At place 0 the new entry is asked first; elsewhere both lexicons ask the same entry first.
  induction lexicon generalizing i with
  | nil =>
    cases i with
    | zero => exact ⟨read?_of_not_fits unfit [], place?_of_not_fits unfit []⟩
    | succ i => exact ⟨rfl, rfl⟩
  | cons head lexicon ih =>
    cases i with
    | zero =>
      have moved : movedPlace 0 = (· + 1) := funext movedPlace_zero
      rw [List.insertIdx_zero, moved]
      exact ⟨read?_of_not_fits unfit _, place?_of_not_fits unfit _⟩
    | succ i =>
      obtain ⟨read, place⟩ := ih i
      have moved : movedPlace (i + 1) ∘ (· + 1) = (· + 1) ∘ movedPlace i :=
        funext (movedPlace_succ i)
      rw [List.insertIdx_succ_cons]
      by_cases fits : head.Fits fact
      · constructor
        · rw [read?_of_fits fits, read?_of_fits fits]
        · rw [place?_of_fits fits, place?_of_fits fits]
          rfl
      · constructor
        · rw [read?_of_not_fits fits, read?_of_not_fits fits, read]
        · rw [place?_of_not_fits fits, place?_of_not_fits fits, place, Option.map_map,
            Option.map_map, moved]

/-- Both searches stop at the first entry that fits, or neither stops: the place is its place, and
the record is the one that it makes by itself. Entries put behind change nothing for a fact that is
claimed already. An entry that does not fit may be put in anywhere: it only moves the places behind
it. -/
theorem searches_agree (lexicon : Lexicon ρ) (fact : Fact) :
    (∀ i, lexicon.place? fact = some i ↔ ∃ entry, FirstFit lexicon fact i entry) ∧
    (lexicon.read? fact).isSome = (lexicon.place? fact).isSome ∧
    (∀ i entry, FirstFit lexicon fact i entry → lexicon.read? fact = entry.read? fact) ∧
    (∀ more, (lexicon.place? fact).isSome = true →
      Lexicon.read? (lexicon ++ more) fact = lexicon.read? fact ∧
        Lexicon.place? (lexicon ++ more) fact = lexicon.place? fact) ∧
    ∀ i unfit, ¬ unfit.Fits fact →
      Lexicon.read? (lexicon.insertIdx i unfit) fact = lexicon.read? fact ∧
        Lexicon.place? (lexicon.insertIdx i unfit) fact =
          (lexicon.place? fact).map (movedPlace i) := by
  refine ⟨place?_eq_some_iff lexicon fact, isSome_read? lexicon fact, ?_, ?_, ?_⟩
  · exact fun i entry found => found.read?_eq
  · exact fun more claimed => append_of_claimed claimed more
  · exact fun i unfit h => insertIdx_of_not_fits h lexicon i

/-- Accepts the form of any `exec`, and refuses it all the same. -/
def mutedExec : Entry Statement := { name := "exec", slots := [.any], record? := fun _ => none }

/-- The parenthesis before the first comma of an action keeps the `exec` of three arguments from
fitting, and the one of two claims the fact. A muted entry before it moves it down, and that is
all. -/
theorem searches_agree_muted :
    let fact : Fact := ⟨"exec(0,move(a,b))", "exec", "0,move(a,b)"⟩
    let claiming := Statement.timed "exec" fun t action => .exec t none (Action.read action)
    let muted := Statement.lexicon.insertIdx 12 mutedExec
    FirstFit Statement.lexicon fact 12 claiming ∧
    (Statement.lexicon.place? fact).isSome = true ∧ ¬ mutedExec.Fits fact ∧
    Statement.lexicon.read? fact = some (.exec 0 none ⟨"move", "a,b"⟩) ∧
    Lexicon.place? (Statement.lexicon ++ [.unary "exec" .goal]) fact = some 12 ∧
    Lexicon.read? muted fact = some (.exec 0 none ⟨"move", "a,b"⟩) ∧
    Lexicon.place? muted fact = some 13 := by
  intro fact claiming muted
  obtain ⟨places, _, alone, behind, between⟩ := searches_agree Statement.lexicon fact
  have place : Statement.lexicon.place? fact = some 12 := by decide +kernel
  have claimed : (Statement.lexicon.place? fact).isSome = true := by rw [place]; rfl
  have unfit : ¬ mutedExec.Fits fact := by decide +kernel
  have found : FirstFit Statement.lexicon fact 12 claiming := by
    obtain ⟨entry, found⟩ := (places 12).mp place
    cases found.stands
    exact found
  have record : Statement.lexicon.read? fact = some (.exec 0 none ⟨"move", "a,b"⟩) := by
    rw [alone 12 claiming found]
    decide +kernel
  obtain ⟨read, moved⟩ := between 12 mutedExec unfit
  refine ⟨found, claimed, unfit, record, ?_, read.trans record, ?_⟩
  · rw [(behind _ claimed).2, place]
  · rw [moved, place]
    rfl

end Lexicon

end PlanReferee
