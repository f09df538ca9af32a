import PlanReferee.World

/-! Packages: which library versions to delete and to install, so that every wanted program finds a
version it can use. There is no timeline: deletions come first, then installations, and the outcome
is checked once. -/

namespace PlanReferee.Packages

open Std (ExtTreeSet)

structure Library where
  name : String
  version : Int
deriving DecidableEq, Repr

namespace Library

instance : Ord Library := ⟨compareLex (compareOn name) (compareOn version)⟩

instance : Std.TransOrd Library := inferInstanceAs (Std.TransCmp (compareLex _ _))

instance : Std.LawfulEqOrd Library where
  compare_self := Std.ReflCmp.compare_self
  eq_of_compare {a b} h := by
    obtain ⟨name, version⟩ := compareLex_eq_eq.mp h
    cases a
    cases b
    simp_all [compareOn]

def text (library : Library) : String := s!"{library.name}.so.{library.version}"

end Library

inductive Side where
  | lower
  | upper
deriving DecidableEq, Repr

namespace Side

def rank : Side → Nat
  | lower => 0
  | upper => 1

theorem rank_injective {a b : Side} (h : a.rank = b.rank) : a = b := by
  cases a <;> cases b <;> simp_all [rank]

instance : Ord Side := ⟨compareOn rank⟩

instance : Std.TransOrd Side := inferInstanceAs (Std.TransCmp (compareOn rank))

instance : Std.LawfulEqOrd Side where
  compare_self := Std.ReflCmp.compare_self
  eq_of_compare {a b} h := rank_injective (Std.compare_eq_iff_eq.mp (h : compare a.rank b.rank = .eq))

end Side

/-- The lowest or the highest version of a library that a program can use. -/
structure Bound where
  program : String
  library : String
  side : Side
  version : Int
deriving DecidableEq, Repr

namespace Bound

instance : Ord Bound :=
  ⟨compareLex (compareOn program)
    (compareLex (compareOn library) (compareLex (compareOn side) (compareOn version)))⟩

instance : Std.TransOrd Bound :=
  inferInstanceAs (Std.TransCmp (compareLex _ (compareLex _ (compareLex _ _))))

instance : Std.LawfulEqOrd Bound where
  compare_self := Std.ReflCmp.compare_self
  eq_of_compare {a b} h := by
    obtain ⟨program, h⟩ := compareLex_eq_eq.mp h
    obtain ⟨library, h⟩ := compareLex_eq_eq.mp h
    obtain ⟨side, version⟩ := compareLex_eq_eq.mp h
    cases a
    cases b
    simp_all [compareOn]

def admits (bound : Bound) (version : Int) : Bool :=
  match bound.side with
  | .lower => bound.version ≤ version
  | .upper => version ≤ bound.version

end Bound

/-- The versions from `low` to `high`, none if `high` is below `low`. -/
structure Window where
  low : Int
  high : Int
deriving DecidableEq, Repr

namespace Window

/-- Takes a bound into account. A window never widens. -/
def narrow (window : Window) (side : Side) (version : Int) : Window :=
  match side with
  | .lower => { window with low := max window.low version }
  | .upper => { window with high := min window.high version }

def contains (window : Window) (version : Int) : Bool :=
  window.low ≤ version && version ≤ window.high

end Window

inductive Record where
  | program (name : String)
  | version (library : Library)
  | bound (bound : Bound)
  | installed (library : Library)
  | shouldDelete (library : Library)
  | shouldInstall (library : Library)
  | wants (program : String)
deriving DecidableEq, Repr

def version? (value : String) : Option Int := (Text.IntRange.signed 64).read? value.toList

def libraryEntry (name : String) (record : Library → Record) : Entry Record where
  name
  slots := [.any, .digits]
  record?
    | [library, version] => (version? version).map fun v => record ⟨library, v⟩
    | _ => none

def boundEntry (name : String) (side : Side) : Entry Record where
  name
  slots := [.any, .any, .digits]
  record?
    | [program, library, version] =>
      (version? version).map fun v => .bound ⟨program, library, side, v⟩
    | _ => none

def lexicon : Lexicon Record :=
  [.unary "program" .program,
   libraryEntry "version" .version,
   boundEntry "requiresAtLeast" .lower,
   boundEntry "requiresAtMost" .upper,
   libraryEntry "installed" .installed,
   libraryEntry "shouldDelete" .shouldDelete,
   libraryEntry "shouldInstall" .shouldInstall,
   .unary "wants" .wants]

structure State where
  programs : ExtTreeSet String := ∅
  /-- The names of the libraries in `versions`. -/
  libraries : ExtTreeSet String := ∅
  versions : ExtTreeSet Library := ∅
  installed : ExtTreeSet Library := ∅
  bounds : ExtTreeSet Bound := ∅
  wanted : ExtTreeSet String := ∅
  shouldDelete : ExtTreeSet Library := ∅
  shouldInstall : ExtTreeSet Library := ∅
deriving DecidableEq

def State.note (state : State) : Record → State
  | .program name => { state with programs := state.programs.insert name }
  | .version library =>
    { state with
      libraries := state.libraries.insert library.name
      versions := state.versions.insert library }
  | .bound bound => { state with bounds := state.bounds.insert bound }
  | .installed library => { state with installed := state.installed.insert library }
  | .shouldDelete library => { state with shouldDelete := state.shouldDelete.insert library }
  | .shouldInstall library => { state with shouldInstall := state.shouldInstall.insert library }
  | .wants program => { state with wanted := state.wanted.insert program }

inductive Finding where
  | notInstalled (library : Library)
  | alreadyInstalled (library : Library)
  | missing (program library : String)
  | unfit (program library : String) (window : Window) (available : List Int)
deriving DecidableEq, Repr

def Finding.diagnostic : Finding → Diagnostic
  | notInstalled library =>
    .error s!"Asked to delete lib {library.text}, but it's not installed."
  | alreadyInstalled library =>
    .warning (s!"Asked to install lib {library.text}, but it's already installed. "
      ++ "This is odd, but allowed.")
  | missing program library =>
    .error s!"Program {program} needs library {library}, but it's not installed."
  | unfit program library window available =>
    .error (s!"Program {program} needs library {library} in a version in "
      ++ s!"[{window.low}, {window.high}], but only these versions are available: ["
      ++ ", ".intercalate (available.map toString) ++ "]")

/-- Deletes libraries in turn, each of which has to be there. -/
def delete (installed : ExtTreeSet Library) : List Library → ExtTreeSet Library × List Finding
  | [] => (installed, [])
  | library :: more =>
    if library ∈ installed then delete (installed.erase library) more
    else
      let (left, findings) := delete installed more
      (left, .notInstalled library :: findings)

/-- Installs libraries in turn, none of which needs to be there already. -/
def install (installed : ExtTreeSet Library) : List Library → ExtTreeSet Library × List Finding
  | [] => (installed, [])
  | library :: more =>
    if library ∈ installed then
      let (grown, findings) := install installed more
      (grown, .alreadyInstalled library :: findings)
    else install (installed.insert library) more

/-- What is installed after the deletions and then the installations asked for. -/
def State.change (state : State) : ExtTreeSet Library × List Finding :=
  let (left, refused) := delete state.installed state.shouldDelete.toList
  let (installed, repeated) := install left state.shouldInstall.toList
  (installed, refused ++ repeated)

def State.boundsOn (state : State) (program library : String) : List Bound :=
  state.bounds.toList.filter fun bound => bound.program = program && bound.library = library

/-- The range of the versions at hand, narrowed by every bound of a program on a library. -/
def State.window? (state : State) (program library : String) (available : List Int) :
    Option Window :=
  match available.min?, available.max? with
  | some low, some high =>
    some ((state.boundsOn program library).foldl
      (fun window bound => window.narrow bound.side bound.version) ⟨low, high⟩)
  | _, _ => none

/-- The versions of a library among those installed, in ascending order. -/
def versionsOf (installed : ExtTreeSet Library) (name : String) : List Int :=
  (installed.toList.filter fun library => library.name = name).map (·.version)

def State.needs (state : State) (program : String) : ExtTreeSet String :=
  .ofList ((state.bounds.toList.filter fun bound => bound.program = program).map (·.library))

def State.checkNeed (state : State) (installed : ExtTreeSet Library) (program library : String) :
    List Finding :=
  let available := versionsOf installed library
  match state.window? program library available with
  | none => [.missing program library]
  | some window =>
    if available.any window.contains then [] else [.unfit program library window available]

def State.check (state : State) : List Finding :=
  let (installed, findings) := state.change
  findings ++ state.wanted.toList.flatMap fun program =>
    (state.needs program).toList.flatMap (state.checkNeed installed program)

def State.verify (state : State) : List Diagnostic := state.check.map Finding.diagnostic

def State.summary (state : State) : String :=
  "Installed: [" ++ listText state.installed ++ "]  ShouldDelete: [" ++ listText state.shouldDelete
    ++ "]  ShouldInstall: [" ++ listText state.shouldInstall ++ "]"
where
  listText (libraries : ExtTreeSet Library) : String :=
    ", ".intercalate (libraries.toList.map Library.text)

def world : World where
  name := "dependency-hell"
  usesTimeline := false
  State := State
  Record := Record
  fresh := {}
  lexicon := lexicon
  note := State.note
  verify state _ := state.verify
  summary state _ := state.summary

end PlanReferee.Packages
