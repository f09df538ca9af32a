import Mathlib.Order.Bounds.Basic
import PlanReferee.Proofs.Packages.Satisfaction
import PlanReferee.Proofs.Session

/-! Everything that is reported on packages: each refused deletion, each repeated installation, and
for each wanted program and each library that it has bounds on, one report at most. Each part comes
in ascending order, and there is nothing else. What is told of a finding cites all that it is
about. -/

namespace PlanReferee.Packages

open Std (ExtTreeSet)

/-- A library is there after the deletions and then the installations. -/
def State.Remains (state : State) (library : Library) : Prop :=
  library ∈ state.installed ∧ library ∉ state.shouldDelete ∨ library ∈ state.shouldInstall

/-- The window of a need: from the greatest of the least version at hand and all lower bounds to the
least of the greatest version at hand and all upper bounds. -/
structure Frames (state : State) (program library : String) (available : List Int)
    (window : Window) : Prop where
  low : IsGreatest {w | IsLeast {v | v ∈ available} w ∨
    (⟨program, library, .lower, w⟩ : Bound) ∈ state.bounds} window.low
  high : IsLeast {w | IsGreatest {v | v ∈ available} w ∨
    (⟨program, library, .upper, w⟩ : Bound) ∈ state.bounds} window.high

/-- What is reported on a program's need of a library. -/
inductive Reports (state : State) (program library : String) : List Finding → Prop where
  | missing (absent : ∀ v, ¬ state.Remains ⟨library, v⟩) :
      Reports state program library [.missing program library]
  | unfit {available : List Int} {window : Window}
      (listed : Lists (fun v => state.Remains ⟨library, v⟩) available) (filled : available ≠ [])
      (unsuited : ∀ v ∈ available, ¬ state.Suits program library v)
      (frames : Frames state program library available window) :
      Reports state program library [.unfit program library window available]
  | met (v : Int) (there : state.Remains ⟨library, v⟩) (suits : state.Suits program library v) :
      Reports state program library []

/-- The parts of a report on packages. -/
structure Audit (state : State) where
  absent : List Library
  repeated : List Library
  programs : List String
  /-- The libraries that a program has bounds on. -/
  libraries : String → List String
  need : String → String → List Finding
  absent_lists : Lists (fun l => l ∈ state.shouldDelete ∧ l ∉ state.installed) absent
  repeated_lists : Lists (fun l => l ∈ state.shouldInstall ∧ l ∈ state.installed ∧
    l ∉ state.shouldDelete) repeated
  programs_list : Lists (· ∈ state.wanted) programs
  libraries_list : ∀ program, Lists (fun library => ∃ bound ∈ state.bounds,
    bound.program = program ∧ bound.library = library) (libraries program)
  reports : ∀ program library, Reports state program library (need program library)

def Audit.findings {state : State} (audit : Audit state) : List Finding :=
  audit.absent.map .notInstalled ++ audit.repeated.map .alreadyInstalled ++
    audit.programs.flatMap fun program =>
      (audit.libraries program).flatMap (audit.need program)

/-- The text has these parts in this order, with anything before, between and after them. -/
inductive Cites : String → List String → Prop where
  | nil (text : String) : Cites text []
  | cons (before part : String) {after : String} {parts : List String} (more : Cites after parts) :
    Cites (before ++ (part ++ after)) (part :: parts)

/-- What is told of a finding. All are errors but a repeated installation, which is warned of. A
window is cited with both its ends, and the versions at hand in their order. -/
inductive Tells : Finding → Diagnostic → Prop where
  | notInstalled {library : Library} {text : String}
      (cites : Cites text [library.name, toString library.version]) :
      Tells (.notInstalled library) ⟨.error, text⟩
  | alreadyInstalled {library : Library} {text : String}
      (cites : Cites text [library.name, toString library.version]) :
      Tells (.alreadyInstalled library) ⟨.warning, text⟩
  | missing {program library text : String} (cites : Cites text [program, library]) :
      Tells (.missing program library) ⟨.error, text⟩
  | unfit {program library text : String} {window : Window} {available : List Int}
      (cites : Cites text [program, library, s!"[{window.low}, {window.high}]",
        "[" ++ ", ".intercalate (available.map toString) ++ "]"]) :
      Tells (.unfit program library window available) ⟨.error, text⟩

/-! Windows. -/

theorem foldl_narrow (window : Window) (bounds : List Bound) :
    bounds.foldl (fun window bound => window.narrow bound.side bound.version) window =
      ⟨((bounds.filter (·.side = .lower)).map (·.version)).foldl max window.low,
        ((bounds.filter (·.side = .upper)).map (·.version)).foldl min window.high⟩ := by
  induction bounds generalizing window with
  | nil => rfl
  | cons bound bounds ih =>
    rw [List.foldl_cons, ih]
    cases h : bound.side <;> simp [Window.narrow, h]

/-- Just the bounds of a program on a library, in any order and however often. -/
def State.Covers (state : State) (program library : String) (bounds : List Bound) : Prop :=
  ∀ bound, bound ∈ bounds ↔
    bound ∈ state.bounds ∧ bound.program = program ∧ bound.library = library

theorem covers_boundsOn (state : State) (program library : String) :
    state.Covers program library (state.boundsOn program library) := by
  intro bound
  simp only [State.boundsOn, List.mem_filter, ExtTreeSet.mem_toList, Bool.and_eq_true,
    decide_eq_true_eq]

theorem State.Covers.mem_side {state : State} {program library : String} {bounds : List Bound}
    (covers : state.Covers program library bounds) (side : Side) (w : Int) :
    w ∈ (bounds.filter (·.side = side)).map (·.version) ↔
      (⟨program, library, side, w⟩ : Bound) ∈ state.bounds := by
  simp only [List.mem_map, List.mem_filter, decide_eq_true_eq]
  constructor
  · rintro ⟨bound, ⟨listed, rfl⟩, rfl⟩
    obtain ⟨known, rfl, rfl⟩ := (covers bound).mp listed
    exact known
  · exact fun known => ⟨_, ⟨(covers _).mpr ⟨known, rfl, rfl⟩, rfl⟩, rfl⟩

theorem isGreatest_foldl_max (a : Int) (xs : List Int) :
    IsGreatest {v | v ∈ a :: xs} (xs.foldl max a) :=
  List.max?_eq_some_iff.mp List.max?_cons'

theorem isLeast_foldl_min (a : Int) (xs : List Int) :
    IsLeast {v | v ∈ a :: xs} (xs.foldl min a) :=
  List.min?_eq_some_iff.mp List.min?_cons'

/-- The order in which the bounds are taken does not show in the window. -/
theorem frames_foldl {state : State} {program library : String} {available : List Int}
    {bounds : List Bound} (covers : state.Covers program library bounds) {low high : Int}
    (least : IsLeast {v | v ∈ available} low) (greatest : IsGreatest {v | v ∈ available} high) :
    Frames state program library available
      (bounds.foldl (fun window bound => window.narrow bound.side bound.version) ⟨low, high⟩) := by
  rw [foldl_narrow]
  constructor
  · convert isGreatest_foldl_max low _ using 1
    ext w
    simp only [Set.mem_ofPred_eq, List.mem_cons, covers.mem_side]
    exact or_congr_left ⟨fun h => h.unique least, fun h => h ▸ least⟩
  · convert isLeast_foldl_min high _ using 1
    ext w
    simp only [Set.mem_ofPred_eq, List.mem_cons, covers.mem_side]
    exact or_congr_left ⟨fun h => h.unique greatest, fun h => h ▸ greatest⟩

theorem window?_eq_some {state : State} {program library : String} {available : List Int}
    {window : Window} (h : state.window? program library available = some window) :
    ∃ low high, IsLeast {v | v ∈ available} low ∧ IsGreatest {v | v ∈ available} high ∧
      (state.boundsOn program library).foldl
        (fun window bound => window.narrow bound.side bound.version) ⟨low, high⟩ = window := by
  rw [State.window?] at h
  split at h
  · rename_i low high lowest highest
    exact ⟨low, high, List.min?_eq_some_iff.mp lowest, List.max?_eq_some_iff.mp highest,
      Option.some.inj h⟩
  · cases h

theorem window_frames {state : State} {program library : String} {available : List Int}
    {window : Window} (h : state.window? program library available = some window) :
    Frames state program library available window := by
  obtain ⟨low, high, least, greatest, rfl⟩ := window?_eq_some h
  exact frames_foldl (covers_boundsOn state program library) least greatest

theorem Frames.unique {state : State} {program library : String} {available : List Int}
    {window window' : Window} (h : Frames state program library available window)
    (h' : Frames state program library available window') : window = window' := by
  have low := h.low.unique h'.low
  have high := h.high.unique h'.high
  cases window
  cases window'
  simp_all

/-! Needs. -/

theorem versionsOf_lists (installed : ExtTreeSet Library) (name : String) :
    Lists (fun v => (⟨name, v⟩ : Library) ∈ installed) (versionsOf installed name) := by
  refine ⟨?_, mem_versionsOf installed name⟩
  rw [versionsOf, List.pairwise_map, List.pairwise_filter]
  refine installed.ordered_toList.imp fun {a b} before named named' => ?_
  -- Of libraries with one name the lower version comes first.
  have same : a.name = b.name := (of_decide_eq_true named).trans (of_decide_eq_true named').symm
  have order : compare a b = (compare a.name b.name).then (compare a.version b.version) := rfl
  have equal : compare b.name b.name = .eq := Std.compare_eq_iff_eq.mpr rfl
  rwa [order, same, equal] at before

theorem checkNeed_reports (state : State) (program library : String) :
    Reports state program library (state.checkNeed state.change.1 program library) := by
  have listed : Lists (fun v => state.Remains ⟨library, v⟩) (versionsOf state.change.1 library) :=
    (versionsOf_lists state.change.1 library).congr fun v => mem_change state ⟨library, v⟩
  rw [State.checkNeed]
  cases h : state.window? program library (versionsOf state.change.1 library) with
  | none =>
    have empty := (window?_eq_none_iff ..).mp h
    refine .missing fun v there => ?_
    have at_hand := (listed.2 v).mpr there
    rw [empty] at at_hand
    exact List.not_mem_nil at_hand
  | some window =>
    have filled : versionsOf state.change.1 library ≠ [] := by
      rw [ne_eq, ← window?_eq_none_iff state program library, h]
      exact Option.some_ne_none window
    have suits : ∀ v ∈ versionsOf state.change.1 library,
        window.contains v = true ↔ state.Suits program library v := by
      intro v at_hand
      rw [contains_window h at_hand, all_boundsOn]
    dsimp only
    split
    · rename_i fits
      obtain ⟨v, at_hand, inside⟩ := List.any_eq_true.mp fits
      exact .met v ((listed.2 v).mp at_hand) ((suits v at_hand).mp inside)
    · rename_i unfit
      refine .unfit listed filled (fun v at_hand suited => unfit ?_) (window_frames h)
      exact List.any_eq_true.mpr ⟨v, at_hand, (suits v at_hand).mpr suited⟩

theorem Reports.unique {state : State} {program library : String} {findings other : List Finding}
    (h : Reports state program library findings) (h' : Reports state program library other) :
    findings = other := by
  have remains : ∀ {available : List Int}, available ≠ [] →
      Lists (fun v => state.Remains ⟨library, v⟩) available →
        ∃ v, state.Remains ⟨library, v⟩ := by
    intro available filled listed
    obtain ⟨v, at_hand⟩ := List.exists_mem_of_ne_nil available filled
    exact ⟨v, (listed.2 v).mp at_hand⟩
  cases h with
  | missing absent =>
    cases h' with
    | missing => rfl
    | unfit listed filled =>
      obtain ⟨v, there⟩ := remains filled listed
      exact absurd there (absent v)
    | met v there => exact absurd there (absent v)
  | unfit listed filled unsuited frames =>
    cases h' with
    | missing absent =>
      obtain ⟨v, there⟩ := remains filled listed
      exact absurd there (absent v)
    | unfit listed' _ _ frames' =>
      cases listed.unique listed'
      rw [frames.unique frames']
    | met v there suits => exact absurd suits (unsuited v ((listed.2 v).mpr there))
  | met v there suits =>
    cases h' with
    | missing absent => exact absurd there (absent v)
    | unfit listed _ unsuited => exact absurd suits (unsuited v ((listed.2 v).mpr there))
    | met => rfl

/-! Whole reports. -/

def State.audit (state : State) : Audit state where
  absent := state.shouldDelete.toList.filter fun l => l ∉ state.installed
  repeated := state.shouldInstall.toList.filter fun l =>
    l ∈ state.installed ∧ l ∉ state.shouldDelete
  programs := state.wanted.toList
  libraries program := (state.needs program).toList
  need := state.checkNeed state.change.1
  absent_lists := ((lists_toList state.shouldDelete).filter _).congr fun l => by
    rw [decide_eq_true_eq]
  repeated_lists := ((lists_toList state.shouldInstall).filter _).congr fun l => by
    rw [decide_eq_true_eq]
  programs_list := lists_toList state.wanted
  libraries_list program := (lists_toList (state.needs program)).congr (mem_needs state program)
  reports := checkNeed_reports state

theorem findings_audit (state : State) : state.audit.findings = state.check := by
  have parts : state.check = state.change.2 ++ state.wanted.toList.flatMap fun program =>
      (state.needs program).toList.flatMap (state.checkNeed state.change.1 program) := rfl
  rw [parts, findings_change]
  rfl

theorem Audit.unique {state : State} (audit other : Audit state) :
    audit.findings = other.findings := by
  have libraries : audit.libraries = other.libraries :=
    funext fun program => (audit.libraries_list program).unique (other.libraries_list program)
  have need : audit.need = other.need :=
    funext fun program => funext fun library =>
      (audit.reports program library).unique (other.reports program library)
  rw [findings, findings, audit.absent_lists.unique other.absent_lists,
    audit.repeated_lists.unique other.repeated_lists,
    audit.programs_list.unique other.programs_list, libraries, need]

theorem verify_eq_findings {state : State} (audit : Audit state) (plan? : Option Plan) :
    world.verify state plan? = audit.findings.map Finding.diagnostic := by
  rw [audit.unique state.audit, findings_audit]
  rfl

/-! What is told. -/

theorem tells_diagnostic (finding : Finding) : Tells finding finding.diagnostic := by
  -- Each text is split at what it cites.
  cases finding with
  | notInstalled library =>
    have told : (Finding.notInstalled library).diagnostic =
        .error ("Asked to delete lib " ++ (library.name ++ (".so." ++
          (toString library.version ++ ", but it's not installed.")))) := by
      simp only [Finding.diagnostic, Library.text, toString, String.append_assoc]
    rw [told]
    exact .notInstalled (.cons _ _ (.cons _ _ (.nil _)))
  | alreadyInstalled library =>
    have told : (Finding.alreadyInstalled library).diagnostic =
        .warning ("Asked to install lib " ++ (library.name ++ (".so." ++
          (toString library.version ++
            (", but it's already installed. " ++ "This is odd, but allowed."))))) := by
      simp only [Finding.diagnostic, Library.text, toString, String.append_assoc]
    rw [told]
    exact .alreadyInstalled (.cons _ _ (.cons _ _ (.nil _)))
  | missing program library =>
    have told : (Finding.missing program library).diagnostic =
        .error ("Program " ++ (program ++ (" needs library " ++
          (library ++ ", but it's not installed.")))) := by
      simp only [Finding.diagnostic, toString, String.append_assoc]
    rw [told]
    exact .missing (.cons _ _ (.cons _ _ (.nil _)))
  | unfit program library window available =>
    have told : (Finding.unfit program library window available).diagnostic =
        .error ("Program " ++ (program ++ (" needs library " ++ (library ++
          (" in a version in " ++ (s!"[{window.low}, {window.high}]" ++
            (", but only these versions are available: " ++
              ("[" ++ ", ".intercalate (available.map toString) ++ "]" ++ "")))))))) := by
      simp only [Finding.diagnostic, toString, String.append_assoc, String.append_empty]
      rfl
    rw [told]
    exact .unfit (.cons _ _ (.cons _ _ (.cons _ _ (.cons _ _ (.nil _)))))

/-- What packages are reported: the parts of an audit one after the other, each told as what it is,
and nothing else. The report is on what remains after the deletions and then the installations, and
no question about it changes what is known. -/
theorem verify_eq_audit (state : State) :
    (∀ library, library ∈ state.change.1 ↔ state.Remains library) ∧ Nonempty (Audit state) ∧
      (∀ (audit : Audit state) (plan? : Option Plan),
        world.verify state plan? = audit.findings.map Finding.diagnostic ∧
          List.Forall₂ Tells audit.findings (world.verify state plan?)) ∧
      ∀ (review : Review world) (queries : List Query),
        ((Session.start review).askAll queries).2.review.state = review.state := by
  refine ⟨mem_change state, ⟨state.audit⟩, fun audit plan? => ?_, fun review queries => ?_⟩
  · have logs := verify_eq_findings audit plan?
    refine ⟨logs, ?_⟩
    rw [logs, List.forall₂_map_right_iff, List.forall₂_same]
    exact fun finding _ => tells_diagnostic finding
  · rw [Session.start_eq, Session.askAll_after, Session.review_after]

end PlanReferee.Packages
