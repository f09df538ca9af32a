import Mathlib.Data.List.Count
import PlanReferee.Proofs.Json.Numbers
import PlanReferee.Proofs.Statues.Arrival

/-! Errors by their number. A walk that has somewhere to go is replayed to its end, whatever has been
found on the way, and each thing that is wrong is reported as often as it is wrong: once for a crowd,
however large, and once for each move on red. -/

namespace PlanReferee.Statues

open Std (ExtTreeMap ExtTreeSet)

/-- What a plan can be charged with, as long as it does not end where it starts. -/
inductive Charge (red : ExtTreeSet Time) (plan : Plan) : Finding → Prop where
  | agents (several : plan.agents.size ≠ 1) : Charge red plan .notOneAgent
  | start (missing : ∀ x, ¬ LastPlace plan.start x) : Charge red plan .noStart
  | goal (missing : ∀ y, ¬ LastPlace plan.goal y) : Charge red plan .noGoal
  | crowd {t : Time} {step : Step} (stored : plan.timeline[t]? = some step)
      (crowded : 1 < actionsAt step) : Charge red plan (.crowded t (step.orders.map (·.2)))
  | red {t : Time} (dark : t ∈ red) : Charge red plan (.movedOnRed t)
  | missed {x y : Int} (start : LastPlace plan.start x) (goal : LastPlace plan.goal y)
      (astray : x + (scheduledMoves plan).length ≠ y)
      (within : x + (scheduledMoves plan).length ≤ Int64.maxValue.toInt) :
      Charge red plan (.missed y (x + (scheduledMoves plan).length))
  | overflow {x y : Int} (start : LastPlace plan.start x) (goal : LastPlace plan.goal y)
      (astray : x + (scheduledMoves plan).length ≠ y)
      (beyond : Int64.maxValue.toInt < x + (scheduledMoves plan).length) :
      Charge red plan (.overflow (scheduledMoves plan).length x)

/-- How often a charge is made. A red light counts each move made at its time. -/
def repeats (plan : Plan) : Finding → Nat
  | .movedOnRed t => (moveTimes plan).count t
  | _ => 1

/-- An error that names a time at which several actions are due. -/
def namesCrowd (t : Time) (d : Diagnostic) : Bool :=
  s!"Multiple actions executed at time {t}: [".toList.isPrefixOf d.message.toList

/-- A list of errors that has every charge as often as it is made, and nothing else. -/
structure Tally (red : ExtTreeSet Time) (plan : Plan) (errors : List Diagnostic) : Prop where
  counted : ∀ finding, Charge red plan finding →
    errors.count finding.diagnostic = repeats plan finding
  only : ∀ d ∈ errors, ∃ finding, Charge red plan finding ∧ d = finding.diagnostic
  crowds : ∀ t : Time, errors.countP (namesCrowd t) =
    (plan.timeline[t]?.any fun step => decide (1 < actionsAt step)).toNat

/-! The errors among the findings. -/

def crowds (plan : Plan) : List Finding :=
  plan.steps.filterMap fun (t, step) =>
    let actions := step.orders.map (·.2)
    if 1 < actions.length then some (.crowded t actions) else none

def reds (red : ExtTreeSet Time) (plan : Plan) : List Finding :=
  ((moveTimes plan).filter fun t => t ∈ red).map .movedOnRed

def arrivals (plan : Plan) : List Finding :=
  match position? plan.start, position? plan.goal with
  | some x, some y => arrivalFindings (Walk.ofPlan plan) x y
  | _, _ => []

/-- The errors of a replay in the order in which they are found. -/
def charges (red : ExtTreeSet Time) (plan : Plan) : List Finding :=
  (if plan.agents.size ≠ 1 then [.notOneAgent] else [])
    ++ (if (position? plan.start).isNone then [.noStart] else [])
    ++ (if (position? plan.goal).isNone then [.noGoal] else [])
    ++ crowds plan ++ reds red plan ++ arrivals plan

/-- The findings that are errors. -/
def errorsOf (findings : List Finding) : List Finding :=
  findings.filter fun finding => finding.diagnostic.isError

theorem errorsOf_append (findings more : List Finding) :
    errorsOf (findings ++ more) = errorsOf findings ++ errorsOf more := List.filter_append ..

theorem errorsOf_warning (p : Prop) [Decidable p] {finding : Finding}
    (warning : finding.diagnostic.isError = false) :
    errorsOf (if p then [finding] else []) = [] ∧ errorsOf (if p then [] else [finding]) = [] := by
  split <;> simp [errorsOf, warning]

theorem errorsOf_error (p : Prop) [Decidable p] {finding : Finding}
    (error : finding.diagnostic.isError = true) :
    errorsOf (if p then [finding] else []) = (if p then [finding] else []) ∧
      errorsOf (if p then [] else [finding]) = if p then [] else [finding] := by
  split <;> simp [errorsOf, error]

theorem errorsOf_setup (plan : Plan) (walk : Walk) :
    errorsOf (setupFindings plan walk) =
      if plan.agents.size ≠ 1 then [.notOneAgent] else [] := by
  rw [setupFindings, errorsOf_append, errorsOf_append, errorsOf_append,
    (errorsOf_warning _ rfl).2, (errorsOf_warning _ rfl).1, (errorsOf_warning _ rfl).1,
    (errorsOf_error _ rfl).2, ite_not]
  rfl

theorem of_mem_crowds {plan : Plan} {finding : Finding} (member : finding ∈ crowds plan) :
    ∃ t step, plan.timeline[t]? = some step ∧ 1 < actionsAt step ∧
      finding = .crowded t (step.orders.map (·.2)) := by
  obtain ⟨⟨t, step⟩, stored, found⟩ := List.mem_filterMap.mp member
  simp only [List.length_map, ← actionsAt_eq_length, Option.ite_none_right_eq_some,
    Option.some.injEq] at found
  exact ⟨t, step, (plan.mem_steps t step).mp stored, found.1, found.2.symm⟩

theorem errorsOf_walk (state : State) (plan : Plan) :
    errorsOf (walkFindings state plan (Walk.ofPlan plan)) =
      crowds plan ++ reds state.redLights plan := by
  have crowded : errorsOf (crowds plan) = crowds plan := by
    refine List.filter_eq_self.mpr fun finding member => ?_
    obtain ⟨t, step, _, _, rfl⟩ := of_mem_crowds member
    rfl
  have dark : errorsOf (reds state.redLights plan) = reds state.redLights plan := by
    refine List.filter_eq_self.mpr fun finding member => ?_
    obtain ⟨t, _, rfl⟩ := List.mem_map.mp member
    rfl
  rw [walkFindings, steps_ofPlan, errorsOf_append, errorsOf_append, (errorsOf_warning _ rfl).1,
    List.append_nil]
  exact congrArg₂ (· ++ ·) crowded dark

theorem errorsOf_arrival (walk : Walk) (x y : Int) :
    errorsOf (arrivalFindings walk x y) = arrivalFindings walk x y := by
  unfold arrivalFindings
  split
  · exact (errorsOf_error _ rfl).2
  · rfl

/-- Of a plan that has somewhere to go, all errors are found. -/
theorem errorsOf_check (state : State) {plan : Plan}
    (apart : ∀ x, LastPlace plan.start x → ¬ LastPlace plan.goal x) :
    errorsOf (check state plan) = charges state.redLights plan := by
  simp only [← position?_eq_some_iff] at apart
  have start : (Walk.ofPlan plan).start = position? plan.start := rfl
  have goal : (Walk.ofPlan plan).goal = position? plan.goal := rfl
  unfold check
  dsimp only
  rw [start, goal, charges]
  split
  · rename_i x y hx hy
    have away : x ≠ y := fun same => apart x hx (same ▸ hy)
    have known : arrivals plan = arrivalFindings (Walk.ofPlan plan) x y := by
      simp only [arrivals, hx, hy]
    have zero : errorsOf (if x = 0 then [] else [.startNotZero]) = [] := (errorsOf_warning _ rfl).2
    have beyond : errorsOf (if y < x then [.startBeyondGoal] else []) = [] :=
      (errorsOf_warning _ rfl).1
    simp only [errorsOf_append, errorsOf_setup, errorsOf_walk, errorsOf_arrival, if_neg away, zero,
      beyond, known, hx, hy, Option.isNone_some, List.append_assoc, List.append_nil,
      List.nil_append, Bool.false_eq_true, if_false]
  · rename_i missing
    have unknown : arrivals plan = [] := by
      unfold arrivals
      split
      · exact (missing _ _ ‹_› ‹_›).elim
      · rfl
    rw [errorsOf_append, errorsOf_append, errorsOf_append, errorsOf_setup, errorsOf_walk,
      (errorsOf_error _ rfl).1, (errorsOf_error _ rfl).1, unknown]
    simp only [List.append_assoc, List.append_nil]

/-- A plan that ends where it starts is not replayed, so that nothing on the way is an error. -/
theorem errorsOf_check_degenerate (state : State) {plan : Plan} {x : Int}
    (start : LastPlace plan.start x) (goal : LastPlace plan.goal x) :
    errorsOf (check state plan) =
        (if plan.agents.size ≠ 1 then [.notOneAgent] else []) ++ [.startIsGoal] ∧
      (check state plan).getLast? = some .startIsGoal := by
  have start' : (Walk.ofPlan plan).start = some x := (position?_eq_some_iff plan.start x).mpr start
  have goal' : (Walk.ofPlan plan).goal = some x := (position?_eq_some_iff plan.goal x).mpr goal
  have replay : check state plan = setupFindings plan (Walk.ofPlan plan)
      ++ (if x = 0 then [] else [.startNotZero]) ++ (if x < x then [.startBeyondGoal] else [])
      ++ [.startIsGoal] := by
    simp only [check, start', goal', if_true]
  constructor
  · rw [replay, errorsOf_append, errorsOf_append, errorsOf_append, errorsOf_setup,
      (errorsOf_warning _ rfl).2, (errorsOf_warning _ rfl).1, List.append_nil, List.append_nil]
    rfl
  · rw [replay, List.getLast?_concat]

/-! The number of each error. -/

theorem lastPlace_unique {literals : List String} {x y : Int} (hx : LastPlace literals x)
    (hy : LastPlace literals y) : x = y := by
  rw [← position?_eq_some_iff] at hx hy
  exact Option.some.inj (hx.symm.trans hy)

theorem position?_isNone_iff (literals : List String) :
    (position? literals).isNone = true ↔ ∀ x, ¬ LastPlace literals x := by
  simp only [← position?_eq_some_iff, Option.isNone_iff_eq_none, Option.eq_none_iff_forall_ne_some]

/-- Where a walk between two known places ends up. -/
theorem arrivals_of_places {plan : Plan} {x y : Int} (start : LastPlace plan.start x)
    (goal : LastPlace plan.goal y) :
    arrivals plan = if x + (scheduledMoves plan).length ≤ Int64.maxValue.toInt then
      (if x + (scheduledMoves plan).length = y then []
        else [.missed y (x + (scheduledMoves plan).length)])
      else [.overflow (scheduledMoves plan).length x] := by
  have start' : position? plan.start = some x := (position?_eq_some_iff plan.start x).mpr start
  have goal' : position? plan.goal = some y := (position?_eq_some_iff plan.goal y).mpr goal
  have known : (Walk.ofPlan plan).start = some x := start'
  simp only [arrivals, start', goal', arrivalFindings, reached?_eq known, length_steps]
  by_cases within : x + (scheduledMoves plan).length ≤ Int64.maxValue.toInt
  · simp only [within, if_true]
  · simp only [within, if_false]

theorem charge_of_mem_arrivals {red : ExtTreeSet Time} {plan : Plan} {finding : Finding}
    (member : finding ∈ arrivals plan) : Charge red plan finding ∧
      ((∃ y reached, finding = .missed y reached) ∨ ∃ steps x, finding = .overflow steps x) := by
  have known : ∃ x y, LastPlace plan.start x ∧ LastPlace plan.goal y := by
    simp only [← position?_eq_some_iff]
    unfold arrivals at member
    split at member
    · exact ⟨_, _, ‹_›, ‹_›⟩
    · cases member
  obtain ⟨x, y, start, goal⟩ := known
  have high := (lastPlace_bound goal).2
  rw [arrivals_of_places start goal] at member
  split at member
  · rename_i within
    split at member
    · cases member
    · rename_i astray
      cases List.mem_singleton.mp member
      exact ⟨.missed start goal astray within, .inl ⟨_, _, rfl⟩⟩
  · cases List.mem_singleton.mp member
    exact ⟨.overflow start goal (by omega) (by omega), .inr ⟨_, _, rfl⟩⟩

theorem charge_of_mem {red : ExtTreeSet Time} {plan : Plan} {finding : Finding}
    (member : finding ∈ charges red plan) : Charge red plan finding := by
  simp only [charges, List.mem_append] at member
  rcases member with ((((member | member) | member) | member) | member) | member
  · split at member
    · rename_i several
      cases List.mem_singleton.mp member
      exact .agents several
    · cases member
  · split at member
    · rename_i missing
      cases List.mem_singleton.mp member
      exact .start ((position?_isNone_iff plan.start).mp missing)
    · cases member
  · split at member
    · rename_i missing
      cases List.mem_singleton.mp member
      exact .goal ((position?_isNone_iff plan.goal).mp missing)
    · cases member
  · obtain ⟨t, step, stored, crowded, rfl⟩ := of_mem_crowds member
    exact .crowd stored crowded
  · obtain ⟨t, dark, rfl⟩ := List.mem_map.mp member
    exact .red (of_decide_eq_true (List.mem_filter.mp dark).2)
  · exact (charge_of_mem_arrivals member).1

theorem crowds_nodup (plan : Plan) : (crowds plan).Nodup := by
  rw [crowds, List.Nodup, List.pairwise_filterMap]
  refine plan.steps_ascending.imp ?_
  rintro ⟨t, step⟩ ⟨t', step'⟩ earlier finding found finding' found' rfl
  simp only [Option.ite_none_right_eq_some, Option.some.injEq] at found found'
  have same := (Finding.crowded.inj (found.2.trans found'.2.symm)).1
  exact Std.lt_irrefl (same ▸ earlier)

theorem mem_crowds {plan : Plan} {t : Time} {step : Step} (stored : plan.timeline[t]? = some step)
    (crowded : 1 < actionsAt step) : .crowded t (step.orders.map (·.2)) ∈ crowds plan := by
  refine List.mem_filterMap.mpr ⟨(t, step), (plan.mem_steps t step).mpr stored, ?_⟩
  rw [actionsAt_eq_length] at crowded
  simp only [List.length_map, crowded, if_true]

theorem count_reds {red : ExtTreeSet Time} (plan : Plan) {t : Time} (dark : t ∈ red) :
    (reds red plan).count (.movedOnRed t) = (moveTimes plan).count t := by
  have injective : Function.Injective Finding.movedOnRed := fun _ _ h => Finding.movedOnRed.inj h
  rw [reds, List.count_map_of_injective _ _ injective]
  exact List.count_filter (decide_eq_true dark)

theorem count_if (p : Prop) [Decidable p] (finding other : Finding) :
    (if p then [finding] else []).count other = if p ∧ finding = other then 1 else 0 := by
  by_cases h : p <;> simp [h, List.count_singleton]

/-- Each charge is found as often as it is made. -/
theorem count_charges {red : ExtTreeSet Time} {plan : Plan} {finding : Finding}
    (charge : Charge red plan finding) :
    (charges red plan).count finding = repeats plan finding := by
  have crowdless : (∀ t actions, finding ≠ .crowded t actions) → (crowds plan).count finding = 0 := by
    refine fun other => List.count_eq_zero.mpr fun member => ?_
    obtain ⟨t, step, _, _, same⟩ := of_mem_crowds member
    exact other _ _ same
  have redless : (∀ t, finding ≠ .movedOnRed t) → (reds red plan).count finding = 0 := by
    refine fun other => List.count_eq_zero.mpr fun member => ?_
    obtain ⟨t, _, same⟩ := List.mem_map.mp member
    exact other t same.symm
  have homeless : (∀ y reached, finding ≠ .missed y reached) →
      (∀ steps x, finding ≠ .overflow steps x) → (arrivals plan).count finding = 0 := by
    refine fun reached far => List.count_eq_zero.mpr fun member => ?_
    rcases (@charge_of_mem_arrivals red plan finding member).2 with ⟨y, z, same⟩ | ⟨n, x, same⟩
    · exact reached y z same
    · exact far n x same
  simp only [charges, List.count_append, count_if]
  cases charge with
  | agents several =>
    rw [crowdless nofun, redless nofun, homeless nofun nofun]
    simp [several, repeats]
  | start missing =>
    have unknown := (position?_isNone_iff plan.start).mpr missing
    rw [crowdless nofun, redless nofun, homeless nofun nofun]
    simp [unknown, repeats, -Option.isNone_iff_eq_none]
  | goal missing =>
    have unknown := (position?_isNone_iff plan.goal).mpr missing
    rw [crowdless nofun, redless nofun, homeless nofun nofun]
    simp [unknown, repeats, -Option.isNone_iff_eq_none]
  | crowd stored crowded =>
    rw [redless nofun, homeless nofun nofun,
      List.count_eq_one_of_mem (crowds_nodup plan) (mem_crowds stored crowded)]
    simp [repeats]
  | red dark =>
    rw [crowdless nofun, homeless nofun nofun, count_reds plan dark]
    simp [repeats]
  | missed start goal astray within =>
    rw [crowdless nofun, redless nofun, arrivals_of_places start goal]
    simp [astray, within, repeats]
  | overflow start goal astray beyond =>
    rw [crowdless nofun, redless nofun, arrivals_of_places start goal]
    simp [Int.not_le.mpr beyond, repeats]

/-! What can be read off a text. -/

/-- How a finding begins, whatever it is about. -/
def Finding.opening : Finding → String
  | unexpected _ => "Got unexpected actions: ["
  | crowded .. => "Multiple actions executed at time "
  | movedOnRed _ => "At time="
  | missed .. => "Goal position was "
  | overflow .. => "Walking "
  | finding => finding.diagnostic.message

def openings : List String :=
  [.unexpected [], .severalStarts, .severalGoals, .notOneAgent, .noStart, .noGoal, .startNotZero,
    .startBeyondGoal, .startIsGoal, .crowded 0 [], .movedOnRed 0, .noSteps, .missed 0 0,
    .overflow 0 0].map Finding.opening

theorem openings_apart : ∀ a ∈ openings, ∀ b ∈ openings, a.toList <+: b.toList → a = b := by
  decide +kernel

theorem Finding.opening_mem (finding : Finding) : finding.opening ∈ openings := by
  cases finding <;> simp [openings, opening]

theorem Finding.opening_prefix (finding : Finding) :
    finding.opening.toList <+: finding.diagnostic.message.toList := by
  cases finding <;> simp only [opening, diagnostic, Diagnostic.warning, Diagnostic.error,
    String.append_assoc, String.toList_append]
  all_goals first | exact List.prefix_refl _ | exact List.prefix_append _ _

/-- A text that begins like a finding of some kind is none of another kind. -/
theorem Finding.opening_eq {finding other : Finding} {text : List Char}
    (mine : finding.opening.toList <+: text) (theirs : other.opening.toList <+: text) :
    finding.opening = other.opening := by
  rcases List.prefix_or_prefix_of_prefix mine theirs with h | h
  · exact openings_apart _ finding.opening_mem _ other.opening_mem h
  · exact (openings_apart _ other.opening_mem _ finding.opening_mem h).symm

theorem time_eq_of_text {t t' : Time} {rest rest' : List Char} (ends : Json.EndsNumber rest)
    (ends' : Json.EndsNumber rest')
    (same : (toString t).toList ++ rest = (toString t').toList ++ rest') : t = t' := by
  have digits : ∀ t : Time, (toString t).toList = Nat.toDigits 10 t.toNat :=
    fun _ => Nat.toList_repr
  have small : ∀ t : Time, t.toNat ≤ Json.maxWord := by
    intro t
    have bound := t.toNat_lt
    simp only [Json.maxWord, UInt64.size]
    omega
  have read := Json.number_toDigits (small t) ends
  rw [← digits, same, digits, Json.number_toDigits (small t') ends'] at read
  simp only [Except.ok.injEq, Prod.mk.injEq, Option.some.injEq] at read
  exact UInt32.toNat_inj.mp read.1.symm

theorem colon_endsNumber (rest : List Char) : Json.EndsNumber (':' :: rest) := by
  rintro _ _ ⟨⟩
  decide

theorem blank_endsNumber (rest : List Char) : Json.EndsNumber (' ' :: rest) := by
  rintro _ _ ⟨⟩
  decide

theorem crowded_text (t : Time) (actions : List Action) :
    (Finding.crowded t actions).diagnostic.message =
      s!"Multiple actions executed at time {t}: [" ++
        (", ".intercalate (actions.map Action.text) ++ "]") := by
  simp only [Finding.diagnostic, Diagnostic.error, String.append_assoc]

/-- The time that the text of a crowd names is the time of the crowd. -/
theorem namesCrowd_iff (t : Time) (finding : Finding) :
    namesCrowd t finding.diagnostic = true ↔ ∃ actions, finding = .crowded t actions := by
  rw [namesCrowd, List.isPrefixOf_iff_prefix]
  constructor
  · intro named
    have mine : (Finding.crowded t []).opening.toList <+: finding.diagnostic.message.toList := by
      refine List.IsPrefix.trans ?_ named
      simp only [Finding.opening, String.toList_append, List.append_assoc]
      exact List.prefix_append _ _
    have opening := Finding.opening_eq finding.opening_prefix mine
    cases finding with
    | crowded t' actions =>
      obtain ⟨rest, same⟩ := named
      rw [crowded_text] at same
      simp only [String.toList_append, List.append_assoc] at same
      have same := List.append_cancel_left same
      have time := time_eq_of_text (colon_endsNumber _) (colon_endsNumber _) same
      exact ⟨actions, time ▸ rfl⟩
    | _ => simp [Finding.opening, Finding.diagnostic, Diagnostic.warning, Diagnostic.error] at opening
  · rintro ⟨actions, rfl⟩
    rw [crowded_text]
    exact ⟨_, String.toList_append.symm⟩

/-- Two charges with one text are the same charge. -/
theorem Charge.eq_of_diagnostic {red : ExtTreeSet Time} {plan : Plan} {finding other : Finding}
    (charge : Charge red plan finding) (charge' : Charge red plan other)
    (same : finding.diagnostic = other.diagnostic) : finding = other := by
  have opening : finding.opening = other.opening :=
    Finding.opening_eq finding.opening_prefix (same ▸ other.opening_prefix)
  -- Charges of different kinds begin differently.
  cases charge <;> cases charge' <;> try first
    | rfl
    | simp [Finding.opening, Finding.diagnostic, Diagnostic.error] at opening
  case crowd.crowd t step stored _ t' step' stored' _ =>
    have named : namesCrowd t' (Finding.crowded t (step.orders.map (·.2))).diagnostic = true := by
      rw [same, namesCrowd_iff]
      exact ⟨_, rfl⟩
    obtain ⟨_, h⟩ := (namesCrowd_iff _ _).mp named
    cases (Finding.crowded.inj h).1
    cases stored.symm.trans stored'
    rfl
  case red.red t _ t' _ =>
    have text := congrArg (fun d => d.message.toList) same
    simp only [Finding.diagnostic, Diagnostic.error, String.toList_append,
      List.append_assoc] at text
    have text := List.append_cancel_left text
    rw [time_eq_of_text (blank_endsNumber _) (blank_endsNumber _) text]
  case missed.missed start goal _ _ _ _ start' goal' _ _ =>
    rw [lastPlace_unique start start', lastPlace_unique goal goal']
  case overflow.overflow start goal _ _ _ _ start' goal' _ _ =>
    rw [lastPlace_unique start start']

/-! The tally. -/

theorem count_diagnostics {red : ExtTreeSet Time} {plan : Plan} {finding : Finding}
    (charge : Charge red plan finding) :
    ((charges red plan).map Finding.diagnostic).count finding.diagnostic = repeats plan finding := by
  rw [← count_charges charge, List.count, List.countP_map, List.count]
  refine List.countP_congr fun other member => ?_
  simp only [Function.comp_apply, beq_iff_eq]
  exact ⟨(charge_of_mem member).eq_of_diagnostic charge, congrArg Finding.diagnostic⟩

theorem crowd_of_namesCrowd {red : ExtTreeSet Time} {plan : Plan} {t : Time} {finding : Finding}
    (charge : Charge red plan finding) (named : namesCrowd t finding.diagnostic = true) :
    ∃ step, plan.timeline[t]? = some step ∧ 1 < actionsAt step ∧
      finding = .crowded t (step.orders.map (·.2)) := by
  obtain ⟨actions, rfl⟩ := (namesCrowd_iff t finding).mp named
  cases charge with
  | crowd stored crowded => exact ⟨_, stored, crowded, rfl⟩

theorem count_namesCrowd (red : ExtTreeSet Time) (plan : Plan) (t : Time) :
    ((charges red plan).map Finding.diagnostic).countP (namesCrowd t) =
      (plan.timeline[t]?.any fun step => decide (1 < actionsAt step)).toNat := by
  cases busy : plan.timeline[t]?.any fun step => decide (1 < actionsAt step) with
  | false =>
    refine List.countP_eq_zero.mpr fun d member named => ?_
    obtain ⟨finding, charged, rfl⟩ := List.mem_map.mp member
    obtain ⟨step, stored, crowded, _⟩ := crowd_of_namesCrowd (charge_of_mem charged) named
    simp [stored, crowded] at busy
  | true =>
    obtain ⟨step, stored, crowded⟩ := (Option.any_eq_true _ _).mp busy
    -- The error that names the time is the one that the crowd is charged with.
    have charge : Charge red plan (.crowded t (step.orders.map (·.2))) :=
      .crowd stored (of_decide_eq_true crowded)
    refine Eq.trans (List.countP_congr fun d member => ?_) (count_diagnostics charge)
    obtain ⟨finding, charged, rfl⟩ := List.mem_map.mp member
    rw [beq_iff_eq]
    constructor
    · intro named
      obtain ⟨step', stored', _, rfl⟩ := crowd_of_namesCrowd (charge_of_mem charged) named
      cases stored.symm.trans stored'
      rfl
    · intro same
      rw [same, namesCrowd_iff]
      exact ⟨_, rfl⟩

theorem tally_charges (red : ExtTreeSet Time) (plan : Plan) :
    Tally red plan ((charges red plan).map Finding.diagnostic) where
  counted _ charge := count_diagnostics charge
  only d member := by
    obtain ⟨finding, charged, rfl⟩ := List.mem_map.mp member
    exact ⟨finding, charge_of_mem charged, rfl⟩
  crowds := count_namesCrowd red plan

/-- What the errors of a verdict are. A plan that leads somewhere, or is not said to, has each error
as often as it is made; one that is to end where it starts is told so last, and apart from that only
the number of its agents can be wrong. -/
theorem errors_tally (state : State) (plan : Plan) :
    ((∀ x, LastPlace plan.start x → ¬ LastPlace plan.goal x) →
      Tally state.redLights plan ((world.verify state (some plan)).filter Diagnostic.isError)) ∧
    ∀ x, LastPlace plan.start x → LastPlace plan.goal x →
      (world.verify state (some plan)).filter Diagnostic.isError =
          (if plan.agents.size ≠ 1 then [Finding.notOneAgent.diagnostic] else []) ++
            [Finding.startIsGoal.diagnostic] ∧
        (world.verify state (some plan)).getLast? = some Finding.startIsGoal.diagnostic := by
  have errors : (world.verify state (some plan)).filter Diagnostic.isError =
      (errorsOf (check state plan)).map Finding.diagnostic := List.filter_map
  have logs : world.verify state (some plan) = (check state plan).map Finding.diagnostic := rfl
  constructor
  · intro apart
    rw [errors, errorsOf_check state apart]
    exact tally_charges state.redLights plan
  · intro x start goal
    obtain ⟨found, last⟩ := errorsOf_check_degenerate state start goal
    rw [errors, found, logs, List.getLast?_map, last]
    refine ⟨?_, rfl⟩
    split <;> rfl

end PlanReferee.Statues
