import PlanReferee.Proofs.Grammar
import PlanReferee.Proofs.Text.Lines
import PlanReferee.Solver.Answers

/-! The answers in a solver's output: the lines right after the markers, and nothing else. So what is
printed with a marker before each solution is read again, whatever else stands around it. -/

namespace PlanReferee

open Text

/-- The lines that come right after a marker and are none themselves. -/
def announced (ls : List (List Char)) : List (List Char) :=
  ((ls.zip ls.tail).filter fun pair =>
    answerMarker <+: pair.1 ∧ ¬ answerMarker <+: pair.2).map (·.2)

/-- An output and the answers it holds, one for each line that is announced. -/
def HoldsAnswers (output : String) (answers : List (List String)) : Prop :=
  ∃ ls, Lined output.toList ls ∧ List.Forall₂
    (fun line answer => Worded line (answer.map String.toList)) (announced ls) answers

/-- A solution that can be told from a marker when its facts are printed on one line. -/
structure Printable (solution : List String) : Prop where
  words : ∀ fact ∈ solution, fact ≠ "" ∧ ∀ c ∈ fact.toList, isBlank c = false
  plain : solution.head? ≠ some "Answer:"

def solutionLine (solution : List String) : List Char :=
  List.intercalate [' '] (solution.map String.toList)

/-- Lines that print solutions, each one right after a marker with any label. -/
inductive Prints : List (List String) → List (List Char) → Prop
  | none : Prints [] []
  | other (line : List Char) {solutions : List (List String)} {ls : List (List Char)}
    (plain : ¬ answerMarker <+: line) (more : Prints solutions ls) : Prints solutions (line :: ls)
  | answer (solution : List String) (label : List Char) {solutions : List (List String)}
    {ls : List (List Char)} (more : Prints solutions ls) :
    Prints (solution :: solutions) ((answerMarker ++ label) :: solutionLine solution :: ls)

/-! Any output. -/

theorem isAnswerMarker_iff (line : List Char) :
    isAnswerMarker line = true ↔ answerMarker <+: line := by
  rw [isAnswerMarker, Option.isSome_iff_exists]
  simp only [after?_eq_some_iff]
  exact exists_congr fun _ => eq_comm

theorem answerLines_marker (announced : Bool) {line : List Char} (marker : answerMarker <+: line)
    (ls : List (List Char)) : answerLines announced (line :: ls) = answerLines true ls := by
  rw [answerLines, if_pos ((isAnswerMarker_iff line).mpr marker)]

theorem answerLines_plain (announced : Bool) {line : List Char} (plain : ¬ answerMarker <+: line)
    (ls : List (List Char)) : answerLines announced (line :: ls) =
      (if announced then [line] else []) ++ answerLines false ls := by
  rw [answerLines, if_neg (mt (isAnswerMarker_iff line).mp plain)]
  cases announced <;> rfl

theorem announced_cons (before line : List Char) (ls : List (List Char)) :
    announced (before :: line :: ls) =
      (if answerMarker <+: before ∧ ¬ answerMarker <+: line then [line] else []) ++
        announced (line :: ls) := by
  simp only [announced, List.tail_cons, List.zip_cons_cons, List.filter_cons, decide_eq_true_eq]
  split <;> rfl

/-- The flag says all that has to be known of the lines before. -/
theorem answerLines_eq (before : List Char) (ls : List (List Char)) :
    answerLines (isAnswerMarker before) ls = announced (before :: ls) := by
  induction ls generalizing before with
  | nil => rfl
  | cons line ls ih =>
    rw [announced_cons, ← ih]
    by_cases marker : answerMarker <+: line
    · rw [answerLines_marker _ marker, (isAnswerMarker_iff line).mpr marker]
      simp [marker]
    · have quiet : isAnswerMarker line = false :=
        Bool.eq_false_iff.mpr (mt (isAnswerMarker_iff line).mp marker)
      rw [answerLines_plain _ marker, quiet]
      simp [marker, isAnswerMarker_iff]

theorem answerLines_start (ls : List (List Char)) : answerLines false ls = announced ls := by
  cases ls with
  | nil => rfl
  | cons line ls =>
    rw [← answerLines_eq, answerLines]
    cases isAnswerMarker line <;> rfl

theorem answersIn_eq (output : String) {ls : List (List Char)} (lined : Lined output.toList ls) :
    answersIn output = (announced ls).map fun line => (words line).map String.ofList := by
  rw [answersIn, lined.lines_eq, answerLines_start]

theorem worded_iff (line : List Char) (answer : List String) :
    Worded line (answer.map String.toList) ↔ (words line).map String.ofList = answer := by
  have inverse : String.toList ∘ String.ofList = id := funext fun _ => String.toList_ofList
  have inverse' : String.ofList ∘ String.toList = id := funext fun _ => String.ofList_toList
  rw [← words_eq_iff]
  constructor
  · intro same
    rw [same, List.map_map, inverse', List.map_id]
  · rintro rfl
    rw [List.map_map, inverse, List.map_id]

theorem answersIn_eq_iff (output : String) (answers : List (List String)) :
    answersIn output = answers ↔ HoldsAnswers output answers := by
  have read : ∀ ls : List (List Char), List.Forall₂
      (fun line answer => Worded line (answer.map String.toList)) ls answers ↔
        ls.map (fun line => (words line).map String.ofList) = answers := by
    intro ls
    rw [← List.forall₂_eq_eq_eq, List.forall₂_map_left_iff]
    simp only [worded_iff]
  constructor
  · intro same
    obtain ⟨ls, lined⟩ := exists_lined output.toList
    exact ⟨ls, lined, (read _).mpr ((answersIn_eq output lined).symm.trans same)⟩
  · rintro ⟨ls, lined, worded⟩
    exact (answersIn_eq output lined).trans ((read _).mp worded)

/-! Printed solutions. -/

theorem Printable.facts {solution : List String} (printable : Printable solution) :
    ∀ fact ∈ solution.map String.toList, fact ≠ [] ∧ ∀ c ∈ fact, isBlank c = false := by
  rintro _ member
  obtain ⟨fact, listed, rfl⟩ := List.mem_map.mp member
  obtain ⟨filled, solid⟩ := printable.words fact listed
  exact ⟨mt String.toList_eq_nil_iff.mp filled, solid⟩

theorem Printable.words_line {solution : List String} (printable : Printable solution) :
    (Text.words (solutionLine solution)).map String.ofList = solution := by
  rw [solutionLine, words_intercalate printable.facts, List.map_map]
  simp [Function.comp_def]

theorem Printable.not_mem_line {solution : List String} (printable : Printable solution) {c : Char}
    (blank : isBlank c = true) (other : c ≠ ' ') : c ∉ solutionLine solution := by
  refine not_mem_intercalate (fun word member inside => ?_) (mt List.mem_singleton.mp other)
  exact Bool.noConfusion (blank.symm.trans ((printable.facts word member).2 c inside))

/-- The space of a marker comes after its only word, and that is not the first fact. -/
theorem Printable.not_marker {solution : List String} (printable : Printable solution) :
    ¬ answerMarker <+: solutionLine solution := by
  rintro ⟨label, marked⟩
  have marked : solutionLine solution = "Answer:".toList ++ ' ' :: label := marked.symm
  cases solution with
  | nil => cases marked
  | cons fact solution =>
    have solid : ' ' ∉ fact.toList := fun inside =>
      Bool.noConfusion ((printable.words fact List.mem_cons_self).2 ' ' inside)
    cases solution with
    | nil =>
      rw [solutionLine, List.map_singleton, List.intercalate_singleton] at marked
      exact solid (marked ▸ by simp)
    | cons next solution =>
      rw [solutionLine, List.map_cons, List.map_cons, List.intercalate_cons_cons,
        List.append_assoc, List.singleton_append] at marked
      have same := (cut_unique rfl marked solid (by decide)).1
      exact printable.plain (congrArg some (String.toList_inj.mp same))

theorem not_marker_of_readAs {line read : List Char} (same : ReadAs line read)
    (plain : ¬ answerMarker <+: line) : ¬ answerMarker <+: read :=
  fun marker => plain (marker.trans same.prefix)

theorem marker_of_readAs {line read : List Char} (same : ReadAs line read)
    (marker : answerMarker <+: line) : answerMarker <+: read := by
  rcases same with rfl | rfl
  · exact marker
  · -- A marker ends in a space, so that it is not what is taken from the end of the line.
    rcases List.prefix_concat_iff.mp marker with whole | within
    · have last := congrArg List.getLast? whole
      rw [List.getLast?_concat] at last
      exact absurd last (by decide)
    · exact within

theorem answerLines_prints {solutions : List (List String)} {ls reads : List (List Char)}
    (prints : Prints solutions ls) (same : List.Forall₂ ReadAs ls reads)
    (printable : ∀ solution ∈ solutions, Printable solution) :
    answerLines false reads = solutions.map solutionLine := by
  induction prints generalizing reads with
  | none =>
    cases same
    rfl
  | other line plain _ ih =>
    cases same with
    | cons first others =>
      rw [answerLines_plain false (not_marker_of_readAs first plain), ih others printable]
      rfl
  | answer solution label _ ih =>
    obtain ⟨own, more⟩ := List.forall_mem_cons.mp printable
    cases same with
    | cons first others =>
      cases others with
      | cons second others =>
        have marker := marker_of_readAs first (List.prefix_append answerMarker label)
        have whole := second.eq (own.not_mem_line (by decide) (by decide))
        subst whole
        rw [answerLines_marker false marker, answerLines_plain true own.not_marker,
          ih others more]
        rfl

theorem answersIn_prints {solutions : List (List String)} {ls : List (List Char)} {output : String}
    (prints : Prints solutions ls) (ended : Ended ls output.toList)
    (printable : ∀ solution ∈ solutions, Printable solution) : answersIn output = solutions := by
  rw [answersIn, answerLines_prints prints ended.read printable, List.map_map]
  conv_rhs => rw [← List.map_id solutions]
  exact List.map_congr_left fun solution listed => (printable solution listed).words_line

/-- An output holds just the answers that are read from it, and solutions that are printed are read
again, whatever other lines stand before, between and after them. -/
theorem answers_recovered :
    (∀ output answers, answersIn output = answers ↔ HoldsAnswers output answers) ∧
    ∀ solutions ls output, Prints solutions ls → Ended ls output.toList →
      (∀ solution ∈ solutions, Printable solution) → answersIn output = solutions :=
  ⟨answersIn_eq_iff, fun _ _ _ => answersIn_prints⟩

def noisyOutput : String :=
  "Solving...\nAnswer: 1\r\non(a,b) done\r\nAnswer: 2 of 2\n\nAnswers: 2\r\n"

def noisyLines : List (List Char) :=
  ["Solving...".toList, "Answer: 1".toList, "on(a,b) done".toList, "Answer: 2 of 2".toList, [],
    "Answers: 2".toList]

/-- The second solution has no facts, and what looks like one more marker is none. -/
theorem answers_recovered_noisy :
    Prints [["on(a,b)", "done"], []] noisyLines ∧ Ended noisyLines noisyOutput.toList ∧
      (∀ solution ∈ [["on(a,b)", "done"], []], Printable solution) ∧
      answersIn noisyOutput = [["on(a,b)", "done"], []] := by
  have prints : Prints [["on(a,b)", "done"], []] noisyLines :=
    .other _ (by decide) <| .answer ["on(a,b)", "done"] "1".toList <|
      .answer [] "2 of 2".toList <| .other _ (by decide) .none
  have text : noisyOutput.toList = "Solving...".toList ++ '\n' :: ("Answer: 1".toList ++
      '\r' :: '\n' :: ("on(a,b) done".toList ++ '\r' :: '\n' :: ("Answer: 2 of 2".toList ++
        '\n' :: ([] ++ '\n' :: ("Answers: 2".toList ++ ['\r', '\n']))))) := by
    decide +kernel
  have ended : Ended noisyLines noisyOutput.toList := by
    rw [text]
    exact .lineFeed _ (by decide) <| .both _ (by decide) <| .both _ (by decide) <|
      .lineFeed _ (by decide) <| .lineFeed _ (by decide) <| .both _ (by decide) .none
  have printable : ∀ solution ∈ [["on(a,b)", "done"], []], Printable solution := by
    have solid : ∀ fact ∈ ["on(a,b)", "done"], fact ≠ "" ∧ fact.toList.any isBlank = false := by
      decide +kernel
    refine List.forall_mem_cons.mpr ⟨⟨fun fact listed => ?_, by decide⟩,
      List.forall_mem_singleton.mpr ⟨List.forall_mem_nil _, by decide⟩⟩
    simpa using solid fact listed
  exact ⟨prints, ended, printable, answers_recovered.2 _ _ _ prints ended printable⟩

end PlanReferee
