import PlanReferee.Review.Session

/-! Sessions with one review. Whatever is asked, in whatever order and however often, the verdict is
reached once, with the first question that needs it. No answer but a sketch shows what was asked
before. -/

namespace PlanReferee

/-- The question cannot be answered without a verdict. -/
def Query.needsVerdict : Query → Bool
  | listing | isValid | verdict | coloured | report _ => true
  | sketch | summary | facts | recognized | plan | worldName => false

namespace Session

variable {world : World}

/-- The session with a review in which the verdict is reached, or not yet. -/
def after (review : Review world) (decided : Bool) : Session world where
  review
  kept? := if decided then some review.verdict else none
  events := review.openingEvents ++ if decided then review.verdictEvents else []

/-- What a session gives: its answers, and its events when all questions are asked. -/
structure Transcript (review : Review world) (queries : List Query) (answers : List Answer)
    (events : List Event) : Prop where
  length : answers.length = queries.length
  /-- But for sketches, the answers are those of a session with one question. -/
  alone : ∀ (i : Nat) (query : Query), queries[i]? = some query → query ≠ .sketch →
    answers[i]? = some ((start review).ask query).1
  /-- A sketch says whether a question before it needed the verdict. Nothing else in it changes. -/
  sketch : ∃ front : String, ∀ i : Nat, queries[i]? = some .sketch → answers[i]? = some (.text
    (front ++ ", validated: " ++ toString ((queries.take i).any Query.needsVerdict) ++ " \x7d"))
  events : events = review.openingEvents ++
    if ∃ query ∈ queries, query.needsVerdict = true then
      [.worldVerified world.name review.findings.length,
        .verdictReached world.name review.verdict.valid review.verdict.logs.length]
    else []
  opening : ∀ event ∈ review.openingEvents,
    event.message ≠ "domain verify finished" ∧ event.message ≠ "validation verdict cached"

/-! One question. -/

theorem start_eq (review : Review world) : start review = after review false := by
  simp [start, after]

@[simp]
theorem review_after (review : Review world) (decided : Bool) :
    (after review decided).review = review :=
  rfl

theorem verdict_after (review : Review world) (decided : Bool) :
    (after review decided).verdict = (review.verdict, after review true) := by
  cases decided with
  | true => rfl
  | false => simp [verdict, after]

theorem judged_after (review : Review world) (decided : Bool) (answer : Verdict → Answer) :
    (after review decided).judged answer = (answer review.verdict, after review true) := by
  rw [judged, verdict_after]

/-- A question leaves the verdict as it is, or has it reached. -/
theorem ask_after (review : Review world) (decided : Bool) (query : Query) :
    ((after review decided).ask query).2 = after review (decided || query.needsVerdict) := by
  cases query <;> simp only [ask, judged_after, Query.needsVerdict, Bool.or_true, Bool.or_false]

theorem answer_after (review : Review world) (decided : Bool) {query : Query}
    (other : query ≠ .sketch) :
    ((after review decided).ask query).1 = ((start review).ask query).1 := by
  rw [start_eq]
  cases query with
  | sketch => exact absurd rfl other
  | listing | isValid | verdict | coloured | report _ => simp only [ask, judged_after, review_after]
  | summary | facts | recognized | plan | worldName => rfl

theorem sketch_after (review : Review world) (decided : Bool) :
    ((after review decided).ask .sketch).1 = .text (review.sketch decided) := by
  have kept : (after review decided).kept?.isSome = decided := by cases decided <;> rfl
  rw [ask, kept]
  rfl

theorem sketch_eq (review : Review world) : ∃ front, ∀ decided,
    review.sketch decided = front ++ ", validated: " ++ toString decided ++ " \x7d" := by
  refine ⟨s!"Validator \x7b domain: \"{world.name}\", facts_len: {review.facts.length}, "
    ++ s!"recognized_len: {review.recognized.size}", fun decided => ?_⟩
  unfold Review.sketch
  generalize toString decided = shown
  simp only [String.append_assoc]
  rfl

theorem opening_message (review : Review world) : ∀ event ∈ review.openingEvents,
    event.message ≠ "domain verify finished" ∧ event.message ≠ "validation verdict cached" := by
  intro event member
  have late : "holds past the terminal snapshot" ≠ "domain verify finished" ∧
      "holds past the terminal snapshot" ≠ "validation verdict cached" := by decide
  have built : "plan built" ≠ "domain verify finished" ∧
      "plan built" ≠ "validation verdict cached" := by decide
  rw [Review.openingEvents] at member
  cases built? : review.built? with
  | none =>
    rw [built?] at member
    cases member
  | some plan =>
    rw [built?] at member
    rcases List.mem_append.mp member with dropped | last
    · obtain ⟨_, _, rfl⟩ := List.mem_map.mp dropped
      exact late
    · cases List.mem_singleton.mp last
      exact built

/-! All questions. -/

theorem askAll_after (review : Review world) (decided : Bool) (queries : List Query) :
    ((after review decided).askAll queries).2 =
      after review (decided || queries.any Query.needsVerdict) := by
  induction queries generalizing decided with
  | nil => simp [askAll]
  | cons query queries ih => simp only [askAll, ask_after, ih, List.any_cons, Bool.or_assoc]

theorem length_answers (session : Session world) (queries : List Query) :
    (session.askAll queries).1.length = queries.length := by
  induction queries generalizing session with
  | nil => rfl
  | cons query queries ih => simp only [askAll, List.length_cons, ih]

/-- Each question meets a session in which the questions before it have been asked. -/
theorem answers_after (review : Review world) (decided : Bool) (queries : List Query) (i : Nat) :
    ((after review decided).askAll queries).1[i]? = queries[i]?.map fun query =>
      ((after review (decided || (queries.take i).any Query.needsVerdict)).ask query).1 := by
  induction queries generalizing decided i with
  | nil => rfl
  | cons query queries ih =>
    cases i with
    | zero => simp [askAll]
    | succ i =>
      simp only [askAll, ask_after, List.getElem?_cons_succ, ih, List.take_succ_cons,
        List.any_cons, Bool.or_assoc]

/-- A session is told by its questions alone: each answer is that of a session with no other
question, a sketch aside, and the two events of a verdict come once, one after the other, if a
question needed it. -/
theorem askAll_transcript (review : Review world) (queries : List Query) :
    Transcript review queries ((start review).askAll queries).1
      ((start review).askAll queries).2.events := by
  have answers := answers_after review false queries
  rw [← start_eq] at answers
  constructor
  case length => exact length_answers _ queries
  case alone =>
    intro i query asked other
    rw [answers, asked, Option.map_some, answer_after review _ other]
  case sketch =>
    obtain ⟨front, text⟩ := sketch_eq review
    refine ⟨front, fun i asked => ?_⟩
    rw [answers, asked, Option.map_some, sketch_after, Bool.false_or, text]
  case events =>
    rw [start_eq, askAll_after, Bool.false_or, after]
    simp only [List.any_eq_true, Review.verdictEvents]
  case opening => exact opening_message review

end Session

end PlanReferee
