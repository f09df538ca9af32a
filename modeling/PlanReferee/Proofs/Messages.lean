import PlanReferee.Puzzle
import PlanReferee.Review.Report

/-! Texts that only verdicts and reports use. Nothing that a world finds in a plan reads like them,
whatever names and actions the plan has, and no fault does. -/

namespace PlanReferee

/-- What a verdict says of a solution without errors, and a report of one that was not judged. -/
def reserved : List String := ["No issues found!", "Validation worker did not finish."]

/-- A text that begins differently from the reserved ones is none of them, however it goes on. -/
theorem append_not_reserved {head : String} (tail : String)
    (apart : reserved.all (fun text => !head.toList.isPrefixOf text.toList) = true) :
    head ++ tail ∉ reserved := by
  intro member
  have clear := List.all_eq_true.mp apart _ member
  rw [Bool.not_eq_true', ← Bool.not_eq_true, List.isPrefixOf_iff_prefix] at clear
  exact clear ⟨tail.toList, String.toList_append.symm⟩

theorem Plan.Remark.message_not_reserved (remark : Plan.Remark) :
    remark.diagnostic.message ∉ reserved := by
  cases remark <;> decide +kernel

theorem Blocks.Finding.message_not_reserved (finding : Blocks.Finding) :
    finding.diagnostic.message ∉ reserved := by
  cases finding <;> simp only [diagnostic, Diagnostic.info, Diagnostic.warning, Diagnostic.error,
    String.append_assoc]
  case plan remark => exact remark.message_not_reserved
  all_goals exact append_not_reserved _ (by decide +kernel)

theorem Packages.Finding.message_not_reserved (finding : Packages.Finding) :
    finding.diagnostic.message ∉ reserved := by
  cases finding <;> simp only [diagnostic, Diagnostic.warning, Diagnostic.error,
    String.append_assoc]
  all_goals exact append_not_reserved _ (by decide +kernel)

theorem Statues.Finding.message_not_reserved (finding : Statues.Finding) :
    finding.diagnostic.message ∉ reserved := by
  cases finding <;> simp only [diagnostic, Diagnostic.warning, Diagnostic.error,
    String.append_assoc]
  case unexpected => exact append_not_reserved _ (by decide +kernel)
  case crowded => exact append_not_reserved _ (by decide +kernel)
  case movedOnRed => exact append_not_reserved _ (by decide +kernel)
  case missed => exact append_not_reserved _ (by decide +kernel)
  case overflow => exact append_not_reserved _ (by decide +kernel)
  all_goals decide +kernel

theorem Fault.message_not_reserved (fault : Fault) : fault.message ∉ reserved := by
  cases fault with
  | malformed raw =>
    unfold Fault.message
    simp only [String.append_assoc]
    exact append_not_reserved _ (by decide +kernel)
  | noGoal => decide +kernel
  | unknownAgent agent raw =>
    unfold Fault.message
    simp only [String.append_assoc]
    exact append_not_reserved _ (by decide +kernel)

theorem mem_verify_plan {plan? : Option Plan} {check : Plan → List Diagnostic} {d : Diagnostic}
    (member : d ∈ (plan?.map check).getD []) : ∃ plan, d ∈ check plan := by
  cases plan? with
  | none => cases member
  | some plan => exact ⟨plan, member⟩

theorem Puzzle.findings_not_reserved (puzzle : Puzzle) (state : puzzle.world.State)
    (plan? : Option Plan) : ∀ d ∈ puzzle.world.verify state plan?, d.message ∉ reserved := by
  intro d member
  cases puzzle with
  | blocks =>
    obtain ⟨plan, member⟩ := mem_verify_plan member
    obtain ⟨finding, _, rfl⟩ := List.mem_map.mp member
    exact finding.message_not_reserved
  | dependencyHell =>
    obtain ⟨finding, _, rfl⟩ := List.mem_map.mp member
    exact finding.message_not_reserved
  | statues =>
    obtain ⟨plan, member⟩ := mem_verify_plan member
    obtain ⟨finding, _, rfl⟩ := List.mem_map.mp member
    exact finding.message_not_reserved
  | coffee =>
    obtain ⟨plan, member⟩ := mem_verify_plan member
    obtain ⟨remark, _, rfl⟩ := List.mem_map.mp member
    exact remark.message_not_reserved

end PlanReferee
