import PlanReferee.Json.Forms
import PlanReferee.Proofs.Json.Records

/-! The JSON forms of the library's types can all be read back. -/

namespace PlanReferee

open Json
open Json.Codec

/-! Names. -/

theorem Severity.codec_faithful : Severity.codec.Faithful :=
  faithful_choice fun severity => by cases severity <;> rfl

theorem Puzzle.codec_faithful : Puzzle.codec.Faithful :=
  faithful_choice fun puzzle => by cases puzzle <;> rfl

theorem SolverStatus.codec_faithful : SolverStatus.codec.Faithful :=
  faithful_choice fun status => by cases status <;> rfl

theorem TrialKind.codec_faithful : TrialKind.codec.Faithful :=
  faithful_choice fun kind => by cases kind <;> rfl

/-! Records. -/

theorem Agent.codec_faithful : Agent.codec.Faithful := faithful_text.along fun _ => rfl

theorem Action.codec_faithful : Action.codec.Faithful := by
  refine faithful_record ⟨?_, by decide, by decide⟩ fun _ => rfl
  exact .required faithful_text <| .required faithful_text Fields.faithful_done

theorem Fact.codec_faithful : Fact.codec.Faithful := by
  refine faithful_record ⟨?_, by decide, by decide⟩ fun _ => rfl
  exact .required faithful_text <| .required faithful_text <| .required faithful_text
    Fields.faithful_done

theorem Diagnostic.codec_faithful : Diagnostic.codec.Faithful := by
  refine faithful_record ⟨?_, by decide, by decide⟩ fun _ => rfl
  exact .required Severity.codec_faithful <| .required faithful_text Fields.faithful_done

theorem Verdict.codec_faithful : Verdict.codec.Faithful := by
  refine faithful_record ⟨?_, by decide, by decide⟩ fun _ => rfl
  exact .required faithful_bool <| .required Diagnostic.codec_faithful.list <|
    .required faithful_text.set Fields.faithful_done

theorem Report.codec_faithful : Report.codec.Faithful := by
  refine faithful_record ⟨?_, by decide, by decide⟩ fun _ => rfl
  exact .required faithful_text <| .required faithful_bool <|
    .required Diagnostic.codec_faithful.list Fields.faithful_done

theorem Agent.keyCodec_faithful : Agent.keyCodec.Faithful :=
  KeyCodec.faithful_text.along fun _ => rfl

theorem Step.codec_faithful : Step.codec.Faithful :=
  .map Agent.keyCodec_faithful Action.codec_faithful.set

theorem Plan.codec_faithful : Plan.codec.Faithful := by
  refine faithful_record ⟨?_, by decide, by decide⟩ fun _ => rfl
  exact .required Agent.codec_faithful.set <|
    .required faithful_bool <|
    .required faithful_uint32.set <|
    .required (.map KeyCodec.faithful_uint32 Step.codec_faithful) <|
    .required (.map KeyCodec.faithful_uint32 faithful_text.set) <|
    .required faithful_text.set <|
    .required faithful_text.set <|
    .required faithful_text.set <|
    .required faithful_text.list <|
    .required faithful_text.list Fields.faithful_done

theorem Request.codec_faithful : Request.codec.Faithful := by
  refine faithful_record ⟨?_, by decide, by decide⟩ fun _ => rfl
  exact .required faithful_text <|
    .required faithful_text <|
    .required faithful_uint32 <|
    .required (.map KeyCodec.faithful_text faithful_text) <|
    .required faithful_bool Fields.faithful_done

theorem Outcome.codec_faithful : Outcome.codec.Faithful := by
  refine faithful_record ⟨?_, by decide, by decide⟩ fun _ => rfl
  exact .required SolverStatus.codec_faithful <|
    .required faithful_text.list.list Fields.faithful_done

namespace Settings

theorem fields_sound : fields.Sound := by
  refine ⟨?_, by decide, by decide⟩
  exact .optional faithful_uint64 plain_word <|
    .optional faithful_uint32 plain_word <|
    .optional faithful_uint64 plain_word <|
    .optional faithful_bool plain_bool <|
    .optional faithful_bool plain_bool Fields.faithful_done

theorem codec_faithful : Settings.codec.Faithful := faithful_record fields_sound fun _ => rfl

end Settings

/-- Decoding gives back what was encoded. -/
def Json.Codec.Undone {α : Type} (codec : Codec α) : Prop :=
  ∀ a, decode codec (encode codec a) = .ok a

/-- Every type with a JSON form can be stored in it. -/
structure Storable : Prop where
  puzzle : Puzzle.codec.Undone
  severity : Severity.codec.Undone
  status : SolverStatus.codec.Undone
  kind : TrialKind.codec.Undone
  diagnostic : Diagnostic.codec.Undone
  verdict : Verdict.codec.Undone
  report : Report.codec.Undone
  fact : Fact.codec.Undone
  action : Action.codec.Undone
  agent : Agent.codec.Undone
  plan : Plan.codec.Undone
  request : Request.codec.Undone
  outcome : Outcome.codec.Undone
  settings : Settings.codec.Undone
  /-- The members of settings may come in any order, and those that are unset may be left out. -/
  spelled : ∀ (s : Settings) listed shuffled, Settings.fields.Spelled s.values listed →
    shuffled.Perm listed → decode Settings.codec (String.ofList (Fields.text shuffled)) = .ok s

theorem forms_storable : Storable := by
  constructor
  case puzzle => exact Puzzle.codec_faithful.decode_encode
  case severity => exact Severity.codec_faithful.decode_encode
  case status => exact SolverStatus.codec_faithful.decode_encode
  case kind => exact TrialKind.codec_faithful.decode_encode
  case diagnostic => exact Diagnostic.codec_faithful.decode_encode
  case verdict => exact Verdict.codec_faithful.decode_encode
  case report => exact Report.codec_faithful.decode_encode
  case fact => exact Fact.codec_faithful.decode_encode
  case action => exact Action.codec_faithful.decode_encode
  case agent => exact Agent.codec_faithful.decode_encode
  case plan => exact Plan.codec_faithful.decode_encode
  case request => exact Request.codec_faithful.decode_encode
  case outcome => exact Outcome.codec_faithful.decode_encode
  case settings => exact Settings.codec_faithful.decode_encode
  case spelled =>
    intro s listed shuffled spelled perm
    exact decode_text Settings.fields_sound spelled perm

def hurriedSettings : Settings := { timeoutMs := some 5, singleAgent := some true }

/-- One member that is unset is written, and two are left out. -/
def hurriedMembers : List (String × List Char) :=
  [("timeout_ms", "5".toList), ("max_workers", "null".toList), ("single_agent", "true".toList)]

theorem forms_storable_hurried :
    Settings.fields.Spelled hurriedSettings.values hurriedMembers ∧
      decode Settings.codec
        "\x7b\"single_agent\":true,\"max_workers\":null,\"timeout_ms\":5\x7d" =
          .ok hurriedSettings := by
  have spelled : Settings.fields.Spelled hurriedSettings.values hurriedMembers :=
    .written (.omitted (.written (.written (.omitted .done))))
  have text : String.ofList (Fields.text hurriedMembers.reverse) =
      "\x7b\"single_agent\":true,\"max_workers\":null,\"timeout_ms\":5\x7d" := by
    decide +kernel
  have read := forms_storable.spelled _ _ _ spelled (List.reverse_perm hurriedMembers)
  exact ⟨spelled, text ▸ read⟩

end PlanReferee
