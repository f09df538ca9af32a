import PlanReferee.Json.Codec
import PlanReferee.Json.Skip

/-! Codecs of records. A record is written as an object, and read from an object with its members in
any order, unknown ones skipped, or from the list of its values. -/

namespace PlanReferee.Json

/-- The members of a record, whose values make up a nested pair. A member with a value for its absence
may be missing. -/
inductive Fields : Type → Type 1
  | done : Fields Unit
  | member {α ρ : Type} (name : String) (codec : Codec α) (absent : Option α) (more : Fields ρ) :
    Fields (α × ρ)

namespace Fields

/-- What is known of a record while it is read. -/
@[reducible]
def Draft {ρ : Type} : Fields ρ → Type
  | .done => Unit
  | .member (α := α) _ _ _ more => Option α × more.Draft

def blank {ρ : Type} : (fields : Fields ρ) → fields.Draft
  | .done => ()
  | .member _ _ _ more => (none, more.blank)

def finish {ρ : Type} : (fields : Fields ρ) → fields.Draft → Except Flaw ρ
  | .done, _ => .ok ()
  | .member _ _ absent more, draft =>
    match draft.1.or absent with
    | none => .error .unfit
    | some value => (more.finish draft.2).map fun rest => (value, rest)

/-- Reads what follows a key, if it is a member's name. A member comes once. -/
def readNamed? {ρ : Type} (key : List Char) :
    (fields : Fields ρ) → fields.Draft → Option (Reader fields.Draft)
  | .done, _ => none
  | .member name codec _ more, draft =>
    if name.toList = key then
      some fun cs =>
        if draft.1.isSome then .error .unfit
        else (colon cs).bind fun rest =>
          (codec.read rest).map fun (value, rest) => ((some value, draft.2), rest)
    else (more.readNamed? key draft.2).map fun read cs =>
      (read cs).map fun (others, rest) => ((draft.1, others), rest)

/-- Reads one member of an object, from after the quote that begins its key. -/
def readMember {ρ : Type} (fields : Fields ρ) (draft : fields.Draft) : Reader fields.Draft :=
  fun cs =>
    match chars cs with
    | .error flaw => .error flaw
    | .ok (key, rest) =>
      match fields.readNamed? key draft with
      | some read => read rest
      | none => ((colon rest).bind skip).map fun rest => (draft, rest)

/-- Reads the values in their order, from after the bracket. The flag is set at the first value. -/
def readInOrder {ρ : Type} : (fields : Fields ρ) → Bool → Reader ρ
  | .done, _, cs =>
    match skipGap cs with
    | [] => .error .ended
    | ']' :: rest => .ok ((), rest)
    | _ => .error .malformed
  | .member _ codec absent more, first, cs =>
    let read (cs : List Char) : Except Flaw (_ × List Char) :=
      match codec.read cs with
      | .error flaw => .error flaw
      | .ok (value, rest) =>
        (more.readInOrder false rest).map fun (values, rest) => ((value, values), rest)
    match skipGap cs with
    | [] => .error .ended
    | ']' :: rest =>
      match absent with
      | none => .error .unfit
      | some value =>
        (more.readInOrder first (']' :: rest)).map fun (values, rest) => ((value, values), rest)
    | c :: rest =>
      if first then read (c :: rest)
      else if c = ',' then
        match skipGap rest with
        | [] => .error .ended
        | ']' :: _ => .error .malformed
        | rest => read rest
      else .error .malformed

def written {ρ : Type} : Fields ρ → ρ → List (List Char)
  | .done, () => []
  | .member name codec _ more, (value, values) =>
    writeMember name.toList (codec.write value) :: more.written values

end Fields

def Codec.record {α ρ : Type} (fields : Fields ρ) (values : α → ρ) (make : ρ → α) : Codec α where
  write a := writeObject (fields.written (values a))
  read cs :=
    match skipGap cs with
    | '[' :: rest => (fields.readInOrder true rest).map fun (read, rest) => (make read, rest)
    | '{' :: rest =>
      match object fields.readMember fields.blank rest with
      | .error flaw => .error flaw
      | .ok (draft, rest) => (fields.finish draft).map fun read => (make read, rest)
    | other => .error (mismatch other)

/-- A member that has to be there. -/
def Fields.required {α ρ : Type} (name : String) (codec : Codec α) (more : Fields ρ) :
    Fields (α × ρ) :=
  .member name codec none more

/-- A member that may be missing, or `null`. -/
def Fields.optional {α ρ : Type} (name : String) (codec : Codec α) (more : Fields ρ) :
    Fields (Option α × ρ) :=
  .member name codec.option (some none) more

end PlanReferee.Json
