import PlanReferee.Json.Record
import PlanReferee.Proofs.Json.Codecs

/-! Records are read back from their members in any order. A member whose value is the one for its
absence may be left out. -/

namespace PlanReferee.Json

namespace Fields

/-! The members of a record. -/

def names {ρ : Type} : Fields ρ → List String
  | .done => []
  | .member name _ _ more => name :: more.names

def Faithful {ρ : Type} : Fields ρ → Prop
  | .done => True
  | .member _ codec _ more => codec.Faithful ∧ more.Faithful

theorem faithful_done : Fields.done.Faithful := trivial

theorem Faithful.required {α ρ : Type} {name : String} {codec : Codec α} {more : Fields ρ}
    (own : codec.Faithful) (others : more.Faithful) :
    (Fields.required name codec more).Faithful :=
  ⟨own, others⟩

theorem Faithful.optional {α ρ : Type} {name : String} {codec : Codec α} {more : Fields ρ}
    (own : codec.Faithful) (plain : ∀ a text, codec.write a ≠ 'n' :: text)
    (others : more.Faithful) : (Fields.optional name codec more).Faithful :=
  ⟨own.option plain, others⟩

/-- Each name with the text of its value. -/
def entries {ρ : Type} : Fields ρ → ρ → List (String × List Char)
  | .done, () => []
  | .member name codec _ more, (value, values) => (name, codec.write value) :: more.entries values

/-- Ways to write a record in the order of its members. -/
inductive Spelled : {ρ : Type} → Fields ρ → ρ → List (String × List Char) → Prop
  | done : Spelled .done () []
  | written {α ρ : Type} {name : String} {codec : Codec α} {absent : Option α} {more : Fields ρ}
    {value : α} {values : ρ} {listed : List (String × List Char)}
    (others : Spelled more values listed) :
    Spelled (.member name codec absent more) (value, values) ((name, codec.write value) :: listed)
  | omitted {α ρ : Type} {name : String} {codec : Codec α} {more : Fields ρ}
    {value : α} {values : ρ} {listed : List (String × List Char)}
    (others : Spelled more values listed) :
    Spelled (.member name codec (some value) more) (value, values) listed

/-- The codecs of the members are faithful, and the names need no escapes and tell them apart. -/
structure Sound {ρ : Type} (fields : Fields ρ) : Prop where
  faithful : fields.Faithful
  distinct : fields.names.Nodup
  plain : ∀ name ∈ fields.names, name.toList.flatMap writeChar = name.toList

/-- What is known of a record when the members of these names have been read. -/
def filled {ρ : Type} : (fields : Fields ρ) → ρ → List String → fields.Draft
  | .done, _, _ => ()
  | .member name _ _ more, (value, values), seen =>
    (if name ∈ seen then some value else none, more.filled values seen)

variable {ρ : Type} {fields : Fields ρ}

theorem names_entries (fields : Fields ρ) (values : ρ) :
    (fields.entries values).map (·.1) = fields.names := by
  induction fields with
  | done => rfl
  | member name codec absent more ih => exact congrArg (name :: ·) (ih values.2)

theorem mem_names {values : ρ} {name : String} {text : List Char}
    (listed : (name, text) ∈ fields.entries values) : name ∈ fields.names := by
  rw [← names_entries fields values]
  exact List.mem_map_of_mem listed

theorem blank_eq (fields : Fields ρ) (values : ρ) : fields.blank = fields.filled values [] := by
  induction fields with
  | done => rfl
  | member name codec absent more ih =>
    obtain ⟨value, values⟩ := values
    rw [blank, filled, if_neg List.not_mem_nil, ih values]

/-- Names of no member do not count. -/
theorem filled_congr (values : ρ) {seen other : List String}
    (same : ∀ name ∈ fields.names, name ∈ seen ↔ name ∈ other) :
    fields.filled values seen = fields.filled values other := by
  induction fields with
  | done => rfl
  | member name codec absent more ih =>
    obtain ⟨value, values⟩ := values
    obtain ⟨first, others⟩ := List.forall_mem_cons.mp same
    rw [filled, filled, ih values others]
    simp only [first]

/-! Reading one member. -/

theorem readNamed?_filled (faithful : fields.Faithful) (distinct : fields.names.Nodup) (values : ρ)
    {seen : List String} {name : String} {text : List Char}
    (listed : (name, text) ∈ fields.entries values) (unseen : name ∉ seen) :
    ∃ read, fields.readNamed? name.toList (fields.filled values seen) = some read ∧
      ∀ rest, EndsValue rest →
        read (':' :: text ++ rest) = .ok (fields.filled values (name :: seen), rest) := by
  induction fields with
  | done => cases listed
  | member name' codec absent more ih =>
    obtain ⟨value, values⟩ := values
    obtain ⟨own, others⟩ := faithful
    obtain ⟨apart, distinct⟩ := List.nodup_cons.mp distinct
    rcases List.mem_cons.mp listed with same | listed
    · cases same
      refine ⟨_, by rw [readNamed?, if_pos rfl], fun rest ends => ?_⟩
      have elsewhere : more.filled values seen = more.filled values (name :: seen) := by
        refine filled_congr values fun other member => ?_
        rw [List.mem_cons, or_iff_right]
        rintro rfl
        exact apart member
      simp only [filled, unseen, if_false, Option.isSome_none, Bool.false_eq_true, if_true,
        List.cons_append, colon_value, Except.bind, own.reads value rest ends, Except.map,
        List.mem_cons_self, elsewhere]
    · have other : name' ≠ name := fun same => apart (same ▸ mem_names listed)
      have key : name'.toList ≠ name.toList := fun same => other (String.toList_inj.mp same)
      obtain ⟨read, found, reads⟩ := ih others distinct values listed
      refine ⟨_, by rw [readNamed?, if_neg key, filled, found, Option.map_some], ?_⟩
      intro rest ends
      simp only [reads rest ends, Except.map, filled, List.mem_cons, other, false_or]

/-- The text of a member, without the quote that begins it. -/
def memberText (entry : String × List Char) : List Char :=
  entry.1.toList ++ '"' :: ':' :: entry.2

theorem readMember_filled (sound : fields.Sound) (values : ρ) {seen : List String}
    {entry : String × List Char} (listed : entry ∈ fields.entries values)
    (unseen : entry.1 ∉ seen) {rest : List Char} (ends : EndsValue rest) :
    fields.readMember (fields.filled values seen) (memberText entry ++ rest) =
      .ok (fields.filled values (entry.1 :: seen), rest) := by
  obtain ⟨name, text⟩ := entry
  obtain ⟨read, found, reads⟩ :=
    readNamed?_filled sound.faithful sound.distinct values listed unseen
  have key := chars_write name.toList (':' :: text ++ rest)
  rw [sound.plain name (mem_names listed)] at key
  have whole : memberText (name, text) ++ rest = name.toList ++ '"' :: (':' :: text ++ rest) := by
    simp [memberText]
  rw [readMember, whole, key]
  simp only [found, reads rest ends]

/-! Reading all members. -/

/-- With each member one name more is seen, so that none is refused for coming twice. -/
theorem takes_members (sound : fields.Sound) (values : ρ) (listed : List (String × List Char))
    (seen : List String) (known : ∀ entry ∈ listed, entry ∈ fields.entries values)
    (distinct : (listed.map (·.1)).Nodup) (unseen : ∀ name ∈ listed.map (·.1), name ∉ seen) :
    Takes fields.readMember (fields.filled values seen) (listed.map memberText)
      (fields.filled values (listed.map (·.1) ++ seen)) := by
  induction listed generalizing seen with
  | nil => exact .nil _
  | cons entry listed ih =>
    obtain ⟨here, later⟩ := List.forall_mem_cons.mp known
    obtain ⟨apart, distinct⟩ : entry.1 ∉ listed.map (·.1) ∧ (listed.map (·.1)).Nodup :=
      List.nodup_cons.mp distinct
    obtain ⟨new, news⟩ := List.forall_mem_cons.mp unseen
    have next := ih (entry.1 :: seen) later distinct fun name member =>
      List.not_mem_cons_of_ne_of_not_mem (fun same => apart (same ▸ member)) (news name member)
    have same : fields.filled values (listed.map (·.1) ++ entry.1 :: seen) =
        fields.filled values ((entry :: listed).map (·.1) ++ seen) := by
      refine filled_congr values fun name _ => ?_
      simp only [List.mem_append, List.map_cons, List.mem_cons, or_left_comm, or_assoc]
    rw [same] at next
    exact .cons (fun rest ends => readMember_filled sound values here new ends) next

theorem Spelled.sublist {values : ρ} {listed : List (String × List Char)}
    (spelled : fields.Spelled values listed) : listed.Sublist (fields.entries values) := by
  induction spelled with
  | done => exact .slnil
  | written _ ih => exact ih.cons_cons _
  | omitted _ ih => exact ih.cons _

theorem Spelled.finish {values : ρ} {listed : List (String × List Char)}
    (spelled : fields.Spelled values listed) {seen : List String}
    (read : ∀ name ∈ listed.map (·.1), name ∈ seen) :
    fields.finish (fields.filled values seen) = .ok values := by
  induction spelled with
  | done => rfl
  | written _ ih =>
    obtain ⟨here, later⟩ := List.forall_mem_cons.mp read
    simp only [filled, Fields.finish, here, if_true, Option.some_or, ih later, Except.map]
  | @omitted _ _ name _ _ value _ _ _ ih =>
    -- The value is the same whether it was read or not.
    have known : (if name ∈ seen then some value else none).or (some value) = some value := by
      split <;> rfl
    simp only [filled, Fields.finish, known, ih read, Except.map]

theorem spelled_entries (fields : Fields ρ) (values : ρ) :
    fields.Spelled values (fields.entries values) := by
  induction fields with
  | done => exact .done
  | member name codec absent more ih => exact .written (ih values.2)

/-- A record as it may be written: its members in any order, some of them left out. -/
def text (listed : List (String × List Char)) : List Char :=
  writeObject (listed.map fun entry => writeMember entry.1.toList entry.2)

theorem written_eq (fields : Fields ρ) (values : ρ) : fields.written values =
    (fields.entries values).map fun entry => writeMember entry.1.toList entry.2 := by
  induction fields with
  | done => rfl
  | member name codec absent more ih => exact congrArg (_ :: ·) (ih values.2)

theorem object_text (sound : fields.Sound) {values : ρ}
    {listed shuffled : List (String × List Char)} (spelled : fields.Spelled values listed)
    (perm : shuffled.Perm listed) (rest : List Char) :
    ∃ draft, object fields.readMember fields.blank
        (commas (shuffled.map fun entry => writeMember entry.1.toList entry.2) ++ '}' :: rest) =
          .ok (draft, rest) ∧ fields.finish draft = .ok values := by
  have distinct : (shuffled.map (·.1)).Nodup := by
    refine (perm.map _).nodup_iff.mpr ((spelled.sublist.map _).nodup ?_)
    rw [names_entries]
    exact sound.distinct
  have takes := takes_members sound values shuffled []
    (fun entry member => spelled.sublist.subset (perm.subset member)) distinct
    fun _ _ => List.not_mem_nil
  have texts : shuffled.map (fun entry => writeMember entry.1.toList entry.2) =
      (shuffled.map memberText).map ('"' :: ·) := by
    rw [List.map_map]
    rfl
  rw [← blank_eq] at takes
  refine ⟨_, texts ▸ object_write takes rest, spelled.finish fun name member => ?_⟩
  rw [List.append_nil]
  exact (perm.map _).symm.subset member

end Fields

variable {α ρ : Type} {fields : Fields ρ} {view : α → ρ} {make : ρ → α}

theorem Codec.read_text (view : α → ρ) (make : ρ → α) (sound : fields.Sound) {values : ρ}
    {listed shuffled : List (String × List Char)} (spelled : fields.Spelled values listed)
    (perm : shuffled.Perm listed) (rest : List Char) :
    (Codec.record fields view make).read (Fields.text shuffled ++ rest) =
      .ok (make values, rest) := by
  obtain ⟨draft, read, finished⟩ := Fields.object_text sound spelled perm rest
  simp only [Codec.record, Fields.text, writeObject_append, skipGap_cons (c := '{') rfl, read,
    finished, Except.map]

theorem Codec.decode_text (sound : fields.Sound) {values : ρ}
    {listed shuffled : List (String × List Char)} (spelled : fields.Spelled values listed)
    (perm : shuffled.Perm listed) :
    decode (Codec.record fields view make) (String.ofList (Fields.text shuffled)) =
      .ok (make values) := by
  have read := Codec.read_text view make sound spelled perm []
  rw [List.append_nil] at read
  exact decode_of_read read

theorem Codec.faithful_record (sound : fields.Sound) (inverse : ∀ a, make (view a) = a) :
    (Codec.record fields view make).Faithful := by
  constructor
  case begins => exact fun a => ⟨'{', _, rfl, rfl, by decide⟩
  case reads =>
    intro a rest _
    have read := Codec.read_text view make sound
      (fields.spelled_entries (view a)) (.refl _) rest
    rw [Fields.text, ← Fields.written_eq, inverse] at read
    exact read

/-! Refusals. -/

/-- A member with this text after its colon is refused, if it comes first. -/
def Fields.Refuses (fields : Fields ρ) (name : String) (text : List Char) (flaw : Flaw) : Prop :=
  ∃ read, fields.readNamed? name.toList fields.blank = some read ∧
    read (':' :: text) = .error flaw

theorem Fields.refuses_here {β σ : Type} {name : String} {codec : Codec β} {absent : Option β}
    {more : Fields σ} {text : List Char} {flaw : Flaw} (refused : codec.read text = .error flaw) :
    (Fields.member name codec absent more).Refuses name text flaw := by
  refine ⟨_, by rw [readNamed?, if_pos rfl], ?_⟩
  simp only [blank, Option.isSome_none, Bool.false_eq_true, if_false, colon_value, Except.bind,
    refused, Except.map]

theorem Fields.refuses_later {β σ : Type} {name other : String} {codec : Codec β}
    {absent : Option β} {more : Fields σ} {text : List Char} {flaw : Flaw}
    (apart : other.toList ≠ name.toList) (later : more.Refuses name text flaw) :
    (Fields.member other codec absent more).Refuses name text flaw := by
  obtain ⟨read, found, refused⟩ := later
  refine ⟨_, by rw [readNamed?, if_neg apart, blank, found, Option.map_some], ?_⟩
  simp only [refused, Except.map]

/-- A record is refused with its first member. -/
theorem Codec.decode_refused {name : String} {text : List Char} {flaw : Flaw}
    (plain : name.toList.flatMap writeChar = name.toList)
    (refuses : fields.Refuses name (text ++ ['}']) flaw) :
    decode (Codec.record fields view make) (String.ofList (Fields.text [(name, text)])) =
      .error flaw := by
  obtain ⟨read, found, refused⟩ := refuses
  have key := chars_write name.toList (':' :: (text ++ ['}']))
  rw [plain] at key
  have whole : Fields.text [(name, text)] =
      '{' :: '"' :: (name.toList ++ '"' :: ':' :: (text ++ ['}'])) := by
    simp [Fields.text, writeObject, writeMember, commas]
  have member : fields.readMember fields.blank
      (name.toList ++ '"' :: ':' :: (text ++ ['}'])) = .error flaw := by
    simp only [Fields.readMember, key, found, refused]
  simp only [decode, String.toList_ofList, Codec.record, whole, skipGap_cons (c := '{') rfl, object,
    skipGap_cons (c := '"') rfl, members, member]

end PlanReferee.Json
