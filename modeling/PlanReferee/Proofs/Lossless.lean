import PlanReferee.Plan.Action
import PlanReferee.Proofs.Grammar

/-! What is lost in reading. An argument text and a fact can be put together again from their parts,
in one way only. An action is read again from what is shown of it, except where its parentheses are
empty and its name is no word. -/

namespace PlanReferee

open Text

/-! Argument texts. -/

/-- The values of an argument text, one for each slot. With commas between them they make up the
text, and none but the last holds a comma of its own. -/
structure Fills (slots : List Slot) (args : List Char) (values : List (List Char)) : Prop where
  length_eq : values.length = slots.length
  joined : [','].intercalate values = args
  free : ∀ value ∈ values.dropLast, ',' ∉ value
  accepted : ∀ place ∈ slots.zip values, place.1.accepts place.2 = true

theorem fills_singleton (slot : Slot) (args : List Char) (values : List (List Char)) :
    Fills [slot] args values ↔ slot.accepts args = true ∧ values = [args] := by
  constructor
  · intro fills
    obtain ⟨value, rfl⟩ := List.length_eq_one_iff.mp fills.length_eq
    have joined : value = args := List.intercalate_singleton.symm.trans fills.joined
    subst joined
    exact ⟨fills.accepted (slot, value) (by simp), rfl⟩
  · rintro ⟨accepted, rfl⟩
    constructor
    case length_eq => rfl
    case joined => exact List.intercalate_singleton
    case free => simp
    case accepted => simpa using accepted

theorem fills_cons (slot next : Slot) (slots : List Slot) (args : List Char)
    (values : List (List Char)) :
    Fills (slot :: next :: slots) args values ↔
      ∃ value rest more, args = value ++ ',' :: rest ∧ ',' ∉ value ∧ slot.accepts value = true ∧
        Fills (next :: slots) rest more ∧ values = value :: more := by
  constructor
  · intro fills
    cases values with
    | nil => cases fills.length_eq
    | cons value more =>
      have length_eq : more.length = (next :: slots).length := Nat.succ.inj fills.length_eq
      have filled : more ≠ [] := List.ne_nil_of_length_eq_add_one length_eq
      have joined := fills.joined
      have free := fills.free
      have accepted := fills.accepted
      rw [List.intercalate_cons_of_ne_nil filled] at joined
      rw [List.dropLast_cons_of_ne_nil filled, List.forall_mem_cons] at free
      rw [List.zip_cons_cons, List.forall_mem_cons] at accepted
      exact ⟨value, _, more, by simp [← joined], free.1, accepted.1,
        ⟨length_eq, rfl, free.2, accepted.2⟩, rfl⟩
  · rintro ⟨value, rest, more, rfl, free, accepted, fills, rfl⟩
    have filled : more ≠ [] := List.ne_nil_of_length_eq_add_one fills.length_eq
    constructor
    case length_eq => exact congrArg Nat.succ fills.length_eq
    case joined => simp [List.intercalate_cons_of_ne_nil filled, fills.joined]
    case free =>
      rw [List.dropLast_cons_of_ne_nil filled, List.forall_mem_cons]
      exact ⟨free, fills.free⟩
    case accepted =>
      rw [List.zip_cons_cons, List.forall_mem_cons]
      exact ⟨accepted, fills.accepted⟩

theorem splitArgs?_eq_some_iff_fills {slots : List Slot} (filled : slots ≠ []) (args : List Char)
    (values : List (List Char)) : splitArgs? slots args = some values ↔ Fills slots args values := by
  induction slots generalizing args values with
  | nil => exact absurd rfl filled
  | cons slot slots ih =>
    cases slots with
    | nil => rw [splitArgs?_singleton, fills_singleton]
    | cons next slots =>
      simp only [splitArgs?_cons, fills_cons, ih (List.cons_ne_nil next slots)]

/-- An argument text is split into just the values that fill the slots and make it up, and there is
one such list of values at most. -/
theorem arguments_lossless (slots : List Slot) (filled : slots ≠ []) (args : List Char) :
    (∀ values, splitArgs? slots args = some values ↔ Fills slots args values) ∧
    ∀ values other, Fills slots args values → Fills slots args other → values = other := by
  have split := splitArgs?_eq_some_iff_fills filled args
  refine ⟨split, fun values other fills fills' => ?_⟩
  exact Option.some.inj (((split values).mpr fills).symm.trans ((split other).mpr fills'))

/-- The commas of an action stay with the last slot. -/
theorem arguments_lossless_action : [Slot.digits, .any] ≠ [] ∧
    splitArgs? [.digits, .any] "0,move(a,b)".toList = some ["0".toList, "move(a,b)".toList] ∧
    Fills [.digits, .any] "0,move(a,b)".toList ["0".toList, "move(a,b)".toList] := by
  have filled : [Slot.digits, .any] ≠ [] := by decide
  have split : splitArgs? [.digits, .any] "0,move(a,b)".toList =
      some ["0".toList, "move(a,b)".toList] := by decide
  exact ⟨filled, split, ((arguments_lossless _ filled _).1 _).mp split⟩

/-! Facts. -/

theorem HasShape.unique {text name args name' args' : String} (h : HasShape text name args)
    (h' : HasShape text name' args') : name = name' ∧ args = args' := by
  rw [← shape?_toList] at h h'
  have same := Prod.mk.inj (Option.some.inj (h.symm.trans h'))
  exact ⟨String.toList_inj.mp same.1, String.toList_inj.mp same.2⟩

theorem Fact.read_eq_ok_iff (raw : String) (fact : Fact) :
    Fact.read raw = .ok fact ↔ fact.raw = raw ∧ HasShape raw fact.name fact.args := by
  rw [← read?_eq_some_iff_hasShape, Fact.read]
  cases Fact.read? raw <;> simp

/-- A text is split into a name and arguments just where it is made up of them, in one way at most,
and the text of a fact is what its name and its arguments make up. -/
theorem shape_lossless :
    (∀ text name args : String,
      shape? text.toList = some (name.toList, args.toList) ↔ HasShape text name args) ∧
    (∀ text name args name' args' : String, HasShape text name args →
      HasShape text name' args' → name = name' ∧ args = args') ∧
    ∀ raw fact, Fact.read raw = .ok fact →
      fact.raw = raw ∧ fact.raw = fact.name ++ "(" ++ fact.args ++ ")" := by
  refine ⟨shape?_toList, fun _ _ _ _ _ => HasShape.unique, ?_⟩
  intro raw fact read
  obtain ⟨rfl, shape⟩ := (Fact.read_eq_ok_iff raw fact).mp read
  exact ⟨rfl, shape.1⟩

/-! Actions. -/

namespace Action

theorem read_of_shape {raw name args : String} (shape : HasShape raw name args) :
    read raw = ⟨name, args⟩ := by
  rw [read, (shape?_toList raw name args).mpr shape]
  simp only [String.ofList_toList]

theorem read_of_shapeless {raw : String} (shapeless : ∀ name args, ¬ HasShape raw name args) :
    read raw = if Slot.word.accepts raw.toList then ⟨raw, ""⟩ else unknown := by
  cases h : shape? raw.toList with
  | some parts =>
    obtain ⟨name, args⟩ := parts
    refine absurd ?_ (shapeless (String.ofList name) (String.ofList args))
    rw [← shape?_toList, h, String.toList_ofList, String.toList_ofList]
  | none => rw [read, h]

theorem text_bare (name : String) : text ⟨name, ""⟩ = name := if_pos rfl

theorem text_of_shape {raw name args : String} (shape : HasShape raw name args)
    (filled : args ≠ "") : text ⟨name, args⟩ = raw := by
  have shown : text ⟨name, args⟩ = name ++ "(" ++ args ++ ")" := by
    simp [text, filled, toString]
  exact shown.trans shape.1.symm

/-- Without a parenthesis a text is a bare word or no action. -/
theorem read_bare {raw : String} (plain : '(' ∉ raw.toList) :
    read raw = if Slot.word.accepts raw.toList then ⟨raw, ""⟩ else unknown := by
  apply read_of_shapeless
  intro name args shape
  apply plain
  rw [shape.1]
  simp

/-! An action that is shown and read again. -/

theorem reread_filled {raw name args : String} (shape : HasShape raw name args)
    (filled : args ≠ "") : read (read raw).text = read raw := by
  rw [read_of_shape shape, text_of_shape shape filled, read_of_shape shape]

theorem reread_empty {raw name : String} (shape : HasShape raw name "") :
    read (read raw).text = if Slot.word.accepts name.toList then read raw else unknown := by
  rw [read_of_shape shape, text_bare, read_bare (shape.not_mem_name (by decide +kernel))]

theorem reread_shapeless {raw : String} (shapeless : ∀ name args, ¬ HasShape raw name args) :
    read (read raw).text = read raw := by
  have action := read_of_shapeless shapeless
  by_cases word : Slot.word.accepts raw.toList = true
  · rw [if_pos word] at action
    rw [action, text_bare, action]
  · rw [if_neg word] at action
    rw [action]
    decide +kernel

theorem read_ne_unknown {raw name args : String} (shape : HasShape raw name args) :
    read raw ≠ unknown := by
  rw [read_of_shape shape]
  rintro ⟨rfl⟩
  exact shape.not_mem_name (c := '(') (by decide +kernel) (by decide)

/-- A text with empty parentheses after a name that is no word. What is shown of its action is the
name alone. -/
def LosesName (raw : String) : Prop :=
  ∃ name, HasShape raw name "" ∧ ∃ c ∈ name.toList, isWordChar c = false

theorem losesName_iff {raw name : String} (shape : HasShape raw name "") :
    LosesName raw ↔ Slot.word.accepts name.toList = false := by
  have filled : name.toList ≠ [] := by
    rw [ne_eq, String.toList_eq_nil_iff]
    exact shape.2.1
  have letters : Slot.word.accepts name.toList = false ↔
      ∃ c ∈ name.toList, isWordChar c = false := by
    rw [← Bool.not_eq_true, accepts_word_iff]
    simp [filled]
  rw [letters]
  constructor
  · rintro ⟨name', shape', h⟩
    rwa [(shape'.unique shape).1] at h
  · intro h
    exact ⟨name, shape, h⟩

/-- What is read again of an action is the same action, unless it loses its name. -/
theorem reread_eq (raw : String) :
    LosesName raw ∧ read (read raw).text = unknown ∧ read raw ≠ unknown ∨
      ¬ LosesName raw ∧ read (read raw).text = read raw := by
  by_cases shaped : ∃ name args, HasShape raw name args
  · obtain ⟨name, args, shape⟩ := shaped
    by_cases empty : args = ""
    · subst empty
      rw [losesName_iff shape, reread_empty shape]
      cases Slot.word.accepts name.toList with
      | false => exact .inl ⟨rfl, rfl, read_ne_unknown shape⟩
      | true => exact .inr ⟨Bool.noConfusion, rfl⟩
    · refine .inr ⟨?_, reread_filled shape empty⟩
      rintro ⟨name', shape', _⟩
      exact empty (shape.unique shape').2
  · have shapeless : ∀ name args, ¬ HasShape raw name args :=
      fun name args shape => shaped ⟨name, args, shape⟩
    exact .inr ⟨fun ⟨name, shape, _⟩ => shapeless name "" shape, reread_shapeless shapeless⟩

theorem covers_eq_false {table : RangeTable} {bound : Nat}
    (above : ∀ range ∈ table, bound ≤ range.1) {c : Char} (below : c.toNat < bound) :
    table.covers c = false := by
  rw [RangeTable.covers, List.any_eq_false]
  intro range member inside
  have low := above range member
  simp only [Bool.and_eq_true, decide_eq_true_eq] at inside
  omega

/-- The marks, joiners and all connectors but the underscore lie beyond ASCII. -/
theorem isWordChar_of_ascii {c : Char} (ascii : c.toNat < 128) (letter : isNameChar c = true) :
    isWordChar c = true := by
  have mark : marks.covers c = false := covers_eq_false (by decide +kernel) ascii
  have joiner : joinControls.covers c = false := covers_eq_false (by decide +kernel) ascii
  have connector : connectors.covers c = true → c = '_' := by
    have others : RangeTable.covers (connectors.drop 1) c = false :=
      covers_eq_false (by decide +kernel) ascii
    have first : connectors.covers c = (decide (0x5F ≤ c.toNat) && decide (c.toNat ≤ 0x5F) ||
      RangeTable.covers (connectors.drop 1) c) := rfl
    intro inside
    rw [first, others, Bool.or_false, Bool.and_eq_true, decide_eq_true_eq, decide_eq_true_eq]
      at inside
    exact Char.toNat_inj.mp (Nat.le_antisymm inside.2 inside.1)
  simp only [isNameChar, mark, joiner, Bool.or_false, Bool.or_eq_true, Bool.and_eq_true] at letter
  rcases letter with plain | ⟨_, (letter | digit) | underscore⟩
  · exact isWordChar_of_isAlphanum plain
  · simp [isWordChar, letter]
  · simp [isWordChar, digit]
  · rw [connector underscore]
    decide +kernel

theorem not_losesName_of_ascii {raw : String} (ascii : ∀ c ∈ raw.toList, c.toNat < 128) :
    ¬ LosesName raw := by
  rintro ⟨name, shape, c, member, other⟩
  have inside : c ∈ raw.toList := by
    rw [shape.1]
    simp [member]
  have word := isWordChar_of_ascii (ascii c inside) (shape.2.2.1 c member)
  rw [other] at word
  cases word

/-- An action that is shown and read again is the same action, but for a name that is no word and
whose parentheses are empty: that one is read as no action. In ASCII there is no such name. -/
theorem reread_iff (raw : String) :
    (read (read raw).text = read raw ↔ ¬ LosesName raw) ∧
    (LosesName raw → read (read raw).text = unknown) ∧
    ((∀ c ∈ raw.toList, c.toNat < 128) → read (read raw).text = read raw) := by
  rcases reread_eq raw with ⟨loses, lost, action⟩ | ⟨keeps, same⟩
  · refine ⟨?_, fun _ => lost, fun ascii => absurd loses (not_losesName_of_ascii ascii)⟩
    rw [lost]
    exact ⟨fun h => absurd h.symm action, fun h => absurd loses h⟩
  · exact ⟨⟨fun _ => keeps, fun _ => same⟩, fun loses => absurd loses keeps, fun _ => same⟩

/-- A combining accent may stand in a name, but not in a word. -/
theorem accent_not_reread : read "e\u0301()" = ⟨"e\u0301", ""⟩ ∧
    (read "e\u0301()").text = "e\u0301" ∧ read "e\u0301" = unknown ∧
    read (read "e\u0301()").text ≠ read "e\u0301()" := by
  decide +kernel

end Action

end PlanReferee
