import PlanReferee.Proofs.Json.Numbers
import PlanReferee.Proofs.Json.Strings

/-! Codecs that read back what they have written. From the front of a text such a codec takes just
what it wrote, whatever follows, so that what is made of such codecs is one again. -/

namespace PlanReferee.Json

open Std (ExtTreeMap ExtTreeSet)

variable {α β κ : Type}

/-- What may follow a value: the end of the text, or what separates values or closes them in. -/
def EndsValue (rest : List Char) : Prop := ∀ c more, rest = c :: more → c ∈ [',', ']', '}']

structure Codec.Faithful (codec : Codec α) : Prop where
  /-- A value begins with no gap, and with nothing that would end a list before it. -/
  begins : ∀ a, ∃ c more, codec.write a = c :: more ∧ isGap c = false ∧ c ≠ ']'
  reads : ∀ a rest, EndsValue rest → codec.read (codec.write a ++ rest) = .ok (a, rest)

/-- Keys are read up to the quote after them. -/
def KeyCodec.Faithful (codec : KeyCodec κ) : Prop :=
  ∀ k rest, codec.read (codec.write k ++ '"' :: rest) = .ok (k, rest)

/-! What follows. -/

theorem skipGap_cons {c : Char} (solid : isGap c = false) (cs : List Char) :
    skipGap (c :: cs) = c :: cs := by
  rw [skipGap, List.dropWhile_cons_of_neg (by simp [solid])]

theorem EndsValue.number {rest : List Char} (ends : EndsValue rest) : EndsNumber rest := by
  rintro c more rfl
  have closing : c = ',' ∨ c = ']' ∨ c = '}' := by simpa using ends c more rfl
  rcases closing with rfl | rfl | rfl <;> decide

theorem endsValue_nil : EndsValue [] := by
  intro c more same
  cases same

theorem endsValue_cons {c : Char} (closing : c ∈ [',', ']', '}']) (more : List Char) :
    EndsValue (c :: more) := by
  intro d _ same
  cases same
  exact closing

/-- A whole text, with nothing after the value. -/
theorem decode_of_read {codec : Codec α} {text : List Char} {a : α}
    (read : codec.read text = .ok (a, [])) : decode codec (String.ofList text) = .ok a := by
  rw [decode, String.toList_ofList, read]
  rfl

theorem Codec.Faithful.decode_encode {codec : Codec α} (faithful : codec.Faithful) (a : α) :
    decode codec (encode codec a) = .ok a := by
  have read := faithful.reads a [] endsValue_nil
  rw [List.append_nil] at read
  exact decode_of_read read

theorem commas_cons (text : List Char) (texts : List (List Char)) :
    commas (text :: texts) = text ++ texts.flatMap fun text => ',' :: text := by
  induction texts generalizing text with
  | nil => simp [commas, List.intercalate]
  | cons next texts ih =>
    have step : commas (text :: next :: texts) = text ++ ',' :: commas (next :: texts) := by
      simp [commas, List.intercalate]
    rw [step, ih, List.flatMap_cons, List.cons_append]

theorem length_le_separated (texts : List (List Char)) :
    texts.length ≤ (texts.flatMap fun text => ',' :: text).length := by
  induction texts with
  | nil => exact Nat.le_refl 0
  | cons text texts ih =>
    simp only [List.length_cons, List.flatMap_cons, List.length_append]
    omega

/-! Single values. -/

theorem writeChars_append (cs rest : List Char) :
    writeChars cs ++ rest = '"' :: (cs.flatMap writeChar ++ '"' :: rest) := by
  simp [writeChars]

namespace Codec

theorem faithful_text : text.Faithful := by
  constructor
  case begins => exact fun s => ⟨'"', _, rfl, rfl, by decide⟩
  case reads =>
    intro s rest _
    simp only [text, writeChars_append, skipGap_cons (c := '"') rfl, chars_write, Except.map,
      String.ofList_toList]

theorem faithful_bool : bool.Faithful := by
  constructor
  case begins =>
    intro b
    cases b with
    | true => exact ⟨'t', _, rfl, rfl, by decide⟩
    | false => exact ⟨'f', _, rfl, rfl, by decide⟩
  case reads =>
    intro b rest _
    cases b <;> rfl

theorem plain_bool (b : Bool) (text : List Char) : bool.write b ≠ 'n' :: text := by
  cases b <;> exact fun same => absurd (List.cons.inj same).1 (by decide)

theorem solid_of_isDigit {c : Char} (digit : c.isDigit = true) : isGap c = false ∧ c ≠ ']' := by
  constructor
  · refine Bool.eq_false_iff.mpr fun gap => ?_
    simp only [isGap, Bool.or_eq_true, beq_iff_eq, or_assoc] at gap
    rcases gap with rfl | rfl | rfl | rfl <;> exact absurd digit (by decide)
  · rintro rfl
    exact absurd digit (by decide)

theorem toDigits_begins (n : Nat) : ∃ c more,
    Nat.toDigits 10 n = c :: more ∧ c.isDigit = true := by
  obtain ⟨c, more, written⟩ := List.exists_cons_of_ne_nil (Nat.toDigits_ne_nil (b := 10) (n := n))
  exact ⟨c, more, written, isDigit_of_mem_toDigits (written ▸ List.mem_cons_self)⟩

theorem readNatural_write {limit n : Nat} (small : limit ≤ maxWord) (within : n ≤ limit)
    {rest : List Char} (ends : EndsNumber rest) :
    readNatural limit (Nat.toDigits 10 n ++ rest) = .ok (n, rest) := by
  simp only [readNatural, number_toDigits (Nat.le_trans within small) ends, within, if_true]

theorem faithful_word {limit : Nat} {make : Nat → β} {view : β → Nat} (small : limit ≤ maxWord)
    (within : ∀ b, view b ≤ limit) (inverse : ∀ b, make (view b) = b) :
    ((natural limit).along make view).Faithful := by
  constructor
  case begins =>
    intro b
    obtain ⟨c, more, written, digit⟩ := toDigits_begins (view b)
    exact ⟨c, more, written, solid_of_isDigit digit⟩
  case reads =>
    intro b rest ends
    obtain ⟨c, more, written, digit⟩ := toDigits_begins (view b)
    have read := readNatural_write small (within b) ends.number
    have start : isNumberStart c = true := by simp [isNumberStart, digit]
    rw [written, List.cons_append] at read
    simp only [along, natural, written, List.cons_append, skipGap_cons (solid_of_isDigit digit).1,
      start, if_true, read, Except.map, inverse]

/-- A number is no `null`. -/
theorem plain_word {limit : Nat} {make : Nat → β} {view : β → Nat} (b : β) (text : List Char) :
    ((natural limit).along make view).write b ≠ 'n' :: text := by
  intro same
  obtain ⟨c, more, written, digit⟩ := toDigits_begins (view b)
  cases written.symm.trans same
  exact absurd digit (by decide)

theorem faithful_uint32 : uint32.Faithful :=
  faithful_word (by decide) (fun n => Nat.le_sub_one_of_lt n.toNat_lt) fun _ => UInt32.ofNat_toNat

theorem faithful_uint64 : uint64.Faithful :=
  faithful_word (Nat.le_refl _) (fun n => Nat.le_sub_one_of_lt n.toNat_lt) fun _ =>
    UInt64.ofNat_toNat

theorem faithful_choice {all : List α} {name : α → String}
    (found : ∀ a, all.find? (fun b => name b == name a) = some a) :
    (choice all name).Faithful := by
  constructor
  case begins => exact fun a => faithful_text.begins (name a)
  case reads =>
    intro a rest _
    simp only [choice, text, writeChars_append, skipGap_cons (c := '"') rfl, chars_write, bind,
      Except.bind, String.ofList_toList, found]

/-! Values made of others. -/

theorem Faithful.along {codec : Codec α} (faithful : codec.Faithful) {make : α → β} {view : β → α}
    (inverse : ∀ b, make (view b) = b) : (codec.along make view).Faithful := by
  constructor
  case begins => exact fun b => faithful.begins (view b)
  case reads =>
    intro b rest ends
    simp only [Codec.along, faithful.reads (view b) rest ends, Except.map, inverse]

theorem Faithful.option {codec : Codec α} (faithful : codec.Faithful)
    (plain : ∀ a more, codec.write a ≠ 'n' :: more) : codec.option.Faithful := by
  constructor
  case begins =>
    intro a?
    cases a? with
    | none => exact ⟨'n', _, rfl, rfl, by decide⟩
    | some a => exact faithful.begins a
  case reads =>
    intro a? rest ends
    cases a? with
    | none => rfl
    | some a =>
      obtain ⟨c, more, written, solid, _⟩ := faithful.begins a
      have read := faithful.reads a rest ends
      rw [written, List.cons_append] at read
      simp only [Codec.option, written, List.cons_append, skipGap_cons solid]
      split
      · rename_i same
        exact absurd ((List.cons.inj same).1 ▸ written) (plain a more)
      · rw [read]
        rfl

theorem readNatural_beyond {limit n : Nat} (beyond : maxWord < n) {rest : List Char}
    (ends : EndsNumber rest) :
    ∃ flaw, readNatural limit (Nat.toDigits 10 n ++ rest) = .error flaw := by
  rw [readNatural]
  cases h : number (Nat.toDigits 10 n ++ rest) with
  | error flaw => exact ⟨flaw, rfl⟩
  | ok read =>
    obtain ⟨value?, rest'⟩ := read
    cases value? with
    | none => exact ⟨.unfit, rfl⟩
    | some k => exact absurd h (number_beyond beyond ends k rest')

/-- Where a number of 64 bits may be missing, a larger one does not count as missing. -/
theorem option_uint64_beyond {n : Nat} (beyond : maxWord < n) {rest : List Char}
    (ends : EndsNumber rest) :
    ∃ flaw, uint64.option.read (Nat.toDigits 10 n ++ rest) = .error flaw := by
  obtain ⟨c, more, written, digit⟩ := toDigits_begins n
  obtain ⟨flaw, refused⟩ := @readNatural_beyond (UInt64.size - 1) n beyond rest ends
  have start : isNumberStart c = true := by simp [isNumberStart, digit]
  have solid := (solid_of_isDigit digit).1
  rw [written, List.cons_append] at refused ⊢
  have read : uint64.read (c :: (more ++ rest)) = .error flaw := by
    simp only [uint64, along, natural, skipGap_cons solid, start, if_true, refused, Except.map]
  refine ⟨flaw, ?_⟩
  simp only [Codec.option, skipGap_cons solid]
  split
  · rename_i same
    rw [(List.cons.inj same).1] at digit
    exact absurd digit (by decide)
  · rw [read]
    rfl

theorem elements_write {codec : Codec α} (faithful : codec.Faithful) (a : α) (as : List α)
    (rest : List Char) {fuel : Nat} (enough : as.length < fuel) :
    elements codec.read fuel (codec.write a
      ++ ((as.map codec.write).flatMap (fun text => ',' :: text) ++ ']' :: rest)) =
        .ok (a :: as, rest) := by
  induction as generalizing a fuel with
  | nil =>
    cases fuel with
    | zero => cases enough
    | succ fuel =>
      have read := faithful.reads a (']' :: rest) (endsValue_cons (by decide) rest)
      simp only [elements, List.map_nil, List.flatMap_nil, List.nil_append, read,
        skipGap_cons (c := ']') rfl]
  | cons b as ih =>
    cases fuel with
    | zero => cases enough
    | succ fuel =>
      obtain ⟨c, more, written, solid, opens⟩ := faithful.begins b
      have next := ih b (Nat.lt_of_succ_lt_succ enough)
      have read := fun more => faithful.reads a (',' :: more) (endsValue_cons (by decide) more)
      rw [written, List.cons_append] at next
      simp only [elements, List.map_cons, List.flatMap_cons, List.cons_append, read,
        skipGap_cons (c := ',') rfl, List.append_assoc, written, skipGap_cons solid]
      split
      · rename_i same
        cases same
      · rename_i same
        exact absurd (List.cons.inj same).1 opens
      · rw [next]
        rfl

theorem Faithful.list {codec : Codec α} (faithful : codec.Faithful) : codec.list.Faithful := by
  constructor
  case begins => exact fun as => ⟨'[', _, rfl, rfl, by decide⟩
  case reads =>
    intro as rest _
    cases as with
    | nil => rfl
    | cons a as =>
      obtain ⟨c, more, written, solid, opens⟩ := faithful.begins a
      have whole : codec.list.write (a :: as) ++ rest = '[' :: (codec.write a
          ++ ((as.map codec.write).flatMap (fun text => ',' :: text) ++ ']' :: rest)) := by
        simp [Codec.list, commas_cons]
      have enough : as.length < (codec.write a
          ++ ((as.map codec.write).flatMap (fun text => ',' :: text) ++ ']' :: rest)).length := by
        have separated := length_le_separated (as.map codec.write)
        simp only [List.length_map, List.length_append, List.length_cons] at separated ⊢
        omega
      have next := elements_write faithful a as rest enough
      rw [whole]
      rw [written, List.cons_append] at next ⊢
      simp only [Codec.list, skipGap_cons (c := '[') rfl, skipGap_cons solid]
      split
      · rename_i same
        cases same
      · rename_i same
        exact absurd (List.cons.inj same).1 opens
      · exact next

theorem ofList_toList [Ord α] [Std.TransOrd α] [Std.LawfulEqOrd α] [DecidableEq α]
    (values : ExtTreeSet α) : ExtTreeSet.ofList values.toList = values := by
  refine ExtTreeSet.ext_mem fun value => ?_
  rw [ExtTreeSet.mem_ofList, List.contains_iff_mem, ExtTreeSet.mem_toList]

theorem Faithful.set [Ord α] [Std.TransOrd α] [Std.LawfulEqOrd α] [DecidableEq α]
    {codec : Codec α} (faithful : codec.Faithful) : codec.set.Faithful :=
  faithful.list.along ofList_toList

end Codec

/-! Objects. -/

/-- Members that are read one after the other, each as soon as its text ends, with what is drafted
before and after them. -/
inductive Takes {δ : Type} (member : δ → Reader δ) : δ → List (List Char) → δ → Prop
  | nil (draft : δ) : Takes member draft [] draft
  | cons {draft next last : δ} {text : List Char} {texts : List (List Char)}
    (read : ∀ rest, EndsValue rest → member draft (text ++ rest) = .ok (next, rest))
    (more : Takes member next texts last) : Takes member draft (text :: texts) last

theorem members_write {δ : Type} {member : δ → Reader δ} {draft last : δ} {text : List Char}
    {texts : List (List Char)} (takes : Takes member draft (text :: texts) last) (rest : List Char)
    {fuel : Nat} (enough : texts.length < fuel) :
    members member fuel draft
      (text ++ ((texts.map ('"' :: ·)).flatMap (fun text => ',' :: text) ++ '}' :: rest)) =
        .ok (last, rest) := by
  induction texts generalizing draft text fuel with
  | nil =>
    cases fuel with
    | zero => cases enough
    | succ fuel =>
      cases takes with
      | cons read more =>
        cases more
        simp only [members, List.map_nil, List.flatMap_nil, List.nil_append,
          read _ (endsValue_cons (c := '}') (by decide) rest), skipGap_cons (c := '}') rfl]
  | cons next texts ih =>
    cases fuel with
    | zero => cases enough
    | succ fuel =>
      cases takes with
      | cons read more =>
        simp only [members, List.map_cons, List.flatMap_cons, List.cons_append,
          read _ (endsValue_cons (c := ',') (by decide) _), skipGap_cons (c := ',') rfl,
          skipGap_cons (c := '"') rfl, List.append_assoc]
        exact ih more (Nat.lt_of_succ_lt_succ enough)

theorem object_write {δ : Type} {member : δ → Reader δ} {draft last : δ}
    {texts : List (List Char)} (takes : Takes member draft texts last) (rest : List Char) :
    object member draft (commas (texts.map ('"' :: ·)) ++ '}' :: rest) = .ok (last, rest) := by
  cases texts with
  | nil =>
    cases takes
    rfl
  | cons text texts =>
    have enough : texts.length < (text ++ ((texts.map ('"' :: ·)).flatMap
        (fun text => ',' :: text) ++ '}' :: rest)).length + 1 := by
      have separated := length_le_separated (texts.map ('"' :: ·))
      simp only [List.length_map, List.length_append] at separated ⊢
      omega
    rw [List.map_cons, commas_cons, List.append_assoc, List.cons_append, object,
      skipGap_cons (c := '"') rfl]
    exact members_write takes rest enough

theorem writeObject_append (texts : List (List Char)) (rest : List Char) :
    writeObject texts ++ rest = '{' :: (commas texts ++ '}' :: rest) := by
  simp [writeObject]

theorem colon_value (value : List Char) : colon (':' :: value) = .ok value := by
  simp only [colon, skipGap_cons (c := ':') rfl]

/-! Maps. -/

theorem KeyCodec.faithful_text : KeyCodec.text.Faithful := by
  intro s rest
  simp only [KeyCodec.text, chars_write, Except.map, String.ofList_toList]

theorem KeyCodec.faithful_uint32 : KeyCodec.uint32.Faithful := by
  intro n rest
  obtain ⟨c, more, written, digit⟩ := Codec.toDigits_begins n.toNat
  have ends : EndsNumber ('"' :: rest) := by
    intro c more same
    cases same
    decide
  have read : Codec.readNatural (UInt32.size - 1) (Nat.toDigits 10 n.toNat ++ '"' :: rest) =
      .ok (n.toNat, '"' :: rest) :=
    Codec.readNatural_write (by decide) (Nat.le_sub_one_of_lt n.toNat_lt) ends
  have start : isNumberStart c = true := by simp [isNumberStart, digit]
  rw [written, List.cons_append] at read
  simp only [uint32, written, List.cons_append, start, if_true, read, UInt32.ofNat_toNat]

theorem KeyCodec.Faithful.along {codec : KeyCodec α} (faithful : codec.Faithful) {make : α → β}
    {view : β → α} (inverse : ∀ b, make (view b) = b) : (codec.along make view).Faithful := by
  intro b rest
  simp only [KeyCodec.along, faithful (view b) rest, Except.map, inverse]

/-- Putting the entries of a map into an empty one, in their order. -/
theorem foldl_insert_toList [Ord κ] [Std.TransOrd κ] [Std.LawfulEqOrd κ] [DecidableEq κ]
    (entries : ExtTreeMap κ α) :
    entries.toList.foldl (fun known (k, a) => known.insert k a) ∅ = entries := by
  have along : ∀ (listed : List (κ × α)) (known : ExtTreeMap κ α),
      listed.foldl (fun known (k, a) => known.insert k a) known = known.insertMany listed := by
    intro listed
    induction listed with
    | nil => exact fun known => ExtTreeMap.insertMany_nil.symm
    | cons entry listed ih => exact fun known => (ih _).trans ExtTreeMap.insertMany_cons.symm
  rw [along, ← ExtTreeMap.ofList_eq_insertMany_empty]
  refine ExtTreeMap.ext_getElem? fun key => ?_
  cases stored : entries[key]? with
  | none =>
    refine ExtTreeMap.getElem?_ofList_of_contains_eq_false (Bool.eq_false_iff.mpr fun listed => ?_)
    obtain ⟨⟨_, a⟩, member, rfl⟩ := List.mem_map.mp (List.contains_iff_mem.mp listed)
    cases stored.symm.trans (ExtTreeMap.mem_toList_iff_getElem?_eq_some.mp member)
  | some a =>
    exact ExtTreeMap.getElem?_ofList_of_mem Std.ReflCmp.compare_self ExtTreeMap.distinct_keys_toList
      (ExtTreeMap.mem_toList_iff_getElem?_eq_some.mpr stored)

/-- An entry of a map, without the quote that begins it. -/
def entryText (key : KeyCodec κ) (value : Codec α) (entry : κ × α) : List Char :=
  key.write entry.1 ++ '"' :: ':' :: value.write entry.2

theorem takes_entries [Ord κ] [Std.TransOrd κ] {key : KeyCodec κ} {value : Codec α}
    (keys : key.Faithful) (values : value.Faithful) (listed : List (κ × α))
    (known : ExtTreeMap κ α) :
    Takes (readEntry key value) known (listed.map (entryText key value))
      (listed.foldl (fun known (k, a) => known.insert k a) known) := by
  induction listed generalizing known with
  | nil => exact .nil known
  | cons entry listed ih =>
    refine .cons (fun rest ends => ?_) (ih _)
    simp only [readEntry, entryText, List.append_assoc, List.cons_append, keys entry.1, bind,
      Except.bind, colon_value, values.reads entry.2 rest ends]

theorem Codec.Faithful.map [Ord κ] [Std.TransOrd κ] [Std.LawfulEqOrd κ] [DecidableEq κ]
    {key : KeyCodec κ} {value : Codec α} (keys : key.Faithful) (values : value.Faithful) :
    (Codec.map key value).Faithful := by
  constructor
  case begins => exact fun entries => ⟨'{', _, rfl, rfl, by decide⟩
  case reads =>
    intro entries rest _
    have texts : entries.toList.map (fun (k, a) => writeMember (key.write k) (value.write a)) =
        (entries.toList.map (entryText key value)).map ('"' :: ·) := by
      rw [List.map_map]
      rfl
    have takes := takes_entries keys values entries.toList ∅
    rw [foldl_insert_toList] at takes
    simp only [Codec.map, texts, writeObject_append, skipGap_cons (c := '{') rfl]
    exact object_write takes rest

end PlanReferee.Json
