import PlanReferee.Proofs.Grammar
import PlanReferee.Proofs.Text.Lines
import PlanReferee.Solver.Header

/-! Headers of tests. What a header says of a key is what its last line on that key says, so that the
header of two texts together is that of the second over that of the first. A header that is written
line by line is read again, in whatever order its lines come and whatever stands between them. -/

namespace PlanReferee

open Std (ExtTreeMap)
open Text

/-- A header in which the second of two others goes before the first. -/
structure Header.Overrides (first second whole : Header) : Prop where
  models : whole.models = second.models.or first.models
  constants : ∀ key : String, whole.constants[key]? = second.constants[key]?.or first.constants[key]?

def HeaderLine.bindingText (key value : String) : List Char :=
  marker ++ (key.toList ++ '=' :: value.toList)

def HeaderLine.modelsText (count : UInt32) : List Char :=
  marker ++ (modelsKey ++ '=' :: Nat.toDigits 10 count.toNat)

/-- A line that says a part of a header. -/
inductive Header.Part (header : Header) : List Char → Prop
  | binding {key value : String} (bound : header.constants[key]? = some value) :
    Part header (HeaderLine.bindingText key value)
  | models {count : UInt32} (set : header.models = some count) :
    Part header (HeaderLine.modelsText count)

/-- Of these lines, those that begin as header lines are the parts of a header. -/
def Header.Declares (header : Header) (ls : List (List Char)) : Prop :=
  ∀ line, HeaderLine.marker <+: line → (line ∈ ls ↔ header.Part line)

/-- A header that can be told from its lines. -/
structure Header.Writable (header : Header) : Prop where
  key : ∀ key value : String, header.constants[key]? = some value →
    '=' ∉ key.toList ∧ key ≠ "MODELS"
  value : ∀ key value : String, header.constants[key]? = some value → Solid value.toList

/-! One line. -/

namespace HeaderLine

/-- What a line says of a key. -/
def value? (key : String) : HeaderLine → Option String
  | binding key' value => if key' = key then some value else none
  | _ => none

def count? : HeaderLine → Option UInt32
  | models count => some count
  | _ => none

theorem value?_eq_some {line : HeaderLine} {key value : String} :
    line.value? key = some value ↔ line = binding key value := by
  cases line <;> simp [value?]

theorem count?_eq_some {line : HeaderLine} {count : UInt32} :
    line.count? = some count ↔ line = models count := by
  cases line <;> simp [count?]

theorem read_of_plain {line : List Char} (plain : ¬ marker <+: line) : read line = other := by
  rw [read]
  cases h : after? marker (trimEnd line) with
  | none => rfl
  | some declared =>
    rw [after?_eq_some_iff] at h
    exact absurd ((List.prefix_append _ _).trans (h ▸ trimEnd_prefix line)) plain

/-- Line by line, what stands before the first equals sign is the key. -/
theorem read_of_cut {line key value : List Char} (solid : Solid line) (free : '=' ∉ key)
    (text : line = marker ++ (key ++ '=' :: value)) :
    read line = if key = modelsKey then
        match readUInt32? (trim value) with
        | some count => models count
        | none => modelsNotNumeric (String.ofList value)
      else binding (String.ofList key) (String.ofList value) := by
  have declared : after? marker (trimEnd line) = some (key ++ '=' :: value) := by
    rw [trimEnd_eq_self solid, after?_eq_some_iff, text]
  have parted := (cut?_eq_some_iff '=' _ key value).mpr ⟨rfl, free⟩
  rw [read, declared]
  dsimp only
  cases h : cut? '=' (key ++ '=' :: value) with
  | none => cases parted.symm.trans h
  | some parts =>
    cases parted.symm.trans h
    rfl

theorem read_bindingText {key value : String} (free : '=' ∉ key.toList) (other : key ≠ "MODELS")
    (solid : Solid value.toList) : read (bindingText key value) = binding key value := by
  have ends : Solid ('=' :: value.toList) := solid_cons (by decide) solid
  have whole : Solid (bindingText key value) :=
    solid_append (by simp) (solid_append (List.cons_ne_nil _ _) ends _) _
  have named : key.toList ≠ modelsKey := fun same => other (String.toList_inj.mp same)
  rw [read_of_cut whole free rfl, if_neg named, String.ofList_toList, String.ofList_toList]

theorem read_modelsText (count : UInt32) : read (modelsText count) = models count := by
  have digits : ∀ c ∈ Nat.toDigits 10 count.toNat, c.isDigit = true :=
    fun _ => Nat.isDigit_of_mem_toDigits (by decide) (by decide)
  have numeral : Numeral (Nat.toDigits 10 count.toNat) count.toNat :=
    ⟨Nat.toDigits_ne_nil, digits, Nat.ofDigitChars_toDigits (by decide) (by decide)⟩
  have blankless : ∀ c ∈ Nat.toDigits 10 count.toNat, isBlank c = false :=
    fun c member => isBlank_of_isDigit (digits c member)
  have ends : Solid ('=' :: Nat.toDigits 10 count.toNat) :=
    solid_cons (by decide) (solid_of_all blankless)
  have whole : Solid (modelsText count) :=
    solid_append (by simp) (solid_append (List.cons_ne_nil _ _) ends _) _
  have value : readUInt32? (Nat.toDigits 10 count.toNat) = some count :=
    (readUInt32?_numeral ((accepts_digits_iff _).mpr ⟨_, numeral⟩) count).mpr numeral
  rw [read_of_cut whole (by decide) rfl, if_pos rfl, trim_eq_self blankless, value]

theorem read_ne_models (line : List Char) (value : String) : read line ≠ binding "MODELS" value := by
  rw [read]
  cases after? marker (trimEnd line) with
  | none => exact HeaderLine.noConfusion
  | some declared =>
    dsimp only
    cases cut? '=' declared with
    | none => exact HeaderLine.noConfusion
    | some parts =>
      obtain ⟨key, value'⟩ := parts
      dsimp only
      split
      · cases readUInt32? (trim value') <;> exact HeaderLine.noConfusion
      · rename_i other
        intro same
        refine other ?_
        rw [← String.toList_ofList (l := key), (HeaderLine.binding.inj same).1]
        rfl

end HeaderLine

namespace Header

open HeaderLine

theorem models_add (header : Header) (line : HeaderLine) :
    (header.add line).models = line.count?.or header.models := by
  cases line <;> rfl

theorem getElem?_add (header : Header) (line : HeaderLine) (key : String) :
    (header.add line).constants[key]? = (line.value? key).or header.constants[key]? := by
  cases line with
  | binding key' value =>
    simp only [add, value?, ExtTreeMap.getElem?_insert, Std.compare_eq_iff_eq]
    split <;> rfl
  | _ => rfl

/-- White space at the end of a line does not show in a header. -/
theorem add_read_congr {line line' : List Char} (same : trimEnd line = trimEnd line')
    (header : Header) : header.add (HeaderLine.read line) = header.add (HeaderLine.read line') := by
  rw [HeaderLine.read, HeaderLine.read, same]
  cases after? marker (trimEnd line') with
  | none => rfl
  | some declared =>
    dsimp only
    cases cut? '=' declared <;> rfl

/-! Many lines. -/

/-- A header with more lines taken into account. -/
def after (header : Header) (ls : List (List Char)) : Header :=
  ls.foldl (fun header line => header.add (HeaderLine.read line)) header

theorem read_eq_after (source : String) :
    (Header.read source).value = after {} (lines source.toList) := by
  rw [after, ← List.foldl_map]
  rfl

/-- If each step shows what it tells, or else what was shown before, then what is shown in the end was
told last. -/
theorem shown_foldl {σ α β : Type} (shown : σ → Option β) {told : α → Option β} {step : σ → α → σ}
    (shows : ∀ s a, shown (step s a) = (told a).or (shown s)) (s : σ) (as : List α) :
    shown (as.foldl step s) = (as.filterMap told).getLast?.or (shown s) := by
  induction as generalizing s with
  | nil => rfl
  | cons a as ih =>
    rw [List.foldl_cons, ih, shows, ← Option.or_assoc, List.filterMap_cons]
    cases told a with
    | none => rw [Option.or_none]
    | some b =>
      rw [List.getLast?_cons]
      cases List.getLast? _ <;> rfl

theorem models_after (header : Header) (ls : List (List Char)) : (header.after ls).models =
    (ls.filterMap fun line => (HeaderLine.read line).count?).getLast?.or header.models :=
  shown_foldl models (fun header line => models_add header (HeaderLine.read line)) header ls

theorem getElem?_after (header : Header) (ls : List (List Char)) (key : String) :
    (header.after ls).constants[key]? =
      (ls.filterMap fun line => (HeaderLine.read line).value? key).getLast?.or
        header.constants[key]? :=
  shown_foldl (·.constants[key]?)
    (fun header line => getElem?_add header (HeaderLine.read line) key) header ls

theorem after_cons (header : Header) (line : List Char) (ls : List (List Char)) :
    header.after (line :: ls) = (header.add (HeaderLine.read line)).after ls := rfl

/-- One text after the other. The line feed between them ends the last line of the first, and may
take a carriage return from it. -/
theorem after_append (header : Header) (first second : List Char) :
    header.after (lines (first ++ '\n' :: second)) =
      (header.after (lines first)).after (lines second) := by
  obtain ⟨ls, lined⟩ := exists_lined first
  rw [lined.lines_eq]
  induction lined generalizing header with
  | empty =>
    have gap : lines ('\n' :: second) = [] :: lines second := by rw [lines]
    rw [List.nil_append, gap, after_cons]
    rfl
  | @unended line filled free =>
    obtain ⟨read, same, eq⟩ := readAs_lineFeed free second
    rw [eq, after_cons, add_read_congr same.trimEnd]
    rfl
  | @lineFeed line text more free bare _ ih =>
    rw [List.append_assoc, List.cons_append, lines_lineFeed free bare, after_cons, ih, after_cons]
  | @both line text more free _ ih =>
    rw [List.append_assoc, List.cons_append, List.cons_append, lines_both free, after_cons, ih,
      after_cons]

theorem after_readAs {ls reads : List (List Char)} (same : List.Forall₂ ReadAs ls reads)
    (header : Header) : header.after reads = header.after ls := by
  induction same generalizing header with
  | nil => rfl
  | cons first _ ih => rw [after_cons, after_cons, add_read_congr first.trimEnd, ih]

theorem overrides_read (first second : String) :
    Overrides (Header.read first).value (Header.read second).value
      (Header.read (first ++ "\n" ++ second)).value := by
  have whole : (first ++ "\n" ++ second).toList = first.toList ++ '\n' :: second.toList := by
    simp
  constructor
  case models =>
    rw [read_eq_after, read_eq_after, read_eq_after, whole, after_append, models_after,
      models_after {} (lines second.toList), Option.or_none]
  case constants =>
    intro key
    have unset : (({} : Header).constants)[key]? = none := ExtTreeMap.getElem?_empty
    rw [read_eq_after, read_eq_after, read_eq_after, whole, after_append, getElem?_after,
      getElem?_after {} (lines second.toList), unset, Option.or_none]

theorem not_mem_read (source : String) : "MODELS" ∉ (Header.read source).value.constants := by
  have silent : ((lines source.toList).filterMap fun line =>
      (HeaderLine.read line).value? "MODELS") = [] := by
    rw [List.filterMap_eq_nil_iff]
    intro line _
    refine Option.eq_none_iff_forall_ne_some.mpr fun value said => ?_
    exact read_ne_models line value (value?_eq_some.mp said)
  have unset : (Header.read source).value.constants["MODELS"]? = none := by
    rw [read_eq_after, getElem?_after, silent]
    exact ExtTreeMap.getElem?_empty
  rw [ExtTreeMap.mem_iff_isSome_getElem?, unset]
  exact Bool.false_ne_true

/-! Written headers. -/

theorem getLast?_eq_of_mem {α : Type} {as : List α} {a? : Option α}
    (told : ∀ a, a ∈ as ↔ a? = some a) : as.getLast? = a? := by
  cases h : as.getLast? with
  | none =>
    rw [List.getLast?_eq_none_iff] at h
    subst h
    exact (Option.eq_none_iff_forall_ne_some.mpr fun a same =>
      List.not_mem_nil ((told a).mpr same)).symm
  | some a => exact ((told a).mp (List.mem_of_getLast? h)).symm

section Written

variable {header : Header} {ls : List (List Char)}

/-- A line that says anything is a part of the header. -/
theorem part_of_read (declares : header.Declares ls) {line : List Char} (listed : line ∈ ls)
    (said : HeaderLine.read line ≠ .other) : header.Part line := by
  have marked : marker <+: line := by
    by_contra plain
    exact said (read_of_plain plain)
  exact (declares line marked).mp listed

theorem mem_of_part (declares : header.Declares ls) {line : List Char} (part : header.Part line) :
    line ∈ ls := by
  refine (declares line ?_).mpr part
  cases part <;> exact List.prefix_append marker _

theorem read_part (writable : header.Writable) {line : List Char} (part : header.Part line) :
    (∃ key value, header.constants[key]? = some value ∧
      HeaderLine.read line = .binding key value) ∨
    ∃ count, header.models = some count ∧ HeaderLine.read line = .models count := by
  cases part with
  | @binding key value bound =>
    obtain ⟨free, other⟩ := writable.key key value bound
    exact .inl ⟨key, value, bound, read_bindingText free other (writable.value key value bound)⟩
  | @models count set => exact .inr ⟨count, set, read_modelsText count⟩

theorem after_written (writable : header.Writable) (declares : header.Declares ls) :
    after {} ls = header := by
  have models : (after {} ls).models = header.models := by
    rw [models_after, Option.or_none]
    refine getLast?_eq_of_mem fun count => ?_
    simp only [List.mem_filterMap, count?_eq_some]
    constructor
    · rintro ⟨line, listed, said⟩
      have part := part_of_read declares listed (by simp [said])
      rcases read_part writable part with ⟨_, _, _, same⟩ | ⟨_, set, same⟩
      · cases said.symm.trans same
      · cases said.symm.trans same
        exact set
    · intro set
      exact ⟨_, mem_of_part declares (.models set), read_modelsText count⟩
  have constants : (after {} ls).constants = header.constants := by
    refine ExtTreeMap.ext_getElem? fun key => ?_
    have unset : (({} : Header).constants)[key]? = none := ExtTreeMap.getElem?_empty
    rw [getElem?_after, unset, Option.or_none]
    refine getLast?_eq_of_mem fun value => ?_
    simp only [List.mem_filterMap, value?_eq_some]
    constructor
    · rintro ⟨line, listed, said⟩
      have part := part_of_read declares listed (by simp [said])
      rcases read_part writable part with ⟨_, _, bound, same⟩ | ⟨_, _, same⟩
      · cases said.symm.trans same
        exact bound
      · cases said.symm.trans same
    · intro bound
      obtain ⟨free, other⟩ := writable.key key value bound
      exact ⟨_, mem_of_part declares (.binding bound),
        read_bindingText free other (writable.value key value bound)⟩
  calc after {} ls = ⟨(after {} ls).models, (after {} ls).constants⟩ := rfl
    _ = header := by rw [models, constants]

theorem read_written (writable : header.Writable) (declares : header.Declares ls)
    {source : String} (ended : Ended ls source.toList ∨ Ended ls (source ++ "\n").toList) :
    (Header.read source).value = header := by
  rw [read_eq_after, ← after_written writable declares]
  rcases ended with ended | ended
  · exact after_readAs ended.read {}
  · rw [← after_readAs ended.read]
    have whole : (source ++ "\n").toList = source.toList ++ '\n' :: [] := by simp
    rw [whole, after_append]
    rfl

end Written

/-- The header of two texts is the second over the first, the key of the models is never a constant,
and a header that is written is read again. -/
theorem headers_compose :
    (∀ first second : String, Overrides (Header.read first).value (Header.read second).value
      (Header.read (first ++ "\n" ++ second)).value) ∧
    (∀ source : String, "MODELS" ∉ (Header.read source).value.constants) ∧
    ∀ (header : Header) (ls : List (List Char)) (source : String), header.Writable →
      header.Declares ls → Ended ls source.toList ∨ Ended ls (source ++ "\n").toList →
        (Header.read source).value = header :=
  ⟨overrides_read, not_mem_read, fun _ _ _ writable declares => read_written writable declares⟩

def horizonHeader : Header where
  models := some 3
  constants := (∅ : ExtTreeMap String String).insert "horizon" "5" |>.insert "" "a=b"

def horizonLines : List (List Char) :=
  ["%%% MODELS=3".toList, "% no header line\r".toList, "%%% =a=b".toList, "%%% horizon=5".toList]

def horizonSource : String :=
  "%%% MODELS=3\r\n% no header line\r\n%%% =a=b\n%%% horizon=5"

theorem bound_horizon (key value : String) : horizonHeader.constants[key]? = some value ↔
    key = "" ∧ value = "a=b" ∨ key = "horizon" ∧ value = "5" := by
  simp only [horizonHeader, ExtTreeMap.getElem?_insert, Std.compare_eq_iff_eq,
    ExtTreeMap.getElem?_empty]
  grind

/-- The empty key is a key, a value may have an equals sign, and the last line needs no ending. -/
theorem headers_compose_horizon :
    horizonHeader.Writable ∧ horizonHeader.Declares horizonLines ∧
      Ended horizonLines (horizonSource ++ "\n").toList ∧
      (Header.read horizonSource).value = horizonHeader := by
  have writable : horizonHeader.Writable := by
    constructor
    case key =>
      intro key value bound
      rcases (bound_horizon key value).mp bound with ⟨rfl, rfl⟩ | ⟨rfl, rfl⟩ <;> decide
    case value =>
      intro key value bound c last
      rcases (bound_horizon key value).mp bound with ⟨rfl, rfl⟩ | ⟨rfl, rfl⟩ <;>
        cases last <;> decide
  have declares : horizonHeader.Declares horizonLines := by
    intro line marked
    constructor
    · intro listed
      simp only [horizonLines, List.mem_cons, List.not_mem_nil, or_false] at listed
      rcases listed with rfl | rfl | rfl | rfl
      · exact @Part.models horizonHeader 3 rfl
      · exact absurd marked (by decide)
      · exact @Part.binding horizonHeader "" "a=b" ((bound_horizon _ _).mpr (.inl ⟨rfl, rfl⟩))
      · exact @Part.binding horizonHeader "horizon" "5"
          ((bound_horizon _ _).mpr (.inr ⟨rfl, rfl⟩))
    · rintro (@⟨key, value, bound⟩ | @⟨count, set⟩)
      · rcases (bound_horizon key value).mp bound with ⟨rfl, rfl⟩ | ⟨rfl, rfl⟩ <;> decide
      · cases set
        decide
  have text : (horizonSource ++ "\n").toList = "%%% MODELS=3".toList ++ '\r' :: '\n' ::
      ("% no header line\r".toList ++ '\n' :: ("%%% =a=b".toList ++ '\n' ::
        ("%%% horizon=5".toList ++ ['\n']))) := by
    decide +kernel
  have ended : Ended horizonLines (horizonSource ++ "\n").toList := by
    rw [text]
    exact .both _ (by decide) <| .lineFeed _ (by decide) <| .lineFeed _ (by decide) <|
      .lineFeed _ (by decide) .none
  exact ⟨writable, declares, ended,
    headers_compose.2.2 horizonHeader horizonLines horizonSource writable declares (.inr ended)⟩

end Header

end PlanReferee
