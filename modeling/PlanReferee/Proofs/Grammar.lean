import PlanReferee.Lexicon

/-! The grammar of facts: which texts have the form `name(args)`, how an argument text falls into
its places, and what a numeral is worth. Each reader accepts exactly the texts of a form that is
stated without it. -/

namespace PlanReferee

open Text

namespace Text

/-- A nonempty run of ASCII digits and its decimal value, whatever its length and leading zeros. -/
def Numeral (ds : List Char) (n : Nat) : Prop :=
  ds ≠ [] ∧ (∀ c ∈ ds, c.isDigit = true) ∧ Nat.ofDigitChars 10 ds 0 = n

theorem numeral_unique {ds : List Char} {n k : Nat} (hn : Numeral ds n) (hk : Numeral ds k) :
    n = k :=
  hn.2.2.symm.trans hk.2.2

/-- A character of another kind does not stand among characters of one kind. -/
theorem not_mem_of_all {kind : Char → Bool} {cs : List Char} (all : ∀ c ∈ cs, kind c = true)
    {c : Char} (other : kind c = false) : c ∉ cs := by
  intro member
  have same := all c member
  rw [other] at same
  cases same

theorem not_mem_numeral {ds : List Char} {n : Nat} (numeral : Numeral ds n) {c : Char}
    (other : c.isDigit = false) : c ∉ ds :=
  not_mem_of_all numeral.2.1 other

theorem digits?_eq_some_iff (ds : List Char) (n : Nat) : digits? ds = some n ↔ Numeral ds n := by
  unfold digits? Numeral
  cases ds with
  | nil => simp
  | cons d ds =>
    simp only [List.isEmpty_cons, Bool.not_false, Bool.true_and, List.all_eq_true, ne_eq,
      List.cons_ne_nil, not_false_eq_true, true_and]
    split
    · rename_i h
      simp only [Option.some.injEq]
      exact ⟨fun he => ⟨h, he⟩, fun he => he.2⟩
    · rename_i h
      simp only [reduceCtorEq, false_iff, not_and]
      exact fun all => absurd all h

theorem accepts_digits_iff (ds : List Char) :
    Slot.digits.accepts ds = true ↔ ∃ n, Numeral ds n := by
  simp only [Slot.accepts, Numeral, Bool.and_eq_true, Bool.not_eq_true', List.isEmpty_eq_false_iff,
    List.all_eq_true, exists_and_left, exists_eq', and_true]

theorem accepts_word_iff (cs : List Char) :
    Slot.word.accepts cs = true ↔ cs ≠ [] ∧ ∀ c ∈ cs, isWordChar c = true := by
  simp only [Slot.accepts, Bool.and_eq_true, Bool.not_eq_true', List.isEmpty_eq_false_iff,
    List.all_eq_true]

theorem not_mem_word {cs : List Char} (letters : ∀ c ∈ cs, isWordChar c = true) {c : Char}
    (other : isWordChar c = false) : c ∉ cs :=
  not_mem_of_all letters other

theorem not_digit_sign {c : Char} (h : c.isDigit = true) : c ≠ '+' ∧ c ≠ '-' := by
  constructor <;> rintro rfl <;> revert h <;> decide

theorem read?_numeral (range : IntRange) {ds : List Char} {n : Nat} (numeral : Numeral ds n)
    (v : Int) : range.read? ds = some v ↔ range.holds n = true ∧ v = n := by
  have plain : range.read? ds = ((digits? ds).map Int.ofNat).filter range.holds := by
    unfold IntRange.read?
    -- No digit is a sign, so the readings of signed texts do not apply.
    cases ds with
    | nil => rfl
    | cons d ds =>
      have sign := not_digit_sign (numeral.2.1 d List.mem_cons_self)
      split
      · rename_i h
        cases h
        exact absurd rfl sign.1
      · rename_i h
        cases h
        exact absurd rfl sign.2
      · rfl
  rw [plain, (digits?_eq_some_iff ds n).mpr numeral, Option.map_some, Option.filter_some]
  split
  · rename_i h
    simp only [Option.some.injEq, Int.ofNat_eq_natCast] at h ⊢
    exact ⟨fun he => ⟨h, he.symm⟩, fun he => he.2.symm⟩
  · rename_i h
    simp only [reduceCtorEq, false_iff, not_and]
    exact fun held _ => h held

theorem holds_iff (range : IntRange) (v : Int) :
    range.holds v = true ↔ range.low ≤ v ∧ v ≤ range.high := by
  rw [IntRange.holds, Bool.and_eq_true, decide_eq_true_eq, decide_eq_true_eq]

theorem readUInt32?_numeral {ds : List Char} (digits : Slot.digits.accepts ds = true)
    (t : UInt32) : readUInt32? ds = some t ↔ Numeral ds t.toNat := by
  obtain ⟨n, numeral⟩ := (accepts_digits_iff ds).mp digits
  have held : (IntRange.unsigned 32).holds n = true ↔ n < 2 ^ 32 := by
    have low : (IntRange.unsigned 32).low = 0 := rfl
    have high : (IntRange.unsigned 32).high = 2 ^ 32 - 1 := by decide
    rw [holds_iff, low, high]
    omega
  rw [readUInt32?, Option.map_eq_some_iff]
  simp only [read?_numeral _ numeral, held]
  constructor
  · rintro ⟨v, ⟨hn, rfl⟩, rfl⟩
    rw [Int.toNat_natCast, UInt32.toNat_ofNat_of_lt' hn]
    exact numeral
  · intro h
    have value := numeral_unique numeral h
    refine ⟨n, ⟨value ▸ t.toNat_lt, rfl⟩, ?_⟩
    rw [Int.toNat_natCast, value, UInt32.ofNat_toNat]

/-- A numeral whose value is a signed 64-bit number. -/
def Numeral64 (ds : List Char) (v : Int) : Prop :=
  ∃ n : Nat, Numeral ds n ∧ v = n ∧ v ≤ Int64.maxValue.toInt

theorem numeral64_iff (ds : List Char) (v : Int) :
    (Slot.digits.accepts ds = true ∧ (IntRange.signed 64).read? ds = some v) ↔ Numeral64 ds v := by
  have held : ∀ n : Nat,
      (IntRange.signed 64).holds n = true ↔ (n : Int) ≤ Int64.maxValue.toInt := by
    intro n
    have low : (IntRange.signed 64).low ≤ 0 := by decide
    have high : (IntRange.signed 64).high = Int64.maxValue.toInt := by decide
    rw [holds_iff, high]
    omega
  rw [accepts_digits_iff]
  constructor
  · rintro ⟨⟨n, numeral⟩, h⟩
    obtain ⟨small, rfl⟩ := (read?_numeral _ numeral v).mp h
    exact ⟨n, numeral, rfl, (held n).mp small⟩
  · rintro ⟨n, numeral, rfl, small⟩
    exact ⟨⟨n, numeral⟩, (read?_numeral _ numeral n).mpr ⟨(held n).mpr small, rfl⟩⟩

theorem cut?_eq_some_iff (separator : Char) (cs a b : List Char) :
    cut? separator cs = some (a, b) ↔ cs = a ++ separator :: b ∧ separator ∉ a := by
  induction cs generalizing a with
  | nil => simp [cut?]
  | cons c cs ih =>
    by_cases hc : c = separator
    · subst hc
      cases a with
      | nil => simp [cut?]
      | cons x a =>
        simp only [cut?, List.dropWhile_cons, bne_self_eq_false, Bool.false_eq_true, if_false,
          List.takeWhile_cons, Option.some.injEq, Prod.mk.injEq, List.cons_append, List.cons.injEq,
          List.mem_cons, not_or, reduceCtorEq, false_and, false_iff]
        rintro ⟨⟨rfl, _⟩, h, _⟩
        exact h rfl
    · have step : cut? separator (c :: cs) =
          (cut? separator cs).map fun cut => (c :: cut.1, cut.2) := by
        have differs : (c != separator) = true := bne_iff_ne.mpr hc
        simp only [cut?, List.dropWhile_cons, List.takeWhile_cons, differs, if_true]
        cases cs.dropWhile (· != separator) <;> rfl
      rw [step]
      cases a with
      | nil => simp [hc]
      | cons x a =>
        simp only [Option.map_eq_some_iff, Prod.exists, Prod.mk.injEq, List.cons.injEq,
          List.cons_append, List.mem_cons, not_or]
        constructor
        · rintro ⟨a', b', h, ⟨rfl, rfl⟩, rfl⟩
          obtain ⟨rfl, free⟩ := (ih a').mp h
          exact ⟨⟨rfl, rfl⟩, Ne.symm hc, free⟩
        · rintro ⟨⟨rfl, rfl⟩, _, free⟩
          exact ⟨a, b, (ih a).mpr ⟨rfl, free⟩, ⟨rfl, rfl⟩, rfl⟩

theorem cut_unique {separator : Char} {cs a b a' b' : List Char} (split : cs = a ++ separator :: b)
    (split' : cs = a' ++ separator :: b') (free : separator ∉ a) (free' : separator ∉ a') :
    a = a' ∧ b = b' := by
  have cut := (cut?_eq_some_iff separator cs a b).mpr ⟨split, free⟩
  rw [(cut?_eq_some_iff separator cs a' b').mpr ⟨split', free'⟩] at cut
  cases cut
  exact ⟨rfl, rfl⟩

end Text

/-! Argument texts. -/

theorem splitArgs?_singleton (slot : Slot) (args : List Char) (values : List (List Char)) :
    splitArgs? [slot] args = some values ↔ slot.accepts args = true ∧ values = [args] := by
  rw [splitArgs?]
  split
  · rename_i h
    simp only [Option.some.injEq]
    exact ⟨fun he => ⟨h, he.symm⟩, fun he => he.2.symm⟩
  · rename_i h
    simp [h]

theorem splitArgs?_cons (slot next : Slot) (slots : List Slot) (args : List Char)
    (values : List (List Char)) :
    splitArgs? (slot :: next :: slots) args = some values ↔
      ∃ value rest more, args = value ++ ',' :: rest ∧ ',' ∉ value ∧ slot.accepts value = true ∧
        splitArgs? (next :: slots) rest = some more ∧ values = value :: more := by
  rw [splitArgs?]
  cases hcut : cut? ',' args with
  | none =>
    simp only [reduceCtorEq, false_iff]
    rintro ⟨value, rest, _, split, free, _⟩
    rw [(cut?_eq_some_iff ',' args value rest).mpr ⟨split, free⟩] at hcut
    cases hcut
  | some pair =>
    obtain ⟨value, rest⟩ := pair
    obtain ⟨split, free⟩ := (cut?_eq_some_iff ',' args value rest).mp hcut
    constructor
    · intro h
      dsimp only at h
      split at h
      · rename_i accepted
        obtain ⟨more, hmore, rfl⟩ := Option.map_eq_some_iff.mp h
        exact ⟨value, rest, more, split, free, accepted, hmore, rfl⟩
      · cases h
    · rintro ⟨value', rest', more, split', free', accepted, hmore, rfl⟩
      obtain ⟨rfl, rfl⟩ := cut_unique split split' free free'
      dsimp only
      rw [if_pos accepted, hmore]
      rfl

/-! Entries and lexicons. -/

namespace Entry

variable {ρ : Type}

theorem read?_eq_some_iff (entry : Entry ρ) (fact : Fact) (record : ρ) :
    entry.read? fact = some record ↔ fact.name = entry.name ∧
      ∃ values, splitArgs? entry.slots fact.args.toList = some values ∧
        entry.record? (values.map String.ofList) = some record := by
  rw [Entry.read?]
  split
  · rename_i h
    simp only [h, Option.bind_eq_some_iff, true_and]
  · rename_i h
    simp [h]

theorem read?_unary (name : String) (make : String → ρ) (fact : Fact) (record : ρ) :
    (unary name make).read? fact = some record ↔ fact.name = name ∧ record = make fact.args := by
  simp only [read?_eq_some_iff, unary, splitArgs?_singleton, Slot.accepts, true_and,
    exists_eq_left, List.map_cons, List.map_nil, String.ofList_toList, Option.some.injEq]
  exact and_congr_right fun _ => eq_comm

theorem read?_unaryNumber (name : String) (make : UInt32 → ρ) (fact : Fact) (record : ρ) :
    (unaryNumber name make).read? fact = some record ↔
      fact.name = name ∧ ∃ t, Numeral fact.args.toList t.toNat ∧ record = make t := by
  simp only [read?_eq_some_iff, unaryNumber, splitArgs?_singleton]
  refine and_congr_right fun _ => ⟨?_, ?_⟩
  · rintro ⟨_, ⟨digits, rfl⟩, h⟩
    obtain ⟨t, ht, rfl⟩ := Option.map_eq_some_iff.mp h
    rw [String.toList_ofList] at ht
    exact ⟨t, (readUInt32?_numeral digits t).mp ht, rfl⟩
  · rintro ⟨t, numeral, rfl⟩
    have digits := (accepts_digits_iff _).mpr ⟨_, numeral⟩
    refine ⟨_, ⟨digits, rfl⟩, Option.map_eq_some_iff.mpr ⟨t, ?_, rfl⟩⟩
    rw [String.toList_ofList]
    exact (readUInt32?_numeral digits t).mpr numeral

end Entry

namespace Lexicon

variable {ρ : Type}

theorem read?_filter (lexicon : Lexicon ρ) (fact : Fact) :
    Lexicon.read? (lexicon.filter fun entry => fact.name = entry.name) fact =
      Lexicon.read? lexicon fact := by
  induction lexicon with
  | nil => rfl
  | cons entry lexicon ih =>
    simp only [Lexicon.read?, List.filter_cons, List.findSome?_cons] at ih ⊢
    split
    · rw [List.findSome?_cons, ih]
    · rename_i h
      have refused : entry.read? fact = none := if_neg (by simpa using h)
      rw [ih, refused]

/-- In a lexicon with one entry for each name the order of the entries does not matter. -/
theorem read?_eq_some_iff {lexicon : Lexicon ρ} (distinct : (lexicon.map Entry.name).Nodup)
    (fact : Fact) (record : ρ) :
    Lexicon.read? lexicon fact = some record ↔
      ∃ entry ∈ lexicon, entry.read? fact = some record := by
  induction lexicon with
  | nil => simp [Lexicon.read?]
  | cons first lexicon ih =>
    obtain ⟨fresh, distinct⟩ := List.nodup_cons.mp distinct
    have ih := ih distinct
    simp only [Lexicon.read?, List.findSome?_cons, List.mem_cons, exists_eq_or_imp] at ih ⊢
    cases h : first.read? fact with
    | none => simpa using ih
    | some found =>
      simp only [Option.some.injEq]
      refine ⟨.inl, ?_⟩
      rintro (rfl | ⟨entry, member, hentry⟩)
      · rfl
      · have named := (Entry.read?_eq_some_iff first fact found).mp h
        have named' := (Entry.read?_eq_some_iff entry fact record).mp hentry
        exact absurd (List.mem_map.mpr ⟨entry, member, named'.1.symm.trans named.1⟩) fresh

end Lexicon

/-! The form of a fact. -/

theorem shape?_eq_some_iff (text name args : List Char) :
    shape? text = some (name, args) ↔
      text = name ++ '(' :: (args ++ [')']) ∧ name ≠ [] ∧ (∀ c ∈ name, isNameChar c = true) ∧
        '\n' ∉ args := by
  have split : text = text.takeWhile isNameChar ++ text.dropWhile isNameChar :=
    List.takeWhile_append_dropWhile.symm
  have prefixed : ∀ c ∈ text.takeWhile isNameChar, isNameChar c = true :=
    List.all_eq_true.mp List.all_takeWhile
  constructor
  · intro h
    unfold shape? at h
    split at h
    · rename_i c front inside hname hrest
      split at h
      · rename_i closed
        cases h
        obtain ⟨hlast, free⟩ := closed
        have body : inside = inside.dropLast ++ [')'] := by
          obtain ⟨args, rfl⟩ := List.getLast?_eq_some_iff.mp hlast
          rw [List.dropLast_concat]
        refine ⟨?_, List.cons_ne_nil c front, hname ▸ prefixed, free⟩
        rw [← body, ← hname, ← hrest]
        exact split
      · cases h
    · cases h
  · rintro ⟨rfl, nonempty, named, free⟩
    have stop : isNameChar '(' = false := by decide +kernel
    have hname : (name ++ '(' :: (args ++ [')'])).takeWhile isNameChar = name := by
      rw [List.takeWhile_append_of_pos named, List.takeWhile_cons_of_neg (by simp [stop]),
        List.append_nil]
    have hrest : (name ++ '(' :: (args ++ [')'])).dropWhile isNameChar =
        '(' :: (args ++ [')']) := by
      rw [List.dropWhile_append_of_pos named, List.dropWhile_cons_of_neg (by simp [stop])]
    cases name with
    | nil => exact absurd rfl nonempty
    | cons c front =>
      unfold shape?
      rw [hname, hrest]
      simp [free]

/-- A text of the form `name(args)`. -/
def HasShape (raw name args : String) : Prop :=
  raw = name ++ "(" ++ args ++ ")" ∧ name ≠ "" ∧
    (∀ c ∈ name.toList, Text.isNameChar c = true) ∧ '\n' ∉ args.toList

theorem shape?_toList (text name args : String) :
    shape? text.toList = some (name.toList, args.toList) ↔ HasShape text name args := by
  have made : text = name ++ "(" ++ args ++ ")" ↔
      text.toList = name.toList ++ '(' :: (args.toList ++ [')']) := by
    rw [← String.toList_inj]
    simp
  rw [shape?_eq_some_iff, HasShape, made, ne_eq, ne_eq, String.toList_eq_nil_iff]

theorem Fact.read?_eq_some_iff (raw : String) (fact : Fact) :
    Fact.read? raw = some fact ↔ fact.raw = raw ∧ raw = fact.name ++ "(" ++ fact.args ++ ")" ∧
      fact.name ≠ "" ∧ (∀ c ∈ fact.name.toList, isNameChar c = true) ∧
      '\n' ∉ fact.args.toList := by
  rw [Fact.read?, Option.map_eq_some_iff]
  constructor
  · rintro ⟨⟨name, args⟩, h, rfl⟩
    refine ⟨rfl, (shape?_toList _ _ _).mp ?_⟩
    simpa only [String.toList_ofList] using h
  · rintro ⟨rfl, shape⟩
    exact ⟨_, (shape?_toList _ _ _).mpr shape, by simp only [String.ofList_toList]⟩

theorem HasShape.not_mem_name {raw name args : String} (shape : HasShape raw name args) {c : Char}
    (other : isNameChar c = false) : c ∉ name.toList :=
  not_mem_of_all shape.2.2.1 other

theorem HasShape.free_of_newline {raw name args : String} (shape : HasShape raw name args) :
    '\n' ∉ raw.toList := by
  have unnamed : '\n' ∉ name.toList := shape.not_mem_name (by decide +kernel)
  rw [shape.1]
  simp [unnamed, shape.2.2.2]

theorem read?_eq_some_iff_hasShape (raw : String) (fact : Fact) :
    Fact.read? raw = some fact ↔ fact.raw = raw ∧ HasShape raw fact.name fact.args :=
  Fact.read?_eq_some_iff raw fact

/-- An entry whose name is plain reads a text of the form `name(args)` and of no other name. -/
theorem Entry.read?_text {ρ : Type} (entry : Entry ρ) (filled : entry.name ≠ "")
    (letters : entry.name.toList.all Char.isAlphanum = true) (text : String) (record : ρ) :
    (Fact.read? text).bind entry.read? = some record ↔
      ∃ args : String, text = entry.name ++ "(" ++ args ++ ")" ∧ '\n' ∉ args.toList ∧
        entry.read? ⟨text, entry.name, args⟩ = some record := by
  simp only [Option.bind_eq_some_iff, Fact.read?_eq_some_iff]
  constructor
  · rintro ⟨⟨raw, name, args⟩, ⟨rfl, form, _, _, plain⟩, read⟩
    have named : name = entry.name := ((Entry.read?_eq_some_iff entry _ record).mp read).1
    subst named
    exact ⟨args, form, plain, read⟩
  · rintro ⟨args, form, plain, read⟩
    have named : ∀ c ∈ entry.name.toList, isNameChar c = true :=
      fun c member => isNameChar_of_isAlphanum (List.all_eq_true.mp letters c member)
    exact ⟨⟨text, entry.name, args⟩, ⟨rfl, form, filled, named, plain⟩, read⟩

theorem Fact.readAll_cons (raw : String) (more : List String) :
    Fact.readAll (raw :: more) = (Fact.read raw).bind fun fact =>
      (Fact.readAll more).bind fun facts => .ok (fact :: facts) :=
  List.mapM_cons

theorem Fact.readAll_cons_eq_ok (raw : String) (more : List String) (facts : List Fact) :
    Fact.readAll (raw :: more) = .ok facts ↔ ∃ fact rest, Fact.read? raw = some fact ∧
      Fact.readAll more = .ok rest ∧ facts = fact :: rest := by
  rw [readAll_cons, Fact.read]
  cases Fact.read? raw with
  | none => simp [Except.bind]
  | some fact => cases Fact.readAll more <;> simp [Except.bind, eq_comm]

/-- The first malformed text decides; without one, all are read in their order. -/
theorem Fact.readAll_eq (solution : List String) :
    Fact.readAll solution = match solution.find? fun raw => (Fact.read? raw).isNone with
      | some raw => .error (.malformed raw)
      | none => .ok (solution.filterMap Fact.read?) := by
  induction solution with
  | nil => rfl
  | cons raw more ih =>
    rw [readAll_cons, Fact.read, List.find?_cons, List.filterMap_cons]
    cases Fact.read? raw with
    | none => rfl
    | some fact =>
      rw [ih]
      simp only [Option.isNone_some]
      cases more.find? fun raw => (Fact.read? raw).isNone <;> rfl

theorem Fact.readAll_cases (solution : List String) :
    (∀ raw ∈ solution, Fact.read? raw ≠ none) ∧
        Fact.readAll solution = .ok (solution.filterMap Fact.read?) ∨
      ∃ raw ∈ solution, Fact.read? raw = none ∧
        Fact.readAll solution = .error (.malformed raw) := by
  rw [Fact.readAll_eq]
  cases h : solution.find? fun raw => (Fact.read? raw).isNone with
  | none =>
    simp only [List.find?_eq_none, Option.isNone_iff_eq_none] at h
    exact .inl ⟨h, rfl⟩
  | some raw =>
    have malformed := List.find?_some h
    rw [Option.isNone_iff_eq_none] at malformed
    exact .inr ⟨raw, List.mem_of_find?_eq_some h, malformed, rfl⟩

/-- Two solutions with the same first malformed text fail alike, or both are read. -/
theorem Fact.readAll_alike {solution other : List String}
    (same : (solution.find? fun raw => (Fact.read? raw).isNone) =
      other.find? fun raw => (Fact.read? raw).isNone) :
    (∃ fault, Fact.readAll solution = .error fault ∧ Fact.readAll other = .error fault) ∨
      Fact.readAll solution = .ok (solution.filterMap Fact.read?) ∧
        Fact.readAll other = .ok (other.filterMap Fact.read?) := by
  rw [Fact.readAll_eq, Fact.readAll_eq, same]
  cases other.find? fun raw => (Fact.read? raw).isNone with
  | some malformed => exact .inl ⟨_, rfl, rfl⟩
  | none => exact .inr ⟨rfl, rfl⟩

end PlanReferee
