import Mathlib.Data.List.DropRight
import Mathlib.Data.List.Forall2
import PlanReferee.Text.Lines

/-! How a text falls into lines, and a line into words. Each is first stated as a relation between a
text and its pieces, without reading, and reading finds just the pieces that are so related. What is
written line by line is read line by line, but for a carriage return at the end of a line, which may
be taken for a part of the line's ending. -/

namespace PlanReferee.Text

/-! Lines. -/

/-- A text and its lines. A carriage return before a line feed is no part of the line. -/
inductive Lined : List Char → List (List Char) → Prop
  | empty : Lined [] []
  /-- The last line of a text may have no ending. It has some character then. -/
  | unended {line : List Char} (filled : line ≠ []) (free : '\n' ∉ line) : Lined line [line]
  | lineFeed {line text : List Char} {more : List (List Char)} (free : '\n' ∉ line)
    (bare : ∀ front, line ≠ front ++ ['\r']) (rest : Lined text more) :
    Lined (line ++ '\n' :: text) (line :: more)
  | both {line text : List Char} {more : List (List Char)} (free : '\n' ∉ line)
    (rest : Lined text more) : Lined (line ++ '\r' :: '\n' :: text) (line :: more)

/-- Every text has lines. -/
theorem exists_lined (text : List Char) : ∃ ls, Lined text ls := by
  induction text with
  | nil => exact ⟨[], .empty⟩
  | cons c text ih =>
    obtain ⟨ls, lined⟩ := ih
    by_cases feed : c = '\n'
    · subst feed
      exact ⟨[] :: ls, @Lined.lineFeed [] text ls List.not_mem_nil (by simp) lined⟩
    have free : ∀ {line : List Char}, '\n' ∉ line → '\n' ∉ c :: line :=
      List.not_mem_cons_of_ne_of_not_mem (Ne.symm feed)
    cases lined with
    | empty => exact ⟨[[c]], .unended (List.cons_ne_nil c []) (free List.not_mem_nil)⟩
    | unended _ plain => exact ⟨_, .unended (List.cons_ne_nil c text) (free plain)⟩
    | @lineFeed line text more plain bare rest =>
      by_cases ending : line = [] ∧ c = '\r'
      · obtain ⟨rfl, rfl⟩ := ending
        exact ⟨[] :: more, @Lined.both [] text more List.not_mem_nil rest⟩
      · refine ⟨_, @Lined.lineFeed (c :: line) text more (free plain) (fun front same => ?_) rest⟩
        cases front with
        | nil => exact ending ⟨(List.cons.inj same).2, (List.cons.inj same).1⟩
        | cons d front => exact bare front (List.cons.inj same).2
    | @both line text more plain rest => exact ⟨_, @Lined.both (c :: line) text more (free plain) rest⟩

theorem lines_cons {c : Char} {text : List Char} (feed : c ≠ '\n')
    (ending : c = '\r' → ∀ rest, text ≠ '\n' :: rest) :
    lines (c :: text) = match lines text with
      | [] => [[c]]
      | line :: more => (c :: line) :: more :=
  lines.eq_4 c text feed fun rest same => ending same rest

/-- The text that is put before a line belongs to it, unless that makes up an ending. -/
theorem lines_append {line text first : List Char} {more : List (List Char)} (free : '\n' ∉ line)
    (ending : ∀ front, line = front ++ ['\r'] → ∀ rest, text ≠ '\n' :: rest)
    (begun : lines text = first :: more) : lines (line ++ text) = (line ++ first) :: more := by
  induction line with
  | nil => exact begun
  | cons c line ih =>
    have feed : c ≠ '\n' := Ne.symm (List.ne_of_not_mem_cons free)
    have plain : '\n' ∉ line := List.not_mem_of_not_mem_cons free
    have next := ih plain fun front same => ending (c :: front) (congrArg (c :: ·) same)
    rw [List.cons_append, lines_cons feed, next]
    · rfl
    · rintro rfl rest same
      cases line with
      | nil => exact ending [] rfl rest same
      | cons d line => exact plain ((List.cons.inj same).1 ▸ List.mem_cons_self)

theorem lines_unended {line : List Char} (filled : line ≠ []) (free : '\n' ∉ line) :
    lines line = [line] := by
  obtain ⟨front, c, rfl⟩ := (List.eq_nil_or_concat' line).resolve_left filled
  have feed : c ≠ '\n' := fun same => free (by simp [same])
  have single : lines [c] = [[c]] := lines_cons feed fun _ rest same => by cases same
  exact lines_append (fun member => free (List.mem_append_left [c] member))
    (fun _ _ rest same => feed (List.cons.inj same).1) single

theorem lines_lineFeed {line : List Char} (free : '\n' ∉ line)
    (bare : ∀ front, line ≠ front ++ ['\r']) (text : List Char) :
    lines (line ++ '\n' :: text) = line :: lines text := by
  have begun : lines ('\n' :: text) = [] :: lines text := by rw [lines]
  rw [lines_append free (fun front same => absurd same (bare front)) begun, List.append_nil]

theorem lines_both {line : List Char} (free : '\n' ∉ line) (text : List Char) :
    lines (line ++ '\r' :: '\n' :: text) = line :: lines text := by
  have begun : lines ('\r' :: '\n' :: text) = [] :: lines text := by rw [lines]
  rw [lines_append free (fun _ _ rest same => absurd (List.cons.inj same).1 (by decide)) begun,
    List.append_nil]

theorem Lined.lines_eq {text : List Char} {ls : List (List Char)} (lined : Lined text ls) :
    lines text = ls := by
  induction lined with
  | empty => rw [lines]
  | unended filled free => exact lines_unended filled free
  | lineFeed free bare _ ih => rw [lines_lineFeed free bare, ih]
  | both free _ ih => rw [lines_both free, ih]

/-- A text that is written line by line, each line with an ending of its own. -/
inductive Ended : List (List Char) → List Char → Prop
  | none : Ended [] []
  | lineFeed (line : List Char) {ls : List (List Char)} {text : List Char} (free : '\n' ∉ line)
    (more : Ended ls text) : Ended (line :: ls) (line ++ '\n' :: text)
  | both (line : List Char) {ls : List (List Char)} {text : List Char} (free : '\n' ∉ line)
    (more : Ended ls text) : Ended (line :: ls) (line ++ '\r' :: '\n' :: text)

/-- A line as it was written and as it is read. -/
def ReadAs (line read : List Char) : Prop := read = line ∨ line = read ++ ['\r']

theorem readAs_lineFeed {line : List Char} (free : '\n' ∉ line) (text : List Char) :
    ∃ read, ReadAs line read ∧ lines (line ++ '\n' :: text) = read :: lines text := by
  by_cases ending : ∃ front, line = front ++ ['\r']
  · obtain ⟨front, rfl⟩ := ending
    refine ⟨front, .inr rfl, ?_⟩
    rw [List.append_assoc, List.singleton_append,
      lines_both fun member => free (List.mem_append_left _ member)]
  · exact ⟨line, .inl rfl, lines_lineFeed free (fun front same => ending ⟨front, same⟩) text⟩

theorem Ended.read {ls : List (List Char)} {text : List Char} (ended : Ended ls text) :
    List.Forall₂ ReadAs ls (lines text) := by
  induction ended with
  | none => exact .nil
  | lineFeed line free _ ih =>
    obtain ⟨read, same, eq⟩ := readAs_lineFeed free _
    rw [eq]
    exact .cons same ih
  | both line free _ ih =>
    rw [lines_both free]
    exact .cons (.inl rfl) ih

theorem ReadAs.prefix {line read : List Char} (same : ReadAs line read) : read <+: line := by
  rcases same with rfl | rfl
  · exact List.prefix_rfl
  · exact List.prefix_append read ['\r']

/-- Only a line that ends in a carriage return is read as another. -/
theorem ReadAs.eq {line read : List Char} (same : ReadAs line read) (free : '\r' ∉ line) :
    read = line := by
  rcases same with rfl | rfl
  · rfl
  · exact absurd (by simp) free

/-! White space at the end. -/

/-- A text with no white space at its end. -/
def Solid (cs : List Char) : Prop := ∀ c, cs.getLast? = some c → isBlank c = false

theorem solid_cons {c : Char} {cs : List Char} (own : isBlank c = false) (solid : Solid cs) :
    Solid (c :: cs) := by
  intro d last
  rw [List.getLast?_cons, Option.some.injEq] at last
  subst last
  cases h : cs.getLast? with
  | none => exact own
  | some d => exact solid d h

theorem solid_append {cs : List Char} (filled : cs ≠ []) (solid : Solid cs) (front : List Char) :
    Solid (front ++ cs) := by
  intro c last
  rw [List.getLast?_append_of_ne_nil front filled] at last
  exact solid c last

theorem solid_of_all {cs : List Char} (all : ∀ c ∈ cs, isBlank c = false) : Solid cs :=
  fun c last => all c (List.mem_of_getLast? last)

theorem trimEnd_append {c : Char} (blank : isBlank c = true) (cs : List Char) :
    trimEnd (cs ++ [c]) = trimEnd cs :=
  List.rdropWhile_concat_pos isBlank cs c blank

theorem trimEnd_eq_self {cs : List Char} (solid : Solid cs) : trimEnd cs = cs := by
  refine List.rdropWhile_eq_self_iff.mpr fun filled => Bool.eq_false_iff.mp ?_
  exact solid _ (List.getLast?_eq_some_getLast filled)

theorem trim_eq_self {cs : List Char} (all : ∀ c ∈ cs, isBlank c = false) : trim cs = cs := by
  have start : trimStart cs = cs := by
    cases cs with
    | nil => rfl
    | cons c cs =>
      exact List.dropWhile_cons_of_neg (Bool.eq_false_iff.mp (all c List.mem_cons_self))
  rw [trim, start, trimEnd_eq_self (solid_of_all all)]

theorem isBlank_of_isDigit {c : Char} (digit : c.isDigit = true) : isBlank c = false := by
  have apart : ∀ range ∈ whiteSpace, range.2 < '0'.toNat ∨ '9'.toNat < range.1 := by decide
  obtain ⟨low, high⟩ := Char.isDigit_iff_toNat.mp digit
  rw [isBlank, RangeTable.covers, List.any_eq_false]
  intro range listed inside
  have outside := apart range listed
  rw [Bool.and_eq_true, decide_eq_true_eq, decide_eq_true_eq] at inside
  omega

theorem trimEnd_prefix (cs : List Char) : trimEnd cs <+: cs := List.rdropWhile_prefix isBlank cs

theorem ReadAs.trimEnd {line read : List Char} (same : ReadAs line read) :
    trimEnd read = trimEnd line := by
  rcases same with rfl | rfl
  · rfl
  · exact (trimEnd_append (by decide) read).symm

/-! Words. -/

/-- A line and its words, each as long as can be. -/
inductive Worded : List Char → List (List Char) → Prop
  | blank {gap : List Char} (blank : ∀ c ∈ gap, isBlank c = true) : Worded gap []
  | word {gap word text : List Char} {more : List (List Char)}
    (blank : ∀ c ∈ gap, isBlank c = true) (filled : word ≠ [])
    (solid : ∀ c ∈ word, isBlank c = false)
    (ends : ∀ c rest, text = c :: rest → isBlank c = true) (others : Worded text more) :
    Worded (gap ++ (word ++ text)) (word :: more)

theorem exists_worded (line : List Char) : ∃ ws, Worded line ws := by
  induction line with
  | nil => exact ⟨[], .blank (List.forall_mem_nil _)⟩
  | cons c line ih =>
    obtain ⟨ws, worded⟩ := ih
    cases blank : isBlank c with
    | true =>
      cases worded with
      | blank gap => exact ⟨[], .blank (List.forall_mem_cons.mpr ⟨blank, gap⟩)⟩
      | @word gap word text more gaps filled solid ends others =>
        have longer : ∀ d ∈ c :: gap, isBlank d = true := List.forall_mem_cons.mpr ⟨blank, gaps⟩
        exact ⟨_, @Worded.word (c :: gap) word text more longer filled solid ends others⟩
    | false =>
      -- The character begins a word of its own, unless the line goes on with a word.
      have single : ∀ d ∈ [c], isBlank d = false := List.forall_mem_singleton.mpr blank
      have begins : ∀ {gap rest : List Char}, (∀ d ∈ gap, isBlank d = true) → gap ≠ [] →
          ∀ d more, gap ++ rest = d :: more → isBlank d = true := by
        intro gap rest gaps filled d more same
        cases gap with
        | nil => exact absurd rfl filled
        | cons e gap => exact (List.cons.inj same).1 ▸ gaps e List.mem_cons_self
      cases worded with
      | blank gaps =>
        refine ⟨_, @Worded.word [] [c] line [] (List.forall_mem_nil _) (by simp) single ?_
          (.blank gaps)⟩
        exact fun d rest same => gaps d (same ▸ List.mem_cons_self)
      | @word gap word text more gaps filled solid ends others =>
        by_cases none : gap = []
        · subst none
          have longer : ∀ d ∈ c :: word, isBlank d = false :=
            List.forall_mem_cons.mpr ⟨blank, solid⟩
          exact ⟨_, @Worded.word [] (c :: word) text more (List.forall_mem_nil _)
            (List.cons_ne_nil c word) longer ends others⟩
        · exact ⟨_, @Worded.word [] [c] _ _ (List.forall_mem_nil _) (by simp) single
            (begins gaps none) (.word gaps filled solid ends others)⟩

/-- A line may be cut at any white space. -/
theorem words_append_cons {c : Char} (blank : isBlank c = true) (front text : List Char) :
    words (front ++ c :: text) = words front ++ words text := by
  rw [words, List.splitOnP_append_cons front text blank, List.filter_append, words, words]

theorem words_cons {c : Char} (blank : isBlank c = true) (text : List Char) :
    words (c :: text) = words text :=
  words_append_cons blank [] text

theorem words_gap {gap : List Char} (blank : ∀ c ∈ gap, isBlank c = true) (text : List Char) :
    words (gap ++ text) = words text := by
  induction gap with
  | nil => rfl
  | cons c gap ih =>
    obtain ⟨first, others⟩ := List.forall_mem_cons.mp blank
    rw [List.cons_append, words_cons first, ih others]

theorem words_word {word : List Char} (filled : word ≠ [])
    (solid : ∀ c ∈ word, isBlank c = false) : words word = [word] := by
  rw [words, List.splitOnP_eq_singleton solid]
  simp [filled]

theorem Worded.words_eq {line : List Char} {ws : List (List Char)} (worded : Worded line ws) :
    words line = ws := by
  induction worded with
  | @blank gap blank => rw [← List.append_nil gap, words_gap blank]; rfl
  | @word gap word text more blank filled solid ends _ ih =>
    rw [words_gap blank]
    cases text with
    | nil =>
      cases ih
      rw [List.append_nil, words_word filled solid]
      rfl
    | cons c text =>
      have gap := ends c text rfl
      rw [words_cons gap] at ih
      rw [words_append_cons gap, words_word filled solid, ih, List.singleton_append]

theorem words_eq_iff {line : List Char} {ws : List (List Char)} :
    words line = ws ↔ Worded line ws := by
  constructor
  · rintro rfl
    obtain ⟨ws, worded⟩ := exists_worded line
    exact worded.words_eq ▸ worded
  · exact Worded.words_eq

theorem not_mem_intercalate {separator : List Char} {ws : List (List Char)} {c : Char}
    (own : ∀ word ∈ ws, c ∉ word) (other : c ∉ separator) : c ∉ List.intercalate separator ws := by
  induction ws with
  | nil => exact List.not_mem_nil
  | cons word ws ih =>
    obtain ⟨first, more⟩ := List.forall_mem_cons.mp own
    cases ws with
    | nil => rwa [List.intercalate_singleton]
    | cons next ws =>
      rw [List.intercalate_cons_cons, List.mem_append, List.mem_append]
      rintro ((inside | inside) | inside)
      · exact first inside
      · exact other inside
      · exact ih more inside

/-- Words with a space between them are read as they are. -/
theorem words_intercalate {ws : List (List Char)}
    (printable : ∀ word ∈ ws, word ≠ [] ∧ ∀ c ∈ word, isBlank c = false) :
    words (List.intercalate [' '] ws) = ws := by
  induction ws with
  | nil => rfl
  | cons word ws ih =>
    obtain ⟨⟨filled, solid⟩, others⟩ := List.forall_mem_cons.mp printable
    cases ws with
    | nil => rw [List.intercalate_singleton, words_word filled solid]
    | cons next ws =>
      have blank : isBlank ' ' = true := by decide
      rw [List.intercalate_cons_cons, List.append_assoc, List.singleton_append,
        words_append_cons blank, words_word filled solid, ih others, List.singleton_append]

end PlanReferee.Text
