import PlanReferee.Plan.Statement
import PlanReferee.Proofs.Grammar

/-! What the facts of a plan say, as a relation between a fact and a statement. The lexicon reads
just what a fact says, and a fact says one thing at most. -/

namespace PlanReferee

open Text (Numeral)

/-- The text of an action that follows a named agent: a word, a comma and the rest. -/
def NamesAgent (text : List Char) (agent : Agent) (action : List Char) : Prop :=
  text = agent.name.toList ++ ',' :: action ∧ agent.name.toList ≠ [] ∧
    ∀ c ∈ agent.name.toList, Text.isWordChar c = true

/-- A fact `name(t,text)` whose first argument is a numeral for a time. -/
def Timed (fact : Fact) (name : String) (t : Time) (text : List Char) : Prop :=
  fact.name = name ∧ ∃ ds, fact.args.toList = ds ++ ',' :: text ∧ Numeral ds t.toNat

/-- What a fact says. An action is for a named agent where the text allows it, and for the default
agent only where it does not. -/
def Fact.Says (fact : Fact) : Statement → Prop
  | .agent agent => fact.name = "agent" ∧ agent.name = fact.args
  | .time t => fact.name = "time" ∧ Numeral fact.args.toList t.toNat
  | .fluent literal => fact.name = "fluent" ∧ literal = fact.args
  | .droppedFluent literal => fact.name = "fluent_dropped" ∧ literal = fact.args
  | .actionSchema schema => fact.name = "action" ∧ schema = fact.args
  | .condition => fact.name ∈ ["action_ppre", "action_npre", "action_add", "action_del"]
  | .start literal => fact.name = "start" ∧ literal = fact.args
  | .goal literal => fact.name = "goal" ∧ literal = fact.args
  | .exec t (some agent) action => ∃ text rest, Timed fact "exec" t text ∧
      NamesAgent text agent rest ∧ action = Action.read (String.ofList rest)
  | .exec t none action => ∃ text, Timed fact "exec" t text ∧
      (∀ agent rest, ¬ NamesAgent text agent rest) ∧ action = Action.read (String.ofList text)
  | .holds t literal => Timed fact "holds" t literal.toList

namespace Statement

theorem read?_timed (name : String) (make : Time → String → Statement) (fact : Fact)
    (said : Statement) : (timed name make).read? fact = some said ↔
      ∃ t text, Timed fact name t text ∧ said = make t (String.ofList text) := by
  simp only [Entry.read?_eq_some_iff, timed, splitArgs?_cons, splitArgs?_singleton, Timed]
  constructor
  · rintro ⟨named, _, ⟨ds, text, _, split, _, digits, ⟨_, rfl⟩, rfl⟩, h⟩
    obtain ⟨t, ht, rfl⟩ := Option.map_eq_some_iff.mp h
    rw [String.toList_ofList] at ht
    exact ⟨t, text, ⟨named, ds, split, (Text.readUInt32?_numeral digits t).mp ht⟩, rfl⟩
  · rintro ⟨t, text, ⟨named, ds, split, numeral⟩, rfl⟩
    have digits := (Text.accepts_digits_iff ds).mpr ⟨_, numeral⟩
    have comma := Text.not_mem_numeral numeral (c := ',') rfl
    refine ⟨named, _, ⟨ds, text, _, split, comma, digits, ⟨rfl, rfl⟩, rfl⟩,
      Option.map_eq_some_iff.mpr ⟨t, ?_, rfl⟩⟩
    rw [String.toList_ofList]
    exact (Text.readUInt32?_numeral digits t).mpr numeral

/-- The entry for an action of a named agent. -/
def execNamed : Entry Statement where
  name := "exec"
  slots := [.digits, .word, .any]
  record?
    | [t, name, action] =>
      (Text.readUInt32? t.toList).map fun t => .exec t (some ⟨name⟩) (Action.read action)
    | _ => none

theorem read?_execNamed (fact : Fact) (said : Statement) :
    execNamed.read? fact = some said ↔ ∃ t text agent rest, Timed fact "exec" t text ∧
      NamesAgent text agent rest ∧
        said = .exec t (some agent) (Action.read (String.ofList rest)) := by
  simp only [Entry.read?_eq_some_iff, execNamed, splitArgs?_cons, splitArgs?_singleton, Timed,
    NamesAgent, Text.accepts_word_iff]
  constructor
  · rintro ⟨named, _, ⟨ds, text, _, split, _, digits,
      ⟨word, rest, _, cut, _, letters, ⟨_, rfl⟩, rfl⟩, rfl⟩, h⟩
    obtain ⟨t, ht, rfl⟩ := Option.map_eq_some_iff.mp h
    rw [String.toList_ofList] at ht
    refine ⟨t, text, ⟨String.ofList word⟩, rest,
      ⟨named, ds, split, (Text.readUInt32?_numeral digits t).mp ht⟩, ?_, rfl⟩
    simp only [String.toList_ofList]
    exact ⟨cut, letters⟩
  · rintro ⟨t, text, ⟨name⟩, rest, ⟨named, ds, split, numeral⟩, ⟨cut, letters⟩, rfl⟩
    have digits := (Text.accepts_digits_iff ds).mpr ⟨_, numeral⟩
    have plain : ',' ∉ name.toList := Text.not_mem_word letters.2 (by decide +kernel)
    have comma := Text.not_mem_numeral numeral (c := ',') rfl
    refine ⟨named, _, ⟨ds, text, _, split, comma, digits,
      ⟨name.toList, rest, _, cut, plain, letters, ⟨rfl, rfl⟩, rfl⟩, rfl⟩, ?_⟩
    simp only [List.map_cons, List.map_nil, String.toList_ofList, String.ofList_toList,
      (Text.readUInt32?_numeral digits t).mpr numeral, Option.map_some]

/-- The statements on all but actions have an entry of their own for each name. -/
def plainLexicon : Lexicon Statement := lexicon.filter fun entry => entry.name ≠ "exec"

theorem read?_plain (fact : Fact) (other : fact.name ≠ "exec") (said : Statement) :
    lexicon.read? fact = some said ↔ ∃ entry ∈ plainLexicon, entry.read? fact = some said := by
  have distinct : (plainLexicon.map Entry.name).Nodup := by decide +kernel
  have same : Lexicon.read? plainLexicon fact = lexicon.read? fact := by
    rw [← Lexicon.read?_filter lexicon, ← Lexicon.read?_filter plainLexicon, plainLexicon,
      List.filter_filter]
    congr 1
    refine List.filter_congr fun entry _ => ?_
    by_cases h : fact.name = entry.name
    · simp [h ▸ other]
    · simp [h]
  rw [← same, Lexicon.read?_eq_some_iff distinct]

theorem read?_exec (fact : Fact) (named : fact.name = "exec") :
    lexicon.read? fact = (execNamed.read? fact).or
      ((timed "exec" fun t action => .exec t none (Action.read action)).read? fact) := by
  have entries : (lexicon.filter fun entry => "exec" = entry.name) =
      [execNamed, timed "exec" fun t action => .exec t none (Action.read action)] := rfl
  rw [← Lexicon.read?_filter lexicon, named, entries, Lexicon.read?, List.findSome?_cons,
    List.findSome?_cons]
  cases execNamed.read? fact with
  | some said => rfl
  | none => cases (timed "exec" _).read? fact <;> rfl

theorem read?_plain_iff (fact : Fact) (other : fact.name ≠ "exec") (said : Statement) :
    (∃ entry ∈ plainLexicon, entry.read? fact = some said) ↔ fact.Says said := by
  have entries : plainLexicon = [.unary "agent" fun name => .agent ⟨name⟩,
      .unaryNumber "time" .time, .unary "fluent" .fluent, .unary "fluent_dropped" .droppedFluent,
      .unary "action" .actionSchema, .unary "action_ppre" fun _ => .condition,
      .unary "action_npre" fun _ => .condition, .unary "action_add" fun _ => .condition,
      .unary "action_del" fun _ => .condition, .unary "start" .start, .unary "goal" .goal,
      timed "holds" .holds] := rfl
  rw [entries]
  simp only [List.mem_cons, exists_eq_or_imp, List.not_mem_nil, or_false, exists_eq_left,
    Entry.read?_unary, Entry.read?_unaryNumber, read?_timed]
  cases said with
  | agent agent =>
    cases agent
    simp [Fact.Says]
  | exec t agent? action =>
    cases agent? <;> simp [Fact.Says, Timed, other]
  | holds t literal =>
    simp only [reduceCtorEq, and_false, exists_false, false_or, holds.injEq, Fact.Says]
    constructor
    · rintro ⟨_, text, timed, rfl, rfl⟩
      rwa [String.toList_ofList]
    · intro timed
      exact ⟨t, literal.toList, timed, rfl, String.ofList_toList.symm⟩
  | _ => simp [Fact.Says]

theorem timed_unique {fact : Fact} {name : String} {t t' : Time} {text text' : List Char}
    (h : Timed fact name t text) (h' : Timed fact name t' text') : t = t' ∧ text = text' := by
  obtain ⟨_, ds, split, numeral⟩ := h
  obtain ⟨_, ds', split', numeral'⟩ := h'
  obtain ⟨rfl, rfl⟩ := Text.cut_unique split split' (Text.not_mem_numeral numeral rfl)
    (Text.not_mem_numeral numeral' rfl)
  exact ⟨UInt32.toNat_inj.mp (Text.numeral_unique numeral numeral'), rfl⟩

theorem read?_exec_iff (fact : Fact) (named : fact.name = "exec") (said : Statement) :
    (execNamed.read? fact).or
      ((timed "exec" fun t action => .exec t none (Action.read action)).read? fact) = some said ↔
      fact.Says said := by
  have quiet : execNamed.read? fact = none ↔
      ∀ t text agent rest, Timed fact "exec" t text → ¬ NamesAgent text agent rest := by
    rw [Option.eq_none_iff_forall_ne_some]
    constructor
    · intro h t text agent rest timed names
      exact h _ ((read?_execNamed fact _).mpr ⟨t, text, agent, rest, timed, names, rfl⟩)
    · intro h said hread
      obtain ⟨t, text, agent, rest, timed, names, _⟩ := (read?_execNamed fact said).mp hread
      exact h t text agent rest timed names
  -- The entry for the default agent comes second, and its reading counts only without the first.
  rw [Option.or_eq_some_iff, quiet, read?_execNamed, read?_timed]
  cases said with
  | exec t agent? action =>
    cases agent? with
    | none =>
      constructor
      · rintro (⟨_, _, _, _, _, _, h⟩ | ⟨alone, _, text, timed, h⟩)
        · cases h
        · cases h
          exact ⟨text, timed, fun agent rest => alone t text agent rest timed, rfl⟩
      · rintro ⟨text, timed, alone, rfl⟩
        refine .inr ⟨?_, t, text, timed, rfl⟩
        intro t' text' agent rest timed'
        rw [← (timed_unique timed timed').2]
        exact alone agent rest
    | some agent =>
      constructor
      · rintro (⟨_, text, _, rest, timed, names, h⟩ | ⟨_, _, _, _, h⟩)
        · cases h
          exact ⟨text, rest, timed, names, rfl⟩
        · cases h
      · rintro ⟨text, rest, timed, names, rfl⟩
        exact .inl ⟨t, text, agent, rest, timed, names, rfl⟩
  | _ => simp [Fact.Says, Timed, named]

theorem read?_eq_some_iff (fact : Fact) (said : Statement) :
    lexicon.read? fact = some said ↔ fact.Says said := by
  by_cases named : fact.name = "exec"
  · rw [read?_exec fact named, read?_exec_iff fact named]
  · rw [read?_plain fact named, read?_plain_iff fact named]

theorem said_unique {fact : Fact} {said said' : Statement} (h : fact.Says said)
    (h' : fact.Says said') : said = said' := by
  rw [← read?_eq_some_iff] at h h'
  exact Option.some.inj (h.symm.trans h')

end Statement

end PlanReferee
