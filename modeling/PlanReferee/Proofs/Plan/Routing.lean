import PlanReferee.Proofs.Faults
import PlanReferee.Proofs.Plan.Reordering

/-! Where an action goes. The argument text of an `exec` has one route: to the agent that it names,
to nobody in particular, or nowhere, if its time is none. An action for nobody in particular goes to
the default agent, so that the plan is the same whether that agent is named or not. -/

namespace PlanReferee

open Text (Numeral)

/-- The time of an action, the agent if one is named, and the text of the action. -/
structure Route where
  time : Time
  agent? : Option Agent
  action : List Char

def Route.statement (route : Route) : Statement :=
  .exec route.time route.agent? (Action.read (String.ofList route.action))

/-- What follows the time of an action: an agent, wherever the text can be read so, and the rest;
otherwise all of it is the action. -/
def Addresses (text : List Char) : Option Agent → List Char → Prop
  | some agent, action => NamesAgent text agent action
  | none, action => action = text ∧ ∀ agent rest, ¬ NamesAgent text agent rest

/-- How the arguments of an `exec` are routed. Nowhere go only those that do not begin with a numeral
and a comma, and those whose numeral is too large for a time. -/
def Fact.Routed (fact : Fact) : Option Route → Prop
  | some route => ∃ ds text, fact.args.toList = ds ++ ',' :: text ∧ Numeral ds route.time.toNat ∧
      Addresses text route.agent? route.action
  | none => ∀ ds text n, fact.args.toList = ds ++ ',' :: text → Numeral ds n → UInt32.size ≤ n

theorem NamesAgent.unique {text action action' : List Char} {agent agent' : Agent}
    (h : NamesAgent text agent action) (h' : NamesAgent text agent' action') :
    agent = agent' ∧ action = action' := by
  have other : Text.isWordChar ',' = false := by decide +kernel
  obtain ⟨same, rest⟩ := Text.cut_unique h.1 h'.1 (Text.not_mem_word h.2.2 other)
    (Text.not_mem_word h'.2.2 other)
  cases agent
  cases agent'
  exact ⟨congrArg Agent.mk (String.toList_inj.mp same), rest⟩

theorem Addresses.unique {text action action' : List Char} {agent? agent?' : Option Agent}
    (h : Addresses text agent? action) (h' : Addresses text agent?' action') :
    agent? = agent?' ∧ action = action' := by
  cases agent? with
  | none =>
    cases agent?' with
    | none => exact ⟨rfl, h.1.trans h'.1.symm⟩
    | some agent' => exact absurd h' (h.2 agent' action')
  | some agent =>
    cases agent?' with
    | none => exact absurd h (h'.2 agent action)
    | some agent' =>
      obtain ⟨rfl, same⟩ := NamesAgent.unique h h'
      exact ⟨rfl, same⟩

theorem exists_addresses (text : List Char) : ∃ agent? action, Addresses text agent? action := by
  by_cases named : ∃ agent action, NamesAgent text agent action
  · obtain ⟨agent, action, names⟩ := named
    exact ⟨some agent, action, names⟩
  · exact ⟨none, text, rfl, fun agent action names => named ⟨agent, action, names⟩⟩

namespace Fact

theorem not_routed_none {fact : Fact} {ds text : List Char} {t : Time}
    (split : fact.args.toList = ds ++ ',' :: text) (numeral : Numeral ds t.toNat) :
    ¬ fact.Routed none := by
  intro unread
  exact Nat.not_le_of_lt t.toNat_lt (unread ds text t.toNat split numeral)

theorem Routed.unique {fact : Fact} {route? route?' : Option Route} (h : fact.Routed route?)
    (h' : fact.Routed route?') : route? = route?' := by
  cases route? with
  | none =>
    cases route?' with
    | none => rfl
    | some route' =>
      obtain ⟨ds, text, split, numeral, _⟩ := h'
      exact absurd h (not_routed_none split numeral)
  | some route =>
    obtain ⟨ds, text, split, numeral, addresses⟩ := h
    cases route?' with
    | none => exact absurd h' (not_routed_none split numeral)
    | some route' =>
      obtain ⟨ds', text', split', numeral', addresses'⟩ := h'
      obtain ⟨rfl, rfl⟩ := Text.cut_unique split split' (Text.not_mem_numeral numeral rfl)
        (Text.not_mem_numeral numeral' rfl)
      have time := Text.numeral_unique numeral numeral'
      obtain ⟨agent, action⟩ := addresses.unique addresses'
      cases route
      cases route'
      cases UInt32.toNat_inj.mp time
      cases agent
      cases action
      rfl

theorem exists_routed (fact : Fact) : ∃ route?, fact.Routed route? := by
  by_cases timed : ∃ ds text n, fact.args.toList = ds ++ ',' :: text ∧ Numeral ds n ∧
      n < UInt32.size
  · obtain ⟨ds, text, n, split, numeral, small⟩ := timed
    obtain ⟨agent?, action, addresses⟩ := exists_addresses text
    have value : (UInt32.ofNat n).toNat = n := UInt32.toNat_ofNat_of_lt' small
    exact ⟨some ⟨UInt32.ofNat n, agent?, action⟩, ds, text, split, value.symm ▸ numeral, addresses⟩
  · refine ⟨none, fun ds text n split numeral => ?_⟩
    by_contra small
    exact timed ⟨ds, text, n, split, numeral, Nat.lt_of_not_le small⟩

/-- A fact named `exec` that says anything has a time. -/
theorem timed_of_exec {fact : Fact} (named : fact.name = "exec") {said : Statement}
    (h : fact.Says said) : ∃ t text, Timed fact "exec" t text := by
  cases said with
  | exec t agent? action =>
    cases agent? with
    | none =>
      obtain ⟨text, timed, _⟩ := h
      exact ⟨t, text, timed⟩
    | some agent =>
      obtain ⟨text, _, timed, _⟩ := h
      exact ⟨t, text, timed⟩
  | _ => simp [Says, Timed, named] at h

theorem Routed.read? {fact : Fact} (named : fact.name = "exec") {route? : Option Route}
    (h : fact.Routed route?) : Statement.lexicon.read? fact = route?.map Route.statement := by
  cases route? with
  | none =>
    rw [Option.map_none, Option.eq_none_iff_forall_ne_some]
    intro said read
    obtain ⟨t, text, _, ds, split, numeral⟩ :=
      timed_of_exec named ((Statement.read?_eq_some_iff fact said).mp read)
    exact not_routed_none split numeral h
  | some route =>
    obtain ⟨ds, text, split, numeral, addresses⟩ := h
    have timed : Timed fact "exec" route.time text := ⟨named, ds, split, numeral⟩
    refine (Statement.read?_eq_some_iff fact _).mpr ?_
    obtain ⟨t, _ | agent, action⟩ := route
    · obtain ⟨rfl, nobody⟩ := addresses
      exact ⟨action, timed, nobody, rfl⟩
    · exact ⟨text, action, timed, addresses, rfl⟩

end Fact

/-! Actions for nobody in particular. -/

namespace Statement

/-- The statement with the default agent named where nobody is. -/
def addressed : Statement → Statement
  | .exec t none action => .exec t (some .default) action
  | said => said

/-- What does not tell an action for the default agent from one for nobody is the same in lists of
statements that are the same when addressed. -/
theorem filterMap_addressed {α : Type} (pick : Statement → Option α)
    (blind : ∀ t action, pick (.exec t (some .default) action) = pick (.exec t none action))
    {said other : List Statement} (same : said.map addressed = other.map addressed) :
    said.filterMap pick = other.filterMap pick := by
  have picked : pick ∘ addressed = pick := by
    funext said
    cases said with
    | exec t agent? action =>
      cases agent? with
      | none => exact blind t action
      | some agent => rfl
    | _ => rfl
  have along := congrArg (List.filterMap pick) same
  rwa [List.filterMap_map, List.filterMap_map, picked] at along

theorem addressed_eq_exec {said : Statement} {t : Time} {agent : Agent} {action : Action}
    (h : said.addressed = .exec t (some agent) action) :
    said = .exec t (some agent) action ∨ agent = .default := by
  cases said with
  | exec s agent? action' =>
    cases agent? with
    | none =>
      cases h
      exact .inr rfl
    | some other => exact .inl h
  | _ => exact .inl h

end Statement

namespace Plan

open Statement (addressed filterMap_addressed)

theorem roster_addressed {said other : List Statement}
    (same : said.map addressed = other.map addressed) : roster said = roster other := by
  unfold roster
  rw [filterMap_addressed Statement.agent? (fun _ _ => rfl) same]

theorem outline_addressed {said other : List Statement}
    (same : said.map addressed = other.map addressed) : outline said = outline other := by
  have times := filterMap_addressed Statement.time? (fun _ _ => rfl) same
  have orders := filterMap_addressed Statement.order? (fun _ _ => rfl) same
  have fluents := filterMap_addressed Statement.fluent? (fun _ _ => rfl) same
  have dropped := filterMap_addressed Statement.droppedFluent? (fun _ _ => rfl) same
  have schemas := filterMap_addressed Statement.actionSchema? (fun _ _ => rfl) same
  have starts := filterMap_addressed Statement.start? (fun _ _ => rfl) same
  have goals := filterMap_addressed Statement.goal? (fun _ _ => rfl) same
  simp only [outline, roster_addressed same, times, orders, fluents, dropped, schemas, starts, goals]

/-- Two lists of facts say the same, but that one may name the default agent for an action that the
other gives to nobody. -/
def SameAddressed (facts other : List Fact) : Prop :=
  ((readings facts).map (·.2)).map addressed = ((readings other).map (·.2)).map addressed

theorem SameAddressed.cons {fact fact' : Fact} {facts other : List Fact}
    (first : (Statement.lexicon.read? fact).map addressed =
      (Statement.lexicon.read? fact').map addressed)
    (rest : SameAddressed facts other) : SameAddressed (fact :: facts) (fact' :: other) := by
  have step : ∀ (fact : Fact) (facts : List Fact),
      ((readings (fact :: facts)).map (·.2)).map addressed =
        ((Statement.lexicon.read? fact).map addressed).toList ++
          ((readings facts).map (·.2)).map addressed := by
    intro fact facts
    rw [readings, List.filterMap_cons]
    cases Statement.lexicon.read? fact <;> rfl
  rw [SameAddressed, step, step, first, rest]

variable {facts other : List Fact}

theorem holds_addressed (same : SameAddressed facts other) :
    (assemble (readings facts)).plan.holds = (assemble (readings other)).plan.holds := by
  have holds : ∀ facts, (assemble (readings facts)).plan.holds =
      (((readings facts).filter fun reading =>
        (late? (outline ((readings facts).map (·.2))).endTime reading).isNone).filterMap
          fun reading => reading.2.holding?).foldl record ∅ := fun _ => rfl
  have said_iff : ∀ t literal,
      Said facts (.holds t literal) ↔ Said other (.holds t literal) := by
    intro t literal
    have inverse : ∀ (said : Statement) (held : Time × String),
        said.holding? = some held ↔ said = .holds held.1 held.2 :=
      fun said held => holding?_inverse said held.1 held.2
    rw [← mem_filterMap_said inverse facts (t, literal),
      ← mem_filterMap_said inverse other (t, literal),
      filterMap_addressed _ (fun _ _ => rfl) same]
  rw [holds, holds, outline_addressed same]
  refine records_congr ?_
  rintro ⟨t, literal⟩
  rw [mem_kept_holding, mem_kept_holding, said_iff]

theorem plan_addressed (same : SameAddressed facts other) :
    (assemble (readings facts)).plan = (assemble (readings other)).plan := by
  have outlined : ∀ facts, (assemble (readings facts)).plan =
      { outline ((readings facts).map (·.2)) with
        holds := (assemble (readings facts)).plan.holds } := fun _ => rfl
  rw [outlined facts, outlined other, outline_addressed same, holds_addressed same]

/-- An agent that the other facts name for an action is named here as well, or is the default one. -/
theorem named_addressed (same : SameAddressed facts other) {t : Time} {agent : Agent}
    {action : Action} (said : Said other (.exec t (some agent) action)) :
    Said facts (.exec t (some agent) action) ∨ agent = .default := by
  have there : Statement.exec t (some agent) action ∈
      ((readings other).map (·.2)).map addressed :=
    List.mem_map.mpr ⟨_, (mem_said other _).mpr said, rfl⟩
  rw [← same] at there
  obtain ⟨said, here, named⟩ := List.mem_map.mp there
  rcases Statement.addressed_eq_exec named with rfl | rfl
  · exact .inl ((mem_said facts _).mp here)
  · exact .inr rfl

/-- Where the default agent is on the roster, a plan that can be built without naming it can also be
built with it named, and is the same. -/
theorem build_addressed (same : SameAddressed facts other)
    (rostered : Agent.default ∈ (roster ((readings facts).map (·.2))).1) {built : Built}
    (ok : build facts = .ok built) : ∃ built', build other = .ok built' ∧
      built'.plan = built.plan := by
  obtain ⟨known, goals, rfl⟩ := build_eq_ok ok
  rw [filterMap_addressed _ (fun _ _ => rfl) same] at goals
  rcases build_cases other with ⟨⟨fact, said⟩, member, agent, raw, strange, _⟩ | ⟨_, ended⟩
  · exfalso
    rw [← roster_addressed same] at strange
    obtain ⟨t, stranger, action, rfl, absent, _⟩ := (stranger?_eq_some_iff _ fact said _).mp strange
    obtain ⟨member, stated⟩ := (mem_readings other fact _).mp member
    rcases named_addressed same ⟨fact, member, stated⟩ with said | rfl
    · exact absent (rostered_of_known known said)
    · exact absent rostered
  · rw [if_neg goals] at ended
    exact ⟨_, ended, (plan_addressed same).symm⟩

theorem default_rostered (undeclared : ∀ fact ∈ facts, fact.name ≠ "agent") :
    Agent.default ∈ (roster ((readings facts).map (·.2))).1 := by
  refine (mem_roster _ _).mpr (.inr ⟨rfl, ?_⟩)
  rw [List.eq_nil_iff_forall_not_mem]
  intro agent member
  obtain ⟨fact, present, declares⟩ := (mem_filterMap_said agent?_inverse facts agent).mp member
  exact undeclared fact present declares.1

end Plan

/-! Solutions in which the default agent is named for some actions. -/

/-- A text, or that text with the default agent put in for an action that names nobody. -/
inductive Readdressed : String → String → Prop
  | kept (raw : String) : Readdressed raw raw
  | named (ds action : String) (free : ',' ∉ ds.toList)
    (nobody : ∀ agent rest, ¬ NamesAgent action.toList agent rest) :
    Readdressed ("exec(" ++ (ds ++ "," ++ action) ++ ")")
      ("exec(" ++ (ds ++ ",defaultAgent," ++ action) ++ ")")

theorem read?_exec_text {args : String} (plain : '\n' ∉ args.toList) :
    Fact.read? ("exec(" ++ args ++ ")") = some ⟨"exec(" ++ args ++ ")", "exec", args⟩ := by
  have filled : "exec" ≠ "" := by decide
  have letters : "exec".toList.all Text.isNameChar = true := by decide +kernel
  exact (read?_eq_some_iff_hasShape _ _).mpr
    ⟨rfl, rfl, filled, List.all_eq_true.mp letters, plain⟩

/-- Where what stands before the first comma is no word, no agent is named. -/
theorem names_nobody {text : List Char}
    (other : (Text.cut? ',' text).all fun cut => !Slot.word.accepts cut.1) (agent : Agent)
    (rest : List Char) : ¬ NamesAgent text agent rest := by
  rintro ⟨split, letters⟩
  have free : ',' ∉ agent.name.toList := Text.not_mem_word letters.2 (by decide +kernel)
  rw [(Text.cut?_eq_some_iff ',' text _ _).mpr ⟨split, free⟩] at other
  simp [(Text.accepts_word_iff _).mpr letters] at other

theorem names_default (action : List Char) :
    NamesAgent ("defaultAgent".toList ++ ',' :: action) .default action := by
  have word : Slot.word.accepts "defaultAgent".toList = true := by decide +kernel
  exact ⟨rfl, (Text.accepts_word_iff _).mp word⟩

/-- Naming the default agent keeps the time and the action, and makes no time of what is none. -/
theorem addressed_read? {ds action : String} (free : ',' ∉ ds.toList)
    (nobody : ∀ agent rest, ¬ NamesAgent action.toList agent rest) (raw raw' : String) :
    (Statement.lexicon.read? ⟨raw, "exec", ds ++ "," ++ action⟩).map Statement.addressed =
      (Statement.lexicon.read? ⟨raw', "exec", ds ++ ",defaultAgent," ++ action⟩).map
        Statement.addressed := by
  have args : (ds ++ "," ++ action).toList = ds.toList ++ ',' :: action.toList := by simp
  have args' : (ds ++ ",defaultAgent," ++ action).toList =
      ds.toList ++ ',' :: ("defaultAgent".toList ++ ',' :: action.toList) := by simp
  obtain ⟨route?, routed⟩ := Fact.exists_routed ⟨raw, "exec", ds ++ "," ++ action⟩
  rw [routed.read? rfl]
  cases route? with
  | none =>
    have routed' : Fact.Routed ⟨raw', "exec", ds ++ ",defaultAgent," ++ action⟩ none := by
      intro ds' text n split numeral
      obtain ⟨rfl, _⟩ := Text.cut_unique args' split free (Text.not_mem_numeral numeral rfl)
      exact routed ds.toList action.toList n args numeral
    rw [routed'.read? rfl]
  | some route =>
    obtain ⟨t, agent?, text⟩ := route
    obtain ⟨ds', text', split, numeral, addresses⟩ := routed
    obtain ⟨rfl, rfl⟩ := Text.cut_unique args split free (Text.not_mem_numeral numeral rfl)
    cases agent? with
    | some agent => exact absurd addresses (nobody agent text)
    | none =>
      obtain ⟨rfl, _⟩ := addresses
      have routed' : Fact.Routed ⟨raw', "exec", ds ++ ",defaultAgent," ++ action⟩
          (some ⟨t, some .default, action.toList⟩) :=
        ⟨ds.toList, _, args', numeral, names_default action.toList⟩
      rw [routed'.read? rfl]
      rfl

theorem Readdressed.read? {raw raw' : String} (h : Readdressed raw raw') {fact : Fact}
    (read : Fact.read? raw = some fact) : ∃ fact', Fact.read? raw' = some fact' ∧
      (Statement.lexicon.read? fact).map Statement.addressed =
        (Statement.lexicon.read? fact').map Statement.addressed := by
  cases h with
  | kept => exact ⟨fact, read, rfl⟩
  | named ds action free nobody =>
    have plain := ((read?_eq_some_iff_hasShape _ fact).mp read).2.free_of_newline
    simp only [String.toList_append, List.mem_append, not_or] at plain
    obtain ⟨⟨_, ⟨time, _⟩, rest⟩, _⟩ := plain
    have before : '\n' ∉ (ds ++ "," ++ action).toList := by simp [time, rest]
    have after : '\n' ∉ (ds ++ ",defaultAgent," ++ action).toList := by simp [time, rest]
    rw [read?_exec_text before] at read
    cases read
    exact ⟨_, read?_exec_text after, addressed_read? free nobody _ _⟩

theorem readAll_readdressed {solution other : List String}
    (h : List.Forall₂ Readdressed solution other) {facts : List Fact}
    (read : Fact.readAll solution = .ok facts) :
    ∃ facts', Fact.readAll other = .ok facts' ∧ Plan.SameAddressed facts facts' := by
  induction h generalizing facts with
  | nil => exact ⟨facts, read, rfl⟩
  | cons first _ ih =>
    obtain ⟨fact, rest, readFirst, readRest, rfl⟩ := (Fact.readAll_cons_eq_ok _ _ facts).mp read
    obtain ⟨fact', readFirst', same⟩ := first.read? readFirst
    obtain ⟨rest', readRest', sameRest⟩ := ih readRest
    exact ⟨fact' :: rest', (Fact.readAll_cons_eq_ok _ _ _).mpr ⟨fact', rest', readFirst', readRest', rfl⟩,
      sameRest.cons same⟩

/-- The arguments of an `exec` have just one route, and the fact is read that way. Where no agent is
declared, the plan stays the same when the default agent is put in for actions that name nobody. -/
theorem exec_routed :
    (∀ fact : Fact, fact.name = "exec" → (∃! route?, fact.Routed route?) ∧
      ∀ route?, fact.Routed route? →
        Statement.lexicon.read? fact = route?.map Route.statement) ∧
    ∀ (solution other : List String) (facts : List Fact) (built : Built),
      Fact.readAll solution = .ok facts → (∀ fact ∈ facts, fact.name ≠ "agent") →
      Plan.build facts = .ok built → List.Forall₂ Readdressed solution other →
      ∃ facts' built', Fact.readAll other = .ok facts' ∧ Plan.build facts' = .ok built' ∧
        built'.plan = built.plan := by
  refine ⟨fun fact named => ⟨?_, fun route? routed => routed.read? named⟩, ?_⟩
  · obtain ⟨route?, routed⟩ := fact.exists_routed
    exact ⟨route?, routed, fun other routed' => routed'.unique routed⟩
  · intro solution other facts built read undeclared ok readdressed
    obtain ⟨facts', read', same⟩ := readAll_readdressed readdressed read
    obtain ⟨built', ok', plan⟩ :=
      Plan.build_addressed same (Plan.default_rostered undeclared) ok
    exact ⟨facts', built', read', ok', plan⟩

/-- An action whose time has leading zeros, and one whose time is one too large to be any. -/
def unaddressed : List String :=
  ["goal(done)", "exec(007,move(a,b))", "exec(4294967296,wait)", "exec(7,wait)"]

def readdressed : List String :=
  ["goal(done)", "exec(007,defaultAgent,move(a,b))", "exec(4294967296,defaultAgent,wait)",
    "exec(7,wait)"]

def unaddressedFacts : List Fact :=
  [⟨"goal(done)", "goal", "done"⟩, ⟨"exec(007,move(a,b))", "exec", "007,move(a,b)"⟩,
    ⟨"exec(4294967296,wait)", "exec", "4294967296,wait"⟩, ⟨"exec(7,wait)", "exec", "7,wait"⟩]

theorem unaddressed_readdressed : List.Forall₂ Readdressed unaddressed readdressed := by
  refine .cons (.kept _) (.cons ?_ (.cons ?_ (.cons (.kept _) .nil)))
  · exact .named "007" "move(a,b)" (by decide) (names_nobody (by decide +kernel))
  · exact .named "4294967296" "wait" (by decide) (names_nobody (by decide +kernel))

theorem exec_routed_move :
    Statement.lexicon.read? ⟨"exec(007,move(a,b))", "exec", "007,move(a,b)"⟩ =
      some (.exec 7 none ⟨"move", "a,b"⟩) ∧
    Fact.readAll unaddressed = .ok unaddressedFacts ∧
    (∀ fact ∈ unaddressedFacts, fact.name ≠ "agent") ∧
    List.Forall₂ Readdressed unaddressed readdressed ∧
    ∃ built, Plan.build unaddressedFacts = .ok built ∧
      ∃ facts' built', Fact.readAll readdressed = .ok facts' ∧ Plan.build facts' = .ok built' ∧
        built'.plan = built.plan := by
  have routed : Fact.Routed ⟨"exec(007,move(a,b))", "exec", "007,move(a,b)"⟩
      (some ⟨7, none, "move(a,b)".toList⟩) :=
    ⟨"007".toList, _, by decide, (Text.digits?_eq_some_iff _ 7).mp (by decide), rfl,
      names_nobody (by decide +kernel)⟩
  have action : Action.read (String.ofList "move(a,b)".toList) = ⟨"move", "a,b"⟩ := by
    decide +kernel
  have read : Fact.readAll unaddressed = .ok unaddressedFacts := by decide +kernel
  have undeclared : ∀ fact ∈ unaddressedFacts, fact.name ≠ "agent" := by decide
  have possible : (Plan.build unaddressedFacts).isOk = true := by decide +kernel
  refine ⟨?_, read, undeclared, unaddressed_readdressed, ?_⟩
  · rw [(exec_routed.1 _ rfl).2 _ routed, Option.map_some, Route.statement, action]
  · cases ok : Plan.build unaddressedFacts with
    | error fault =>
      rw [ok] at possible
      cases possible
    | ok built =>
      exact ⟨built, rfl, exec_routed.2 _ _ _ built read undeclared ok unaddressed_readdressed⟩

end PlanReferee
