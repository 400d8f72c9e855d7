import RuleTree.Proofs.FaithfulEvaluation
import RuleTree.Proofs.ScalarSearch

/-!
# The three searches

One can ask whether a key has matches in a collection, for its first match and for all of
them. The three searches evaluate the key and the collection alike and then search alike;
they differ in what they make of what was found. So they fail together, and otherwise each
can be told from the others: there are matches where the list of all is there, and the
first match is the first of the list.

A match may be nil itself, for the values of a map need not be scalars and may be nil. The
first match is then nil although there is one, and only the other two searches tell.
-/

namespace RuleTree

/-! ## Matches -/

namespace Value

/-- A value is a match of a key in a collection: an item of a list whose type may hold the
key and that has the natural string of the key, or one of the values that a map holds under
the natural string of the key. -/
inductive IsMatch (key value : Value) : Value → Prop
  | item (unit : Signature) (items : List Value) (needle : String)
      (written : key.naturalString = .ok (some needle)) (member : value ∈ items)
      (hit : value.isHitBy key needle = true) : IsMatch key value (.list unit items)
  | entry (unit : Signature) (entries : List (String × List Value)) (needle : String)
      (written : key.naturalString = .ok (some needle)) (values : List Value)
      (held : entries.lookup needle = some values) (member : value ∈ values) :
      IsMatch key value (.map unit entries)

variable {collection key value : Value} {found : List Value} {needle : String}
  {unit : Signature}

/-- A key without a natural string has no matches. -/
theorem not_isMatch (absent : key.naturalString = .ok none) : ¬IsMatch key value collection := by
  intro isMatch
  cases isMatch with
  | item _ _ needle written => cases absent.symm.trans written
  | entry _ _ needle written => cases absent.symm.trans written

/-- The matches in a list are the items that are hit. -/
theorem isMatch_list_iff {items : List Value} (written : key.naturalString = .ok (some needle)) :
    IsMatch key value (.list unit items) ↔ value ∈ items ∧ value.isHitBy key needle = true := by
  constructor
  · intro isMatch
    cases isMatch with
    | item _ _ other same member hit =>
      obtain rfl := Option.some.inj (Except.ok.inj (written.symm.trans same))
      exact ⟨member, hit⟩
  · rintro ⟨member, hit⟩
    exact .item unit items needle written member hit

/-- The matches in a map are the values under the natural string of the key. -/
theorem isMatch_map_iff {entries : List (String × List Value)}
    (written : key.naturalString = .ok (some needle)) :
    IsMatch key value (.map unit entries) ↔ value ∈ (entries.lookup needle).getD [] := by
  constructor
  · intro isMatch
    cases isMatch with
    | entry _ _ other same values held member =>
      obtain rfl := Option.some.inj (Except.ok.inj (written.symm.trans same))
      rw [held]
      exact member
  · intro member
    cases held : entries.lookup needle with
    | none =>
      rw [held] at member
      exact absurd member List.not_mem_nil
    | some values =>
      rw [held] at member
      exact .entry unit entries needle written values held member

/-- What a search finds are the matches. -/
theorem mem_searchAll (searched : collection.searchAll key = .ok found) :
    value ∈ found ↔ IsMatch key value collection := by
  cases collection with
  | list unit items =>
    obtain ⟨text, written, rest⟩ := bind_ok searched
    cases text with
    | none =>
      obtain rfl := Except.ok.inj rest
      exact iff_of_false List.not_mem_nil (not_isMatch written)
    | some needle =>
      have selected : matchingItems key needle items = _ :=
        matchingItems_eq_filter (isComposite_of_naturalString written)
      obtain rfl := Except.ok.inj (rest.symm.trans selected)
      rw [List.mem_filter, isMatch_list_iff written]
  | map unit entries =>
    obtain ⟨text, written, rest⟩ := bind_ok searched
    cases text with
    | none =>
      obtain rfl := Except.ok.inj rest
      exact iff_of_false List.not_mem_nil (not_isMatch written)
    | some needle =>
      obtain rfl := Except.ok.inj rest
      exact (isMatch_map_iff written).symm
  | nil type =>
    have none : found = [] := by
      cases type with
      | list unit | map unit =>
        obtain ⟨_, _, rest⟩ := bind_ok searched
        exact (Except.ok.inj rest).symm
      | _ => cases searched
    rw [none]
    exact iff_of_false List.not_mem_nil nofun
  | _ => cases searched

/-- What each search without an alternative answers for what was found. -/
def answer (unit : Signature) (found : List Value) : SearchKind → Value
  | .exist => .boolean (!found.isEmpty)
  | .find => found.headD (.nil unit)
  | .findAll => if found.isEmpty then .nil (.list unit) else .list unit found

/-- A search comes to its answer or, where that is nil for want of a match, to nothing. -/
theorem searched_answer (ofUnit : collection.unit? = some unit)
    (each : ∀ value ∈ found, value.Fits unit) (kind : SearchKind) :
    ∃ outcome, searched kind collection found = .ok outcome ∧
      outcome.getD (.nil (Build.searchType kind unit)) = answer unit found kind := by
  cases found with
  | nil => cases kind <;> exact ⟨_, rfl, rfl⟩
  | cons first rest =>
    cases kind with
    | exist | find => exact ⟨_, rfl, rfl⟩
    | findAll =>
      refine ⟨some (.list unit (first :: rest)), ?_, rfl⟩
      simp only [searched, ofUnit, Option.getD_some, ofItems_ok each]
      rfl

end Value

namespace Context

variable {σ : Type} {context : Context σ} {Holds : σ → Prop} {key collection : Expr}
  {state : σ} {unit : Signature}

/-- Evaluate what is searched for and then what is searched. There is nothing to search
where one of them is nil, and the collection is not evaluated after a nil key. -/
def sought (context : Context σ) (key collection : Expr) : Action σ (Option (Value × Value)) := do
  let needle ← (key.evaluate context .none : Action σ Value)
  if needle.isNil then pure none
  else do
    let source ← (collection.evaluate context .none : Action σ Value)
    if source.isNil then pure none
    else pure (some (needle, source))

/-- How a search without an alternative goes, whatever its kind: with the evaluation of the
key and the collection it fails, or there is nothing to search, or it answers for what is
found. -/
inductive Searching (context : Context σ) (key collection : Expr) (unit : Signature) (state : σ)
    (outcome : SearchKind → Except EvalError Value × σ) : Prop
  | failed (error : EvalError) (after : σ)
      (ran : context.sought key collection state = (.error error, after))
      (outcomes : ∀ kind, outcome kind = (.error error, after))
  | absent (after : σ) (ran : context.sought key collection state = (.ok none, after))
      (outcomes : ∀ kind, outcome kind = (.ok (.nil (Build.searchType kind unit)), after))
  | found (needle source : Value) (found : List Value) (after : σ)
      (ran : context.sought key collection state = (.ok (some (needle, source)), after))
      (fits : source.Fits collection.type) (present : source.isNil = false)
      (searched : source.searchAll needle = .ok found)
      (each : ∀ value ∈ found, value.Fits unit)
      (outcomes : ∀ kind, outcome kind = (.ok (Value.answer unit found kind), after))

/-- Searches of all kinds leave one state. -/
theorem Searching.same_state {outcome : SearchKind → Except EvalError Value × σ}
    (searching : Searching context key collection unit state outcome) (kind other : SearchKind) :
    (outcome kind).2 = (outcome other).2 := by
  cases searching with
  | failed error after ran outcomes => rw [outcomes kind, outcomes other]
  | absent after ran outcomes => rw [outcomes kind, outcomes other]
  | found needle source found after ran fits present searched each outcomes =>
    rw [outcomes kind, outcomes other]

/-- A search without an alternative searches what is sought, and gives nil if there is
nothing to search or if the search comes to nothing. -/
theorem free_search (context : Context σ) (tag : Tag) (kind : SearchKind)
    (key collection : Expr) :
    context.free.eval (.search tag kind key collection none) = (do
      match ← context.sought key collection with
      | none => pure (.nil tag.type)
      | some (needle, source) =>
        let found ← .ofValue tag.position (source.searchAll needle)
        let outcome ← .ofValue tag.position (Value.searched kind source found)
        pure (outcome.getD (.nil tag.type))) := by
  rw [free_eval]
  change (context.free.eval key >>= _) = _
  simp only [sought, Expr.evaluate_eq_free, bind_assoc]
  refine congrArg _ (funext fun needle => ?_)
  split
  · rfl
  simp only [bind_assoc]
  refine congrArg _ (funext fun source => ?_)
  split
  · rfl
  simp only [pure_bind]
  refine congrArg _ (funext fun found => congrArg _ (funext fun outcome => ?_))
  cases outcome <;> rfl

/-- What is sought is there and fits the types of the key and the collection. -/
theorem Faithful.sought_keeps (faithful : context.Faithful Holds) (ofKey : Built key)
    (ofCollection : Built collection) :
    (context.sought key collection).Keeps Holds (fun _ _ => True) fun given =>
      ∀ needle source, given = some (needle, source) →
        (needle.Fits key.type ∧ needle.isNil = false) ∧
          source.Fits collection.type ∧ source.isNil = false := by
  simp only [sought, Expr.evaluate_eq_free]
  refine (ofKey.free_keeps faithful).bind fun needle fitsNeedle => ?_
  split
  · exact .pure nofun
  rename_i keyed
  refine (ofCollection.free_keeps faithful).bind fun source fits => ?_
  split
  · exact .pure nofun
  rename_i present
  refine .pure fun _ _ given => ?_
  cases given
  exact ⟨⟨fitsNeedle, by simpa using keyed⟩, fits, by simpa using present⟩

/-- Against a faithful context every search goes in one of the three ways, and all kinds of
search for one key in one collection go the same way. -/
theorem Faithful.searching (faithful : context.Faithful Holds) (held : Holds state)
    (ofKey : Built key) (ofCollection : Built collection)
    (searches : Value.Searches key.type collection.type unit) (position : SearchKind → Position) :
    Searching context key collection unit state fun kind =>
      context.free.eval
        (.search ⟨position kind, Build.searchType kind unit⟩ kind key collection none) state := by
  have kept := faithful.sought_keeps ofKey ofCollection state held
  rcases ran : context.sought key collection state with ⟨error | given, after⟩
  · refine .failed error after ran fun kind => ?_
    rw [free_search, Action.run_bind_error ran]
  rw [ran] at kept
  cases given with
  | none =>
    refine .absent after ran fun kind => ?_
    rw [free_search, Action.run_bind_ok ran]
    rfl
  | some given =>
    obtain ⟨needle, source⟩ := given
    obtain ⟨⟨fitsNeedle, keyed⟩, fits, present⟩ := kept.1 needle source rfl
    obtain ⟨found, searched, each⟩ := Value.searchAll_fits searches fitsNeedle fits keyed
    refine .found needle source found after ran fits present searched each fun kind => ?_
    obtain ⟨outcome, concluded, answers⟩ :=
      Value.searched_answer (searches.unit?_eq fits) each kind
    rw [free_search, Action.run_bind_ok ran, ← answers]
    refine (Action.run_bind_ok (Action.run_ofValue_ok searched after)).trans ?_
    exact Action.run_bind_ok (Action.run_ofValue_ok concluded after)

end Context

/-! ## What the three answers say of each other -/

namespace Value

variable {key collection exist find findAll : Value} {unit : Signature}
  {given : Option (Value × Value)} {found : List Value}

/-- The answers of the three searches for what was sought, each as far as it can be told
from the others. The first match is nil for want of a match, and otherwise only if a map
holds a nil. -/
structure Coherent (unit : Signature) (given : Option (Value × Value))
    (exist find findAll : Value) : Prop where
  nil_iff : exist = .nil .boolean ↔ given = none
  of_nil : exist = .nil .boolean → find = .nil unit ∧ findAll = .nil (.list unit)
  false_iff : exist = .boolean false ↔
    ∃ key collection, given = some (key, collection) ∧ ∀ value, ¬IsMatch key value collection
  of_false : exist = .boolean false → find = .nil unit ∧ findAll = .nil (.list unit)
  true_iff : exist = .boolean true ↔ findAll.isNil = false
  of_true : exist = .boolean true → ∃ key collection rest, given = some (key, collection) ∧
    findAll = .list unit (find :: rest) ∧
    ∀ value, value ∈ find :: rest ↔ IsMatch key value collection
  of_nil_match : exist = .boolean true → find.isNil = true →
    ∃ key entries, given = some (key, .map unit entries)

/-- Where there is nothing to search, all answers are nil. -/
theorem coherent_absent : Coherent unit none (.nil .boolean) (.nil unit) (.nil (.list unit)) where
  nil_iff := iff_of_true rfl rfl
  of_nil _ := ⟨rfl, rfl⟩
  false_iff := iff_of_false nofun nofun
  of_false := nofun
  true_iff := iff_of_false nofun nofun
  of_true := nofun
  of_nil_match := nofun

/-- Where nothing is found, there is no match. -/
theorem coherent_missed (searched : collection.searchAll key = .ok []) :
    Coherent unit (some (key, collection)) (.boolean false) (.nil unit) (.nil (.list unit)) where
  nil_iff := iff_of_false nofun nofun
  of_nil := nofun
  false_iff := by
    refine iff_of_true rfl ⟨key, collection, rfl, fun value isMatch => ?_⟩
    exact List.not_mem_nil ((mem_searchAll searched).mpr isMatch)
  of_false _ := ⟨rfl, rfl⟩
  true_iff := iff_of_false nofun nofun
  of_true := nofun
  of_nil_match := nofun

/-- Where something is found, it is all that matches. -/
theorem coherent_found {first : Value} {rest : List Value} {ofKey ofCollection : Signature}
    (searches : Searches ofKey ofCollection unit) (fits : collection.Fits ofCollection)
    (present : collection.isNil = false)
    (searched : collection.searchAll key = .ok (first :: rest)) :
    Coherent unit (some (key, collection)) (.boolean true) first (.list unit (first :: rest)) where
  nil_iff := iff_of_false nofun nofun
  of_nil := nofun
  false_iff := by
    refine iff_of_false nofun ?_
    rintro ⟨_, _, ⟨rfl, rfl⟩, unmatched⟩
    exact unmatched first ((mem_searchAll searched).mp List.mem_cons_self)
  of_false := nofun
  true_iff := iff_of_true rfl rfl
  of_true _ := ⟨key, collection, rest, rfl, rfl, fun value => mem_searchAll searched⟩
  of_nil_match _ absent := by
    rcases searches.collection with ⟨rfl, scalars⟩ | rfl
    · have there := isNil_of_mem_searchAll fits searched List.mem_cons_self
      cases there.2.symm.trans absent
    · rcases fits.map_cases with rfl | ⟨entries, rfl, _⟩
      · cases present
      · exact ⟨key, entries, rfl⟩

/-- What the searches answer for what was found is coherent. -/
theorem coherent_answer {ofKey ofCollection : Signature}
    (searches : Searches ofKey ofCollection unit) (fits : collection.Fits ofCollection)
    (present : collection.isNil = false) (searched : collection.searchAll key = .ok found) :
    Coherent unit (some (key, collection)) (answer unit found .exist) (answer unit found .find)
      (answer unit found .findAll) := by
  cases found with
  | nil => exact coherent_missed searched
  | cons first rest => exact coherent_found searches fits present searched

end Value

namespace Build

variable {key collection expr : Expr} {fallback : Option Expr} {kind : SearchKind}
  {position : Position} {unit : Signature}

/-- Searches are accepted for types that can be searched for and searched. -/
theorem search_accepts (searches : Value.Searches key.type collection.type unit)
    (kind : SearchKind) (position : Position) :
    search kind key collection none position =
      .ok (.search ⟨position, searchType kind unit⟩ kind key collection none) := by
  rw [search, expectKey_eq_ok searches.key, expectUnit_searchable searches]
  simp only [bind, Except.bind, expectItems_eq_ok searches.collection, expectOptional]

/-- The three searches for one key in one collection, without an alternative. If one of
them is accepted, with an alternative or without, all are, at any positions. Without limits
and against a faithful context they make the same requests and leave one state, and either
they fail with one error or their answers are coherent.

Proof: all three do with the key and the collection what `Context.sought` does, and go on
without the context. Since this holds against every faithful context, it holds against the
one that logs, and the logs are the requests. -/
theorem search_coherent (ofKey : Built key) (ofCollection : Built collection)
    (accepted : search kind key collection fallback position = .ok expr) (p q r : Position) :
    ∃ unit exist find findAll, collection.type.unit? = some unit ∧
      (search .exist key collection none p = .ok exist ∧ exist.type = .boolean) ∧
      (search .find key collection none q = .ok find ∧ find.type = unit) ∧
      (search .findAll key collection none r = .ok findAll ∧ findAll.type = .list unit) ∧
      ∀ {σ : Type} (context : Context σ) (Holds : σ → Prop), context.Faithful Holds →
        ∀ state, Holds state →
          exist.calls context .none state = find.calls context .none state ∧
          find.calls context .none state = findAll.calls context .none state ∧
          ∃ after,
            (∃ error, context.sought key collection state = (.error error, after) ∧
              exist.evaluate context .none state = (.error error, after) ∧
              find.evaluate context .none state = (.error error, after) ∧
              findAll.evaluate context .none state = (.error error, after)) ∨
            ∃ given existValue findValue findAllValue,
              context.sought key collection state = (.ok given, after) ∧
              exist.evaluate context .none state = (.ok existValue, after) ∧
              find.evaluate context .none state = (.ok findValue, after) ∧
              findAll.evaluate context .none state = (.ok findAllValue, after) ∧
              Value.Coherent unit given existValue findValue findAllValue := by
  obtain ⟨unit, named, searches, _⟩ := search_ok accepted
  let place : SearchKind → Position
    | .exist => p
    | .find => q
    | .findAll => r
  let tree (kind : SearchKind) : Expr :=
    .search ⟨place kind, searchType kind unit⟩ kind key collection none
  refine ⟨unit, tree .exist, tree .find, tree .findAll, named,
    ⟨search_accepts searches .exist p, rfl⟩, ⟨search_accepts searches .find q, rfl⟩,
    ⟨search_accepts searches .findAll r, rfl⟩, ?_⟩
  intro σ context Holds faithful state held
  have sameCalls (kind other : SearchKind) :
      (tree kind).calls context .none state = (tree other).calls context .none state := by
    have heldLogged : Holds (Logged.mk state []).state := held
    have logged := faithful.logging.searching heldLogged ofKey ofCollection searches place
    exact Expr.calls_congr context state (logged.same_state kind other)
  refine ⟨sameCalls .exist .find, sameCalls .find .findAll, ?_⟩
  simp only [Expr.evaluate_eq_free]
  cases faithful.searching held ofKey ofCollection searches place with
  | failed error after ran outcomes =>
    exact ⟨after, .inl ⟨error, ran, outcomes .exist, outcomes .find, outcomes .findAll⟩⟩
  | absent after ran outcomes =>
    exact ⟨after, .inr ⟨none, _, _, _, ran, outcomes .exist, outcomes .find, outcomes .findAll,
      Value.coherent_absent⟩⟩
  | found needle source found after ran fits present searched each outcomes =>
    exact ⟨after, .inr ⟨some (needle, source), _, _, _, ran, outcomes .exist, outcomes .find,
      outcomes .findAll, Value.coherent_answer searches fits present searched⟩⟩

/-- A name that is read from a slot. -/
def nameRead : Expr := slot "name" (.named "name") .string ⟨1, 6⟩

/-- A map that holds a nil under a name, and a string after it. -/
def nilFirst : Expr :=
  constant (.map .string [("a", [.nil .string, .string "x"])]) ⟨1, 14⟩

/-- What reads the name can be searched for in the map. -/
theorem searches_nilFirst : Value.Searches nameRead.type nilFirst.type .string :=
  ⟨.inr rfl, .inr rfl⟩

/-- A slot that holds the name. -/
def nameHeld : Slots := Slots.empty.insert "name" (.string "a")

/-- A name that is in a slot is searched for in a map where the first match is nil. There
is a match although the first match is nil, and each search reads the slot once. -/
theorem search_coherent_nilFirst :
    Built nameRead ∧ Built nilFirst ∧
      (∃ expr, search .find nameRead nilFirst none ⟨1, 1⟩ = .ok expr) ∧
      ∃ exist find findAll,
        search .exist nameRead nilFirst none ⟨1, 1⟩ = .ok exist ∧
        search .find nameRead nilFirst none ⟨1, 1⟩ = .ok find ∧
        search .findAll nameRead nilFirst none ⟨1, 1⟩ = .ok findAll ∧
        exist.calls Slots.context .none nameHeld = find.calls Slots.context .none nameHeld ∧
        find.calls Slots.context .none nameHeld = [.read (.named "name") .string] ∧
        (exist.evaluate Slots.context .none nameHeld).1 = .ok (.boolean true) ∧
        (find.evaluate Slots.context .none nameHeld).1 = .ok (.nil .string) ∧
        (findAll.evaluate Slots.context .none nameHeld).1 =
          .ok (.list .string [.nil .string, .string "x"]) := by
  have ofKey : Built nameRead := .slot _ _ _ _
  have ofCollection : Built nilFirst := by
    refine .constant _ _ (.map _ _ (.cons _ _ _ _ (List.cons_ne_nil _ _) ?_ (.nil _)) trivial)
    exact .cons _ _ _ (.nil _) rfl (.cons _ _ _ (.string _) rfl (.nil _))
  have held : nameHeld.All fun _ value => value.WellFormed :=
    (Slots.all_empty _).insert (.string "a")
  have accepted := search_accepts searches_nilFirst .find ⟨1, 1⟩
  obtain ⟨unit, exist, find, findAll, _, ⟨madeExist, _⟩, ⟨madeFind, _⟩, ⟨madeAll, _⟩, coherent⟩ :=
    search_coherent ofKey ofCollection accepted ⟨1, 1⟩ ⟨1, 1⟩ ⟨1, 1⟩
  obtain ⟨sameCalls, _⟩ := coherent Slots.context _ Slots.context_faithful nameHeld held
  refine ⟨ofKey, ofCollection, ⟨_, accepted⟩, exist, find, findAll, madeExist, madeFind, madeAll,
    sameCalls, ?_⟩
  obtain rfl := Except.ok.inj madeExist
  obtain rfl := Except.ok.inj madeFind
  obtain rfl := Except.ok.inj madeAll
  exact ⟨rfl, rfl, rfl, rfl⟩

end Build

end RuleTree
