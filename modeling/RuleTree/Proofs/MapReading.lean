import RuleTree.Proofs.CoherentSearch

/-!
# Two ways to read a map

A name can be looked up in a map by reading an entry of the map or by searching the map for
the name. The search evaluates one node more, the constant that holds the name, which asks
the context for nothing; it goes on without the map's value where that is nil, and takes
the first of the values that it finds, where the other takes the first value of the entry.
The two agree because a well-formed map holds at least one value under each of its names.
-/

namespace RuleTree

namespace Value

/-- What a map shows under a name: its first value under it, or the nil of the unit type
where the map is nil or does not hold the name. -/
inductive Shows (unit : Signature) (name : String) : Value → Value → Prop
  | absent : Shows unit name (.nil (.map unit)) (.nil unit)
  | missing (entries : List (String × List Value)) (unheld : entries.lookup name = none) :
      Shows unit name (.map unit entries) (.nil unit)
  | first (entries : List (String × List Value)) (value : Value) (rest : List Value)
      (held : entries.lookup name = some (value :: rest)) :
      Shows unit name (.map unit entries) value

variable {unit : Signature} {container : Value}

/-- A well-formed map shows something under every name, and both ways to look there come to
it.

Where the map holds the name, the entry has a first value, and a search finds the values of
the entry. -/
theorem Fits.shows (fits : container.Fits (.map unit)) (name : String) :
    ∃ value found, Shows unit name container value ∧
      container.reference (.named name) = .ok value ∧
      container.searchAll (.string name) = .ok found ∧ (∀ value ∈ found, value.Fits unit) ∧
      answer unit found .find = value := by
  rcases fits.map_cases with rfl | ⟨entries, rfl, inside⟩
  · exact ⟨.nil unit, [], .absent, rfl, rfl, nofun, rfl⟩
  · have searched : (map unit entries).searchAll (.string name) =
        .ok ((entries.lookup name).getD []) := rfl
    cases held : entries.lookup name with
    | none =>
      rw [held] at searched
      refine ⟨.nil unit, [], .missing entries held, ?_, searched, nofun, rfl⟩
      rw [reference, held]
      rfl
    | some values =>
      obtain ⟨occupied, each⟩ := inside.lookup held
      obtain ⟨first, rest, rfl⟩ := List.exists_cons_of_ne_nil occupied
      rw [held] at searched
      refine ⟨first, first :: rest, .first entries first rest held, ?_, searched, each, rfl⟩
      rw [reference, held]
      rfl

/-- A map that is nil shows the nil of its unit type. -/
theorem Shows.eq_nil {name : String} {value : Value} (shows : Shows unit name container value)
    (absent : container.isNil = true) : value = .nil unit := by
  cases shows with
  | absent => rfl
  | missing | first => cases absent

/-- What reading a name in a map comes to, by what the map comes to: it fails where the map
does, and otherwise gives what the map shows under the name. -/
inductive Reading {σ : Type} (unit : Signature) (name : String) :
    Except EvalError Value × σ → Except EvalError Value × σ → Prop
  | failed (error : EvalError) (after : σ) :
      Reading unit name (.error error, after) (.error error, after)
  | shown (container value : Value) (after : σ) (shows : Shows unit name container value) :
      Reading unit name (.ok container, after) (.ok value, after)

end Value

namespace Context

variable {σ : Type} {context : Context σ} {source : Expr} {state after : σ} {unit : Signature}
  {container : Value}

/-- Where a name is searched for, what is sought is decided by the collection alone. -/
theorem sought_name (context : Context σ) (name : String) (named : Position) (source : Expr) :
    context.sought (Build.constant (.string name) named) source = (do
      let container ← context.free.eval source
      if container.isNil then pure none else pure (some (.string name, container))) := by
  rw [sought, Expr.evaluate_eq_free, Expr.evaluate_eq_free]
  rfl

/-- Both ways to read a map come to what it shows under the name. -/
theorem free_read (yielded : context.free.eval source state = (.ok container, after))
    (fits : container.Fits (.map unit)) (label name : String) (p q r : Position) :
    ∃ value, Value.Shows unit name container value ∧
      context.free.eval (.entry ⟨p, unit⟩ label (.named name) source) state =
        (.ok value, after) ∧
      context.free.eval
          (.search ⟨r, unit⟩ .find (Build.constant (.string name) q) source none) state =
        (.ok value, after) := by
  obtain ⟨value, found, shown, referred, searched, each, answers⟩ := fits.shows name
  have ofUnit : container.unit? = some unit := by
    rw [Value.unit?_eq, fits.typed]
    rfl
  refine ⟨value, shown, ?_⟩
  rw [free_eval]
  change (context.free.eval source >>= _) state = _ ∧ _
  rw [Action.run_bind_ok yielded, free_search, sought_name, bind_assoc,
    Action.run_bind_ok yielded]
  cases absent : container.isNil with
  | true =>
    rw [shown.eq_nil absent]
    exact ⟨rfl, rfl⟩
  | false =>
    obtain ⟨outcome, concluded, answered⟩ := Value.searched_answer ofUnit each .find
    rw [← answers, ← answered] at referred ⊢
    refine ⟨Action.run_ofValue_ok referred after, ?_⟩
    refine (Action.run_bind_ok (Action.run_ofValue_ok searched after)).trans ?_
    exact Action.run_bind_ok (Action.run_ofValue_ok concluded after)

/-- Against a faithful context both ways to read a map come to the same. -/
theorem Faithful.readings {Holds : σ → Prop} (faithful : context.Faithful Holds)
    (held : Holds state) (ofMap : source.BuiltAs (.map unit)) (label name : String)
    (p q r : Position) :
    ∃ outcome, Value.Reading unit name (context.free.eval source state) outcome ∧
      context.free.eval (.entry ⟨p, unit⟩ label (.named name) source) state = outcome ∧
      context.free.eval
          (.search ⟨r, unit⟩ .find (Build.constant (.string name) q) source none) state =
        outcome := by
  rcases ofMap.built.free_cases faithful held with
    ⟨error, after, failed⟩ | ⟨container, after, yielded, fits, _⟩
  · rw [failed]
    refine ⟨_, .failed error after, ?_, ?_⟩
    · rw [free_eval]
      exact Action.run_bind_error failed
    · rw [free_search, sought_name]
      exact Action.run_bind_error (Action.run_bind_error failed)
  · rw [ofMap.typed] at fits
    obtain ⟨value, shown, ofEntry, ofSearch⟩ := free_read yielded fits label name p q r
    rw [yielded]
    exact ⟨_, .shown container value after shown, ofEntry, ofSearch⟩

end Context

namespace Build

variable {source : Expr} {unit : Signature}

/-- Reading an entry of a map under a name and searching the map for the name, without an
alternative, are interchangeable, whatever the positions. They fail as the map fails, and
otherwise they give what the map shows under the name.

Proof: both evaluate the map and then go on without the context (`Context.free_read`). -/
theorem readings_agree (ofMap : source.BuiltAs (.map unit)) (label name : String)
    (p q r : Position) :
    ∃ entry search, Build.entry label (.named name) source p = .ok entry ∧
      Build.search .find (constant (.string name) q) source none r = .ok search ∧
      entry.type = unit ∧ search.type = unit ∧ entry.Interchangeable search ∧
      ∀ {σ : Type} (context : Context σ) (Holds : σ → Prop), context.Faithful Holds →
        ∀ state, Holds state →
          Value.Reading unit name (source.evaluate context .none state)
            (entry.evaluate context .none state) := by
  let key := constant (.string name) q
  let entry := Expr.entry ⟨p, unit⟩ label (.named name) source
  let search := Expr.search ⟨r, unit⟩ .find key source none
  have referred : expectUnit "reference" .referable source = .ok unit :=
    expectUnit_eq_ok (by rw [ofMap.typed]; rfl) (by rw [ofMap.typed]; rfl)
  have madeEntry : Build.entry label (.named name) source p = .ok entry := by
    rw [Build.entry, referred]
    rfl
  have searches : Value.Searches key.type source.type unit := ⟨.inr rfl, .inr ofMap.typed⟩
  have madeSearch : Build.search .find key source none r = .ok search :=
    search_accepts searches .find r
  have builtEntry : Built entry := .entry label (.named name) source p _ ofMap.built madeEntry
  have builtKey : Built key := .constant _ _ (.string name)
  have builtSearch : Built search := by
    refine .search .find key source none r _ builtKey ofMap.built ?_ madeSearch
    intro part missing
    cases missing
  refine ⟨entry, search, madeEntry, madeSearch, rfl, rfl, ?_, ?_⟩
  · refine .of_free builtEntry builtSearch rfl fun context Holds faithful state held => ?_
    obtain ⟨outcome, _, ofEntry, ofSearch⟩ := faithful.readings held ofMap label name p q r
    exact ofEntry.trans ofSearch.symm
  · intro σ context Holds faithful state held
    obtain ⟨outcome, reading, ofEntry, _⟩ := faithful.readings held ofMap label name p q r
    rw [Expr.evaluate_eq_free, Expr.evaluate_eq_free, ofEntry]
    exact reading

/-- A map that is read from a slot. -/
def pricesRead : Expr := slot "prices" (.named "prices") (.map .integer) ⟨1, 1⟩

/-- A slot that holds a map. -/
def pricesHeld : Slots :=
  Slots.empty.insert "prices" (.map .integer [("tea", [.integer 3, .integer 4])])

/-- A price that is in a map twice. Both ways to read it read the slot once and give the
first. -/
theorem readings_agree_prices :
    pricesRead.BuiltAs (.map .integer) ∧
      ∃ entry search, Build.entry "tea" (.named "tea") pricesRead ⟨1, 7⟩ = .ok entry ∧
        Build.search .find (constant (.string "tea") ⟨1, 1⟩) pricesRead none ⟨1, 7⟩ =
          .ok search ∧
        entry.evaluate Slots.context .none pricesHeld =
          search.evaluate Slots.context .none pricesHeld ∧
        entry.calls Slots.context .none pricesHeld =
          search.calls Slots.context .none pricesHeld ∧
        (search.evaluate Slots.context .none pricesHeld).1 = .ok (.integer 3) ∧
        search.calls Slots.context .none pricesHeld =
          [.read (.named "prices") (.map .integer)] := by
  have ofMap : pricesRead.BuiltAs (.map .integer) := ⟨.slot _ _ _ _, rfl⟩
  have formed : (Value.map .integer [("tea", [.integer 3, .integer 4])]).WellFormed := by
    refine .map _ _ (.cons _ _ _ _ (List.cons_ne_nil _ _) ?_ (.nil _)) trivial
    exact .cons _ _ _ (.integer _) rfl (.cons _ _ _ (.integer _) rfl (.nil _))
  have held : pricesHeld.All fun _ value => value.WellFormed := (Slots.all_empty _).insert formed
  obtain ⟨entry, search, madeEntry, madeSearch, _, _, alike, _⟩ :=
    readings_agree ofMap "tea" "tea" ⟨1, 7⟩ ⟨1, 1⟩ ⟨1, 7⟩
  refine ⟨ofMap, entry, search, madeEntry, madeSearch,
    alike.sameOutcome Slots.context _ Slots.context_faithful pricesHeld held,
    alike.sameCalls Slots.context _ Slots.context_faithful pricesHeld held, ?_⟩
  obtain rfl := Except.ok.inj madeSearch
  exact ⟨rfl, rfl⟩

end Build

end RuleTree
