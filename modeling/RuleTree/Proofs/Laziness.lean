import RuleTree.Eval.Limits
import RuleTree.Expr.Build
import RuleTree.Proofs.Arrivals

/-!
# What is never come to

What stands at a place that an evaluation never arrives at is irrelevant: any other tree
may stand there and the run is the same. It has the same result, a failure with its
position included, makes the same requests, and has counted the same nodes.

When a place is not arrived at follows from what each operator does with its children. A
decided conjunction or disjunction does not come to its right operand, a choice comes to
one of its parts at most, a loop without items comes to nothing but its list, and a
search comes to its collection only for a key that is there, and to what stands for a
miss only after one. After a failure nothing is come to.
-/

namespace RuleTree

variable {ρ ρ' α : Type}

namespace Machine

/-- Why the body of a node does not come to a child, given the state in which the body
begins and the index of the child. -/
inductive PassesOver (machine : Machine ρ) (state : ρ) : Expr → Nat → Prop
  /-- The first child has failed. -/
  | afterFailure {owner first : Expr} {index : Nat} {error : EvalError} {after : ρ}
      (isFirst : owner.children.head? = some first)
      (fails : machine.eval first state = (.error error, after)) (later : index ≠ 0) :
      PassesOver machine state owner index
  /-- An earlier part of a sequence has failed. -/
  | afterParts {tag : Tag} {parts : List Expr} {index : Nat} {error : EvalError} {after : ρ}
      (fails : machine.evalAll (.nil tag.type) (parts.take index) state = (.error error, after)) :
      PassesOver machine state (.sequence tag parts) index
  /-- The left operand is not true. -/
  | both {tag : Tag} {left right : Expr} {value : Value} {after : ρ}
      (yields : machine.eval left state = (.ok value, after))
      (decided : value.asBoolean ≠ .ok (some true)) :
      PassesOver machine state (.both tag left right) 1
  /-- The left operand is not false. -/
  | either {tag : Tag} {left right : Expr} {value : Value} {after : ρ}
      (yields : machine.eval left state = (.ok value, after))
      (decided : value.asBoolean ≠ .ok (some false)) :
      PassesOver machine state (.either tag left right) 1
  /-- The condition is not true. -/
  | consequent {tag : Tag} {check consequent : Expr} {alternative : Option Expr} {value : Value}
      {after : ρ} (yields : machine.eval check state = (.ok value, after))
      (refuted : value.asBoolean ≠ .ok (some true)) :
      PassesOver machine state (.branch tag check consequent alternative) 1
  /-- The condition is not false. -/
  | alternative {tag : Tag} {check consequent : Expr} {alternative : Option Expr} {value : Value}
      {after : ρ} (yields : machine.eval check state = (.ok value, after))
      (held : value.asBoolean ≠ .ok (some false)) :
      PassesOver machine state (.branch tag check consequent alternative) 2
  /-- The list has no items. -/
  | withoutItems {tag : Tag} {list body : Expr} {stop : Option Expr} {key : Key} {source : Value}
      {after : ρ} {index : Nat} (yields : machine.eval list state = (.ok source, after))
      (empty : ∀ item rest, source.asItems ≠ .ok (some (item :: rest))) (later : index ≠ 0) :
      PassesOver machine state (.loop tag list body stop key) index
  /-- What stops the loop or binding the first item has failed. -/
  | unbound {tag : Tag} {list body : Expr} {stop : Option Expr} {key : Key} {source item : Value}
      {rest : List Value} {middle after : ρ} {error : EvalError}
      (yields : machine.eval list state = (.ok source, middle))
      (items : source.asItems = .ok (some (item :: rest)))
      (fails : (do
        let _ ← machine.evalOptional tag stop
        machine.writeAt tag key item) middle = (.error error, after)) :
      PassesOver machine state (.loop tag list body stop key) 1
  /-- The key is nil. -/
  | withoutKey {tag : Tag} {kind : SearchKind} {key collection : Expr} {fallback : Option Expr}
      {needle : Value} {after : ρ} {index : Nat}
      (yields : machine.eval key state = (.ok needle, after)) (absent : needle.isNil = true)
      (later : index ≠ 0) :
      PassesOver machine state (.search tag kind key collection fallback) index
  /-- The collection has failed, is nil or has been searched with an outcome. -/
  | settled {tag : Tag} {kind : SearchKind} {key collection : Expr} {fallback : Option Expr}
      {needle : Value} {middle : ρ} (yields : machine.eval key state = (.ok needle, middle))
      (outcome : ∀ source, (machine.eval collection middle).1 = .ok source →
        source.isNil = false → ∀ found, source.searchAll needle = .ok found →
        Value.searched kind source found ≠ .ok none) :
      PassesOver machine state (.search tag kind key collection fallback) 2
  /-- Whether there is a match is an outcome, whatever it is. -/
  | exist {tag : Tag} {key collection : Expr} {fallback : Option Expr} :
      PassesOver machine state (.search tag .exist key collection fallback) 2

/-- A node does not come to a child from the state in which the node is arrived at: it is
refused, or its body passes over the child. -/
def Skips (machine : Machine ρ) (state : ρ) (owner : Expr) (index : Nat) : Prop :=
  ∀ entered, machine.enter owner state = (.ok (), entered) →
    machine.PassesOver entered owner index

/-! ## Bodies that pass over a child -/

/-- From a state, a watched action arrives nowhere. -/
def Silent (action : Action (Watched ρ) α) (state : ρ) : Prop :=
  (action ⟨state, []⟩).2.arrivals = []

namespace Silent

variable {machine : Machine ρ} {β : Type} {state middle after : ρ} {expr : Expr}

/-- Who goes on from where something has succeeded arrives nowhere if what follows does
not. -/
theorem of_ok {first : Action (Watched ρ) α} {next : α → Action (Watched ρ) β} {result : α}
    (ran : first ⟨state, []⟩ = (.ok result, ⟨middle, []⟩)) (later : Silent (next result) middle) :
    Silent (first >>= next) state := by
  rw [Silent, Action.run_bind_ok ran]
  exact later

/-- After a failure, nothing is arrived at. -/
theorem of_error {first : Action (Watched ρ) α} {next : α → Action (Watched ρ) β}
    {error : EvalError} (ran : first ⟨state, []⟩ = (.error error, ⟨after, []⟩)) :
    Silent (first >>= next) state := by
  rw [Silent, Action.run_bind_error ran]

/-- A result. -/
theorem pure (result : α) : Silent (Pure.pure result) state := rfl

/-- A tree that is only watched. -/
theorem eval (machine : Machine ρ) (expr : Expr) : Silent (machine.watching.eval expr) state := by
  rw [Silent, watching_eval]

/-- A tree that yields a value. -/
theorem afterEval {next : Value → Action (Watched ρ) α} {value : Value}
    (yields : machine.eval expr state = (.ok value, middle)) (later : Silent (next value) middle) :
    Silent (machine.watching.eval expr >>= next) state := by
  refine of_ok ?_ later
  rw [watching_eval, yields]

/-- A tree that fails. -/
theorem afterError {next : Value → Action (Watched ρ) α} {error : EvalError}
    (fails : machine.eval expr state = (.error error, after)) :
    Silent (machine.watching.eval expr >>= next) state := by
  apply of_error
  rw [watching_eval, fails]

/-- An operation on values. -/
theorem afterValue {position : Position} {outcome : Except ValueError α}
    {next : α → Action (Watched ρ) β}
    (later : ∀ result, outcome = .ok result → Silent (next result) state) :
    Silent (Action.ofValue position outcome >>= next) state := by
  cases outcome with
  | error error => exact of_error rfl
  | ok result => exact of_ok rfl (later result rfl)

/-- A truth value that is taken from what a tree yields. -/
theorem afterTruth {position : Position} {next : Option Bool → Action (Watched ρ) α}
    {value : Value} (yields : machine.eval expr state = (.ok value, middle))
    (later : ∀ truth, value.asBoolean = .ok truth → Silent (next truth) middle) :
    Silent (Action.truth position (machine.watching.eval expr) >>= next) state := by
  have watched : machine.watching.eval expr ⟨state, []⟩ = (.ok value, ⟨middle, []⟩) := by
    rw [watching_eval, yields]
  have ran : Action.truth position (machine.watching.eval expr) ⟨state, []⟩ =
      Action.ofValue position value.asBoolean ⟨middle, []⟩ := Action.run_bind_ok watched
  rcases known : value.asBoolean with error | truth
  · rw [Action.run_ofValue_error known] at ran
    exact of_error ran
  · rw [Action.run_ofValue_ok known] at ran
    exact of_ok ran (later truth known)

/-- A truth value that is to be taken from a tree that fails. -/
theorem afterUntrue {position : Position} {next : Option Bool → Action (Watched ρ) α}
    {error : EvalError} (fails : machine.eval expr state = (.error error, after)) :
    Silent (Action.truth position (machine.watching.eval expr) >>= next) state := by
  have watched : machine.watching.eval expr ⟨state, []⟩ = (.error error, ⟨after, []⟩) := by
    rw [watching_eval, fails]
  exact of_error (Action.run_bind_error watched)

end Silent

variable {machine : Machine ρ} {state : ρ}

/-- Once the first child has failed, no operator goes on. -/
theorem silent_of_first {operator : Operator} {tag : Tag} {first : Expr}
    {others : List (Action (Watched ρ) Value)} {error : EvalError} {after : ρ}
    (fails : machine.eval first state = (.error error, after)) :
    Silent (machine.watching.perform tag operator (machine.watching.eval first :: others))
      state := by
  cases operator with
  | constant value => exact .pure _
  | slot key =>
    show (machine.watching.readAt tag key ⟨state, []⟩).2.arrivals = []
    rw [readAt, Action.run_ofRequest_state]
    rfl
  | entry key => exact .afterError fails
  | setSlot key => exact .afterError fails
  | setEntry key =>
    cases others with
    | nil => exact .pure _
    | cons target rest => exact .afterError fails
  | compare comparison =>
    cases others with
    | nil => exact .pure _
    | cons right rest => exact .afterError fails
  | both =>
    cases others with
    | nil => exact .pure _
    | cons right rest => exact .afterUntrue fails
  | either =>
    cases others with
    | nil => exact .pure _
    | cons right rest => exact .afterUntrue fails
  | negation => exact .afterUntrue fails
  | branch =>
    cases others with
    | nil => exact .pure _
    | cons consequent rest => exact .afterUntrue fails
  | loop key =>
    cases others with
    | nil => exact .pure _
    | cons body rest => exact .afterError fails
  | search kind =>
    cases others with
    | nil => exact .pure _
    | cons collection rest => exact .afterError fails
  | sequence => exact .afterError fails

/-- Once a part of a sequence has failed, those after it are not come to. -/
theorem silent_of_parts {parts : List Expr} {index : Nat} {other : Expr → Action (Watched ρ) Value}
    {result : Value} {error : EvalError} {after : ρ}
    (fails : machine.evalAll result (parts.take index) state = (.error error, after)) :
    Silent (Action.inTurn result (parts.mapIdx fun here part =>
      if here = index then other part else machine.watching.eval part)) state := by
  induction parts generalizing index result state with
  | nil => exact .pure result
  | cons first rest inductionHypothesis =>
    cases index with
    | zero => cases fails
    | succ index =>
      rw [List.take_succ_cons, evalAll_cons] at fails
      simp only [List.mapIdx_cons, Action.inTurn, Nat.zero_ne_add_one, if_false,
        Nat.add_right_cancel_iff]
      rcases ran : machine.eval first state with ⟨failure | value, middle⟩
      · exact .afterError ran
      · rw [Action.run_bind_ok ran] at fails
        exact .afterEval ran (inductionHypothesis fails)

/-- A choice comes to the part that is chosen and to no other. -/
theorem silent_of_check {tag : Tag} {check : Expr} {consequent : Action (Watched ρ) Value}
    {alternatives : List (Action (Watched ρ) Value)} {value : Value} {after : ρ}
    (yields : machine.eval check state = (.ok value, after))
    (chosen : value.asBoolean = .ok (some true) → Silent consequent after)
    (otherwise : value.asBoolean = .ok (some false) →
      Silent (alternatives.headD (pure (.nil tag.type))) after) :
    Silent (machine.watching.perform tag .branch
      (machine.watching.eval check :: consequent :: alternatives)) state := by
  refine .afterTruth yields fun truth known => ?_
  rcases truth with _ | (_ | _)
  · exact .pure _
  · exact otherwise known
  · exact chosen known

/-- A loop that cannot bind its first item does not come to its body. -/
theorem silent_of_unbound {tag : Tag} {key : Key} {list : Expr} {stop : Option Expr}
    {body : Action (Watched ρ) Value} {source item : Value} {rest : List Value}
    {middle after : ρ} {error : EvalError}
    (yields : machine.eval list state = (.ok source, middle))
    (items : source.asItems = .ok (some (item :: rest)))
    (fails : (do
      let _ ← machine.evalOptional tag stop
      machine.writeAt tag key item) middle = (.error error, after)) :
    Silent (machine.watching.perform tag (.loop key)
      (machine.watching.eval list :: body :: stop.toList.map machine.watching.eval)) state := by
  have watching_writeAt (begin : ρ) : machine.watching.writeAt tag key item ⟨begin, []⟩ =
      ((machine.writeAt tag key item begin).1, ⟨(machine.writeAt tag key item begin).2, []⟩) := by
    rcases answer : machine.write key item begin with ⟨_ | _, _⟩ <;>
      simp only [writeAt, Action.ofRequest, watching, answer]
  have unbound (begin : ρ) (refused : machine.writeAt tag key item begin = (.error error, after))
      (last : Value) : Silent (repeatBody (machine.watching.writeAt tag key) body last
        (.nil tag.type) (item :: rest)) begin := by
    rw [repeatBody_cons]
    apply Silent.of_error
    rw [watching_writeAt, refused]
  refine .afterEval yields (.afterValue fun found same => ?_)
  obtain rfl : some (item :: rest) = found := Except.ok.inj (items.symm.trans same)
  cases stop with
  | none => exact unbound middle fails (.nil tag.type)
  | some part =>
    rcases ran : machine.eval part middle with ⟨failure | last, begin⟩
    · exact .afterError ran
    · rw [evalOptional, Action.run_bind_ok ran] at fails
      exact .afterEval ran (unbound begin fails last)

/-- A search whose collection has failed, is nil or has been searched with an outcome
does not come to what stands for a miss. -/
theorem silent_of_settled {tag : Tag} {kind : SearchKind} {key collection : Expr}
    {others : List (Action (Watched ρ) Value)} {needle : Value} {middle : ρ}
    (yields : machine.eval key state = (.ok needle, middle))
    (outcome : ∀ source, (machine.eval collection middle).1 = .ok source → source.isNil = false →
      ∀ found, source.searchAll needle = .ok found → Value.searched kind source found ≠ .ok none) :
    Silent (machine.watching.perform tag (.search kind)
      (machine.watching.eval key :: machine.watching.eval collection :: others)) state := by
  refine .afterEval yields ?_
  split
  · exact .pure _
  rcases ran : machine.eval collection middle with ⟨failure | source, after⟩
  · exact .afterError ran
  refine .afterEval ran ?_
  split
  · exact .pure _
  rename_i present
  rw [ran] at outcome
  refine .afterValue fun found searched => .afterValue fun result same => ?_
  cases result with
  | none => exact absurd same (outcome source rfl (by simpa using present) found searched)
  | some result => exact .pure result

/-- A body that passes over a child arrives at no place below it.

Proof: by cases on the reason. What comes before the child is only watched, and it ends
the body or makes it take another way. -/
theorem PassesOver.silent {owner : Expr} {index : Nat}
    (passes : machine.PassesOver state owner index) (below : List Nat) :
    Silent (machine.watching.perform owner.tag owner.operator (owner.children.mapIdx
      fun here part =>
        if here = index then machine.evalNoting below part else machine.watching.eval part))
      state := by
  cases passes with
  | afterFailure isFirst fails later =>
    obtain ⟨rest, children⟩ : ∃ rest, owner.children = _ :: rest :=
      List.head?_eq_some_iff.mp isFirst
    rw [children, List.mapIdx_cons, if_neg later.symm]
    exact silent_of_first fails
  | afterParts fails => exact silent_of_parts fails
  | both yields decided =>
    refine .afterTruth yields fun truth known => ?_
    rcases truth with _ | (_ | _)
    · exact .pure _
    · exact .pure _
    · exact absurd known decided
  | either yields decided =>
    refine .afterTruth yields fun truth known => ?_
    rcases truth with _ | (_ | _)
    · exact .pure _
    · exact absurd known decided
    · exact .pure _
  | @consequent tag check consequent alternative value after yields refuted =>
    rw [Expr.children, List.mapIdx_cons, List.mapIdx_cons]
    refine silent_of_check yields (fun known => absurd known refuted) fun _ => ?_
    cases alternative with
    | none => exact .pure _
    | some part => exact .eval machine part
  | alternative yields held =>
    rw [Expr.children, List.mapIdx_cons, List.mapIdx_cons]
    exact silent_of_check yields (fun _ => .eval machine _) fun known => absurd known held
  | withoutItems yields empty later =>
    rw [Expr.children, List.mapIdx_cons, List.mapIdx_cons, if_neg later.symm]
    refine .afterEval yields (.afterValue fun items same => ?_)
    rcases items with _ | (_ | ⟨item, rest⟩)
    · exact .pure _
    · exact .pure _
    · exact absurd same (empty item rest)
  | @unbound tag list body stop key source item rest middle after error yields items fails =>
    have unbound : Silent (machine.watching.perform tag (.loop key) (machine.watching.eval list ::
        machine.evalNoting below body :: stop.toList.map machine.watching.eval)) state :=
      silent_of_unbound yields items fails
    -- What stops the loop is no child under this index, so it is only watched.
    cases stop with
    | none => exact unbound
    | some part => exact unbound
  | withoutKey yields absent later =>
    rw [Expr.children, List.mapIdx_cons, List.mapIdx_cons, if_neg later.symm]
    refine .afterEval yields ?_
    rw [if_pos absent]
    exact .pure _
  | settled yields outcome =>
    rw [Expr.children, List.mapIdx_cons, List.mapIdx_cons]
    exact silent_of_settled yields outcome
  | @exist tag key collection fallback =>
    rw [Expr.children, List.mapIdx_cons, List.mapIdx_cons]
    rcases ran : machine.eval key state with ⟨failure | needle, middle⟩
    · exact silent_of_first ran
    · refine silent_of_settled ran fun source _ _ found _ impossible => ?_
      cases found with
      | nil => cases impossible
      | cons first rest => cases impossible

/-- Where an evaluation does not come to a child, it arrives at no place below it. -/
theorem Skips.arrivals_eq_nil {owner : Expr} {index : Nat} (skips : machine.Skips state owner index)
    (below : List Nat) : machine.arrivals (index :: below) owner state = [] := by
  rcases attempt : machine.enter owner state with ⟨failure | _, entered⟩
  · have entering : machine.watching.enter owner ⟨state, []⟩ = (.error failure, ⟨entered, []⟩) := by
      simp only [watching, attempt]
    rw [arrivals, evalNoting, evalWith, node_refused entering]
  · have entering : machine.watching.enter owner ⟨state, []⟩ = (.ok (), ⟨entered, []⟩) := by
      simp only [watching, attempt]
    rw [arrivals, evalNoting, evalWith, node_entered entering]
    exact (skips entered attempt).silent below

/-- What no arrival at a node goes on to is not come to at all. -/
theorem arrivals_eq_nil_of_skips {place : List Nat} {expr owner : Expr} {index : Nat}
    (found : expr.subtree? place = some owner)
    (skips : ∀ arrival ∈ machine.arrivals place expr state, machine.Skips arrival owner index)
    (below : List Nat) : machine.arrivals (place ++ index :: below) expr state = [] := by
  rw [machine.arrivals_append found, List.flatMap_eq_nil_iff]
  intro arrival arrived
  exact (skips arrival arrived).arrivals_eq_nil below

end Machine

/-! ## What is not come to may be anything -/

/-- Unless the watched action has arrived somewhere, both come out alike. -/
def UnlessArrived (Match : ρ → ρ' → Prop) (action : Action (Watched ρ) α)
    (action' : Action ρ' α) : Prop :=
  ∀ watched, (action watched).2.arrivals = [] →
    watched.arrivals = [] ∧ ∀ state', Match watched.state state' →
      Alike (fun after after' => Match after.state after') (action watched) (action' state')

namespace UnlessArrived

variable {machine : Machine ρ} {other : Machine ρ'} {Match : ρ → ρ' → Prop}

/-- A sequence comes out alike unless something is arrived at, if its parts do. -/
theorem sequence {β : Type} {first : Action (Watched ρ) α} {first' : Action ρ' α}
    {next : α → Action (Watched ρ) β} {next' : α → Action ρ' β}
    (before : UnlessArrived Match first first')
    (later : ∀ result, UnlessArrived Match (next result) (next' result)) :
    UnlessArrived Match (first >>= next) (first' >>= next') := by
  intro watched unreached
  have beforeHere := before watched
  rcases ran : first watched with ⟨error | result, middle⟩
  · rw [Action.run_bind_error ran] at unreached ⊢
    rw [ran] at beforeHere
    obtain ⟨none, alike⟩ := beforeHere unreached
    refine ⟨none, fun state' matched => ?_⟩
    obtain ⟨after', ran', reached⟩ := (alike state' matched).exists_eq
    rw [Action.run_bind_error ran']
    exact ⟨rfl, reached⟩
  · rw [Action.run_bind_ok ran] at unreached ⊢
    -- Nothing was arrived at later, so nothing had been arrived at in between.
    obtain ⟨between, alikeLater⟩ := later result middle unreached
    rw [ran] at beforeHere
    obtain ⟨none, alike⟩ := beforeHere between
    refine ⟨none, fun state' matched => ?_⟩
    obtain ⟨middle', ran', reached⟩ := (alike state' matched).exists_eq
    rw [Action.run_bind_ok ran']
    exact alikeLater middle' reached

/-- Requests that are answered alike. -/
theorem ofRequest {position : Position} {request : Watched ρ → Except ContextError α × Watched ρ}
    {request' : ρ' → Except ContextError α × ρ'}
    (quiet : ∀ watched, (request watched).2.arrivals = watched.arrivals)
    (answered : ∀ watched state', Match watched.state state' →
      Alike (fun after after' => Match after.state after') (request watched) (request' state')) :
    UnlessArrived Match (Action.ofRequest position request)
      (Action.ofRequest position request') := by
  intro watched unreached
  rw [Action.run_ofRequest_state, quiet] at unreached
  exact ⟨unreached, fun state' matched => .ofRequest (answered watched state' matched)⟩

/-- Nodes at one position come out alike unless something is arrived at, if their bodies
do and they are entered alike. -/
theorem node (indifferent : Indifferent machine other Match) {expr expr' : Expr}
    (placed : expr'.position = expr.position) {body : Action (Watched ρ) Value}
    {body' : Action ρ' Value} (bodies : UnlessArrived Match body body') :
    UnlessArrived Match (machine.watching.node expr body) (other.node expr' body') := by
  intro watched unreached
  have enters := indifferent.enters expr expr' watched.state
  rcases attempt : machine.enter expr watched.state with ⟨failure | _, entered⟩
  · have entering : machine.watching.enter expr watched =
        (.error failure, ⟨entered, watched.arrivals⟩) := by
      simp only [Machine.watching, attempt]
    rw [Machine.node_refused entering] at unreached ⊢
    refine ⟨unreached, fun state' matched => ?_⟩
    have alike := enters state' matched
    rw [attempt] at alike
    obtain ⟨entered', attempt', reached⟩ := alike.exists_eq
    rw [Machine.node_refused attempt', placed]
    exact ⟨rfl, reached⟩
  · have entering : machine.watching.enter expr watched =
        (.ok (), ⟨entered, watched.arrivals⟩) := by
      simp only [Machine.watching, attempt]
    rw [Machine.node_entered entering] at unreached ⊢
    obtain ⟨none, alikeInside⟩ := bodies ⟨entered, watched.arrivals⟩ unreached
    refine ⟨none, fun state' matched => ?_⟩
    have alike := enters state' matched
    rw [attempt] at alike
    obtain ⟨entered', attempt', reached⟩ := alike.exists_eq
    obtain ⟨same, ended⟩ := alikeInside entered' reached
    rw [Machine.node_entered attempt']
    exact ⟨same, indifferent.leaves _ _ ended⟩

end UnlessArrived

/-- Nodes hand on that their children come out alike unless something is arrived at. -/
theorem Indifferent.unlessArrived {machine : Machine ρ} {other : Machine ρ'}
    {Match : ρ → ρ' → Prop} (indifferent : Indifferent machine other Match) :
    BlindCongruence machine.watching other fun _ => UnlessArrived Match where
  steps _ _ :=
    { result := fun _ _ none => ⟨none, fun _ matched => ⟨rfl, matched⟩⟩
      refusal := fun _ _ none => ⟨none, fun _ matched => ⟨rfl, matched⟩⟩
      sequence := UnlessArrived.sequence
      read := fun key _ => .ofRequest (fun _ => rfl) fun watched state' matched =>
        indifferent.reads key _ watched.state state' matched
      write := fun key _ value => .ofRequest (fun _ => rfl) fun watched state' matched =>
        indifferent.writes key value watched.state state' matched }
  node tag := .node indifferent (congrArg Tag.position tag)

/-- What stands at a place that an evaluation does not arrive at may be replaced by
anything: the evaluation comes out alike. -/
theorem Indifferent.eval_replace {machine : Machine ρ} {other : Machine ρ'}
    {Match : ρ → ρ' → Prop} (indifferent : Indifferent machine other Match) {place : List Nat}
    {expr : Expr} {state : ρ} {state' : ρ'} (matched : Match state state')
    (unreached : machine.arrivals place expr state = []) (stranger : Expr) :
    Alike Match (machine.eval expr state) (other.eval (expr.replace place stranger) state') := by
  have there : ∀ part, expr.subtree? place = some part →
      UnlessArrived Match (machine.noting part) (other.eval stranger) := by
    intro part _ watched impossible
    -- Whoever arrives here has arrived somewhere, so there is nothing to compare.
    rw [machine.noting_eq] at impossible
    exact absurd impossible (List.append_ne_nil_of_right_ne_nil _ (List.cons_ne_nil _ _))
  have related : UnlessArrived Match (machine.evalNoting place expr)
      (other.evalWith other.eval place (expr.replace place stranger)) :=
    indifferent.unlessArrived.evalWith_replace there
  rw [other.evalWith_eval] at related
  have alike := (related ⟨state, []⟩ unreached).2 state' matched
  rw [machine.evalNoting_eq] at alike
  exact alike

/-- A record of a run does not bear on the run. Records of runs in one state that have
made the same requests stay so, whatever nodes they have attempted to enter. -/
theorem Context.recording_indifferent {σ : Type} (context : Context σ) (limits : Limits) :
    Indifferent (context.machine limits).recording (context.machine limits).recording
      fun recorded recorded' =>
        recorded.state = recorded'.state ∧ recorded.calls = recorded'.calls where
  enters node node' recorded recorded' := by
    rintro ⟨states, calls⟩
    have blind : (context.machine limits).enter node' recorded'.state =
        (context.machine limits).enter node recorded.state := by
      rw [states]
      rfl
    rcases attempt : (context.machine limits).enter node recorded.state with ⟨failure | _, after⟩
    · rw [Machine.recording_enter_error attempt,
        Machine.recording_enter_error (blind.trans attempt)]
      exact ⟨rfl, rfl, calls⟩
    · rw [Machine.recording_enter_ok attempt, Machine.recording_enter_ok (blind.trans attempt)]
      exact ⟨rfl, rfl, calls⟩
  leaves recorded recorded' := by
    rintro ⟨states, calls⟩
    exact ⟨congrArg (context.machine limits).leave states, calls⟩
  reads key type recorded recorded' := by
    rintro ⟨states, calls⟩
    simp only [Machine.recording, states, calls]
    exact ⟨rfl, rfl, rfl⟩
  writes key value recorded recorded' := by
    rintro ⟨states, calls⟩
    simp only [Machine.recording, states, calls]
    exact ⟨rfl, rfl, rfl⟩

namespace Expr

variable {σ : Type}

/-- What a run does not come to is irrelevant. If a run never arrives at a place of its
tree, any tree may stand there: the run has the same result, be it a value or an error
with its position, ends in the same state, counters included, and makes the same requests
with the same arguments. To arrive is to attempt to enter what stands at the place. And
wherever a run arrives at a node, it arrives below a child only if the node does not skip
the child: what it skips whenever it is arrived at, the run never comes to.

Proof: the run is recorded and watched. As long as it does not arrive at the place, the
run with the other tree takes the same steps, on machines that do not look at the nodes;
and if it ended without having arrived, they have ended alike. -/
theorem unreached_irrelevant (expr : Expr) (context : Context σ) (limits : Limits)
    (run : RunState σ) :
    (∀ place stranger, (context.machine limits).arrivals place expr run = [] →
      (expr.replace place stranger).evaluateIn context limits run =
          expr.evaluateIn context limits run ∧
        (context.machine limits).calls (expr.replace place stranger) run =
          (context.machine limits).calls expr run) ∧
    (∀ place part, expr.subtree? place = some part →
      ∀ arrival ∈ (context.machine limits).arrivals place expr run,
        ∃ visit ∈ (context.machine limits).visits expr run,
          visit.node = part ∧ visit.state = arrival) ∧
    (∀ place owner index below, expr.subtree? place = some owner →
      (∀ arrival ∈ (context.machine limits).arrivals place expr run,
        (context.machine limits).Skips arrival owner index) →
      (context.machine limits).arrivals (place ++ index :: below) expr run = []) := by
  let machine := context.machine limits
  refine ⟨fun place stranger unreached => ?_,
    fun place part found arrival arrived => machine.visit_of_arrival found arrived,
    fun place owner index below found skips =>
      Machine.arrivals_eq_nil_of_skips found skips below⟩
  have unrecorded : machine.recording.arrivals place expr (.start run) = [] := by
    rw [← List.map_eq_nil_iff, machine.recording_arrivals]
    exact unreached
  obtain ⟨sameResult, sameState, sameCalls⟩ :=
    (context.recording_indifferent limits).eval_replace ⟨rfl, rfl⟩ unrecorded stranger
  obtain ⟨result, state⟩ := machine.recording_eval expr (.start run)
  obtain ⟨result', state'⟩ := machine.recording_eval (expr.replace place stranger) (.start run)
  refine ⟨Prod.ext ?_ ?_, sameCalls.symm⟩
  · exact result'.symm.trans (sameResult.symm.trans result)
  · exact state'.symm.trans (sameState.symm.trans state)

/-- A choice by the size of a slot, of which one part writes another slot. -/
def keepLarge : Expr :=
  .branch ⟨⟨1, 1⟩, .integer⟩
    (.compare ⟨⟨1, 9⟩, .boolean⟩ .greater (Build.slot "item" (.named "item") .integer ⟨1, 4⟩)
      (Build.constant (.integer 9) ⟨1, 11⟩))
    (Build.setSlot "large" (.named "large") (Build.constant (.integer 1) ⟨2, 11⟩) ⟨2, 3⟩)
    (some (Build.constant (.integer 2) ⟨3, 3⟩))

/-- The slot is empty, so the condition is nil and the write is not come to. There may be
a read in its place. -/
theorem unreached_irrelevant_keepLarge :
    let machine := Slots.context.machine .none
    let other := keepLarge.replace [1] (Build.slot "other" (.named "other") .integer ⟨2, 3⟩)
    machine.Skips (.start .empty) keepLarge 1 ∧
      machine.arrivals [1] keepLarge (.start .empty) = [] ∧
      other.evaluateIn Slots.context .none (.start .empty) =
        keepLarge.evaluateIn Slots.context .none (.start .empty) ∧
      machine.calls other (.start .empty) = machine.calls keepLarge (.start .empty) := by
  intro machine other
  obtain ⟨irrelevant, _, notReached⟩ :=
    keepLarge.unreached_irrelevant Slots.context .none (.start .empty)
  have skips : machine.Skips (.start .empty) keepLarge 1 := by
    intro entered entering
    cases entering
    have yields : machine.eval (.compare ⟨⟨1, 9⟩, .boolean⟩ .greater
        (Build.slot "item" (.named "item") .integer ⟨1, 4⟩)
        (Build.constant (.integer 9) ⟨1, 11⟩)) ⟨⟨1, 1⟩, .empty⟩ =
        (.ok (.nil .boolean), ⟨⟨1, 4⟩, .empty⟩) := rfl
    exact .consequent yields nofun
  have unreached : machine.arrivals [1] keepLarge (.start .empty) = [] := by
    refine notReached [] keepLarge 1 [] rfl fun arrival arrived => ?_
    obtain rfl : arrival = .start .empty := List.mem_singleton.mp arrived
    exact skips
  exact ⟨skips, unreached, irrelevant [1] _ unreached⟩

end Expr

end RuleTree
