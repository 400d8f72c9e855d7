import RuleTree.Proofs.FaithfulEvaluation

/-!
# Laws of the connectives

What a boolean tree comes to is a truth value or nil, and coming to it may ask the context
for something and may fail. Every connective is a choice by such a decision: nil where the
decision is nil, one decision where it is true and another where it is false. Negation
chooses between the two truth values, a conjunction between its right operand and false, a
disjunction between true and its right operand. Choices by choices are choices by the first
of them, and the laws of the connectives follow from this, although the operands may have
effects, fail or not be come to, and although the connectives are not symmetric in nil.

A comparison is decided by its operands once both have been evaluated. Negating it is the
opposite comparison, which is nil for the same operands.

The laws are about operands that yield booleans. A tree that is asked for a boolean yields
one against a faithful context, and only there do the laws hold.
-/

namespace RuleTree

namespace Action

variable {ρ α β : Type}

/-- Sequences come out alike if they go on alike from every result that may be given. -/
theorem Keeps.run_bind_congr {Holds : ρ → Prop} {Fails : EvalError → ρ → Prop}
    {Gives : α → Prop} {first first' : Action ρ α} {next next' : α → Action ρ β} {state : ρ}
    (keeps : first.Keeps Holds Fails Gives) (held : Holds state)
    (before : first' state = first state)
    (later : ∀ result after, Gives result → Holds after →
      next' result after = next result after) :
    (first' >>= next') state = (first >>= next) state := by
  have kept := keeps state held
  rcases ran : first state with ⟨error | result, after⟩
  · rw [run_bind_error ran, run_bind_error (before.trans ran)]
  · rw [ran] at kept
    rw [run_bind_ok ran, run_bind_ok (before.trans ran)]
    exact later result after kept.1 kept.2

/-! ## Choices -/

/-- The decision for a truth value. -/
def decided (truth : Bool) : Action ρ (Option Bool) := pure (some truth)

/-- Decide by one of two decisions, as another decides. Where that is nil, the choice is
nil. -/
def choose (check whenTrue whenFalse : Action ρ (Option Bool)) : Action ρ (Option Bool) := do
  match ← check with
  | none => pure none
  | some true => whenTrue
  | some false => whenFalse

variable {check whenTrue whenFalse : Action ρ (Option Bool)}

/-- A choice by what is true. -/
@[simp] theorem choose_true : choose (decided true) whenTrue whenFalse = whenTrue := rfl

/-- A choice by what is false. -/
@[simp] theorem choose_false : choose (decided false) whenTrue whenFalse = whenFalse := rfl

/-- A choice between the truth values is what it is made by. -/
@[simp] theorem choose_decided : choose check (decided true) (decided false) = check := by
  have passedOn : choose check (decided true) (decided false) = check >>= pure := by
    refine congrArg (check >>= ·) (funext fun truth => ?_)
    rcases truth with _ | (_ | _) <;> rfl
  rw [passedOn, bind_pure]

/-- A choice by a choice is a choice by the first. -/
@[simp] theorem choose_choose {thenTrue thenFalse : Action ρ (Option Bool)} :
    choose (choose check whenTrue whenFalse) thenTrue thenFalse =
      choose check (choose whenTrue thenTrue thenFalse)
        (choose whenFalse thenTrue thenFalse) := by
  simp only [choose, bind_assoc]
  refine congrArg _ (funext fun truth => ?_)
  rcases truth with _ | (_ | _) <;> rfl

/-- From the states that hold, an action yields what is decided, and deciding it leaves a
state that holds. -/
structure Decides (Holds : ρ → Prop) (action : Action ρ Value)
    (decision : Action ρ (Option Bool)) : Prop where
  yields : ∀ state, Holds state →
    action state = (do
      let truth ← decision
      pure (ofTruth truth)) state
  keeps : decision.Keeps Holds (fun _ _ => True) fun _ => True

namespace Decides

variable {Holds : ρ → Prop} {action operand : Action ρ Value}
  {decision : Action ρ (Option Bool)} {state : ρ}

/-- A boolean constant. -/
theorem result (truth : Bool) : Decides Holds (pure (.boolean truth)) (decided truth) where
  yields _ _ := rfl
  keeps := .pure trivial

/-- The truth value of an operand is what it decides, whoever asks for it. -/
theorem run_truth (decides : Decides Holds operand decision) (position : Position)
    (held : Holds state) : truth position operand state = decision state := by
  have yielded := decides.yields state held
  rcases ran : decision state with ⟨error | truth, after⟩
  · rw [run_bind_error ran] at yielded
    exact run_bind_error yielded
  · rw [run_bind_ok ran] at yielded
    refine (run_bind_ok yielded).trans ?_
    cases truth <;> rfl

/-- Whoever asks an operand for its truth value, and goes on with nil where there is none,
chooses by what the operand decides. -/
theorem choose {next : Option Bool → Action ρ Value}
    {whenTrue whenFalse : Action ρ (Option Bool)} (decides : Decides Holds operand decision)
    (position : Position) (absent : next none = pure (.nil .boolean))
    (ofTrue : Decides Holds (next (some true)) whenTrue)
    (ofFalse : Decides Holds (next (some false)) whenFalse) :
    Decides Holds (truth position operand >>= next) (choose decision whenTrue whenFalse) where
  yields state held := by
    rw [Action.choose, bind_assoc]
    refine decides.keeps.run_bind_congr held (decides.run_truth position held) ?_
    intro truth after _ holds
    rcases truth with _ | (_ | _)
    · rw [absent]
      rfl
    · exact ofFalse.yields after holds
    · exact ofTrue.yields after holds
  keeps := by
    refine decides.keeps.bind fun truth _ => ?_
    rcases truth with _ | (_ | _)
    · exact .pure trivial
    · exact ofFalse.keeps
    · exact ofTrue.keeps

/-- An operand that is only asked for its truth value. -/
theorem shown (decides : Decides Holds operand decision) (position : Position) :
    Decides Holds (do
      let truth ← truth position operand
      pure (ofTruth truth)) decision := by
  have chosen : Decides Holds (truth position operand >>= fun truth => pure (ofTruth truth))
      (Action.choose decision (decided true) (decided false)) :=
    decides.choose position rfl (.result true) (.result false)
  rwa [choose_decided] at chosen

/-- Actions that yield one decision come out alike. -/
theorem unique {other : Action ρ Value} (decides : Decides Holds action decision)
    (decidesToo : Decides Holds other decision) (held : Holds state) :
    action state = other state :=
  (decides.yields state held).trans (decidesToo.yields state held).symm

end Decides

end Action

/-! ## Comparisons -/

namespace Value

/-- The truth value of a boolean that is there. -/
def truth? : Value → Option Bool
  | .boolean payload => some payload
  | _ => none

/-- What a boolean shows is its truth value, if it has one. -/
theorem Fits.ofTruth_truth? {value : Value} (fits : value.Fits .boolean) :
    Action.ofTruth value.truth? = value := by
  rcases fits.boolean_cases with rfl | ⟨payload, rfl⟩ <;> rfl

/-- Whether a comparison holds of two values. It is nil where the result is. -/
def holds? (comparison : Comparison) (left right : Value) : Option Bool :=
  match compared comparison left right with
  | .ok result => result.truth?
  | .error _ => none

end Value

/-- The comparison that holds where another does not. A match has none. -/
def Comparison.opposite? : Comparison → Option Comparison
  | .equal => some .notEqual
  | .notEqual => some .equal
  | .less => some .greaterEqual
  | .lessEqual => some .greater
  | .greater => some .lessEqual
  | .greaterEqual => some .less
  | .matching => none

/-- Opposite comparisons are made for the same operands. -/
theorem Comparison.Accepts.opposite {comparison opposite : Comparison} {left right : Signature}
    (accepts : comparison.Accepts left right)
    (opposed : comparison.opposite? = some opposite) : opposite.Accepts left right := by
  cases comparison <;> cases opposed <;> exact accepts

namespace Value

/-- Of two tests of an order that are never both met or both missed, one is the negation of
the other, for operands that have no order as well. -/
theorem holds?_ordered {comparison opposite : Comparison} {test other : Int64 → Bool}
    (left right : Value) (negated : ∀ order, other order = !test order)
    (ofTest : compared comparison left right =
      if left.isNil || right.isNil then .ok (.nil .boolean) else ordered test left right)
    (ofOther : compared opposite left right =
      if left.isNil || right.isNil then .ok (.nil .boolean) else ordered other left right) :
    holds? opposite left right = (holds? comparison left right).map (!·) := by
  by_cases absent : (left.isNil || right.isNil) = true
  · rw [if_pos absent] at ofTest ofOther
    rw [holds?, holds?, ofTest, ofOther]
    rfl
  · rw [if_neg absent] at ofTest ofOther
    rw [holds?, holds?, ofTest, ofOther]
    unfold ordered
    cases left.compare right with
    | error error => rfl
    | ok order =>
      cases order with
      | integer order => exact congrArg some (negated order)
      | _ => rfl

/-- A comparison holds where the opposite one does not, and both are nil for the same
operands. -/
theorem holds?_opposite {comparison opposite : Comparison} (left right : Value)
    (opposed : comparison.opposite? = some opposite) :
    holds? opposite left right = (holds? comparison left right).map (!·) := by
  have least (order : Int64) : decide (0 ≤ order) = !decide (order < 0) := by
    simp [← Int64.not_lt]
  have greatest (order : Int64) : decide (0 < order) = !decide (order ≤ 0) := by
    simp [← Int64.not_le]
  cases comparison with
  | equal =>
    cases opposed
    rfl
  | notEqual =>
    cases opposed
    simp [holds?, compared, truth?]
  | less =>
    cases opposed
    exact holds?_ordered left right least rfl rfl
  | lessEqual =>
    cases opposed
    exact holds?_ordered left right greatest rfl rfl
  | greater =>
    cases opposed
    exact holds?_ordered left right (fun order => by rw [greatest, Bool.not_not]) rfl rfl
  | greaterEqual =>
    cases opposed
    exact holds?_ordered left right (fun order => by rw [least, Bool.not_not]) rfl rfl
  | matching => cases opposed

end Value

/-! ## Trees that decide -/

variable {σ : Type}

/-- What a comparison of two trees decides: whether it holds of what they yield. -/
def Comparison.decision (comparison : Comparison) (left right : Expr) (context : Context σ) :
    Action σ (Option Bool) := do
  let first ← context.free.eval left
  let second ← context.free.eval right
  pure (Value.holds? comparison first second)

/-- Choosing the other truth value than a comparison does is choosing what the opposite
comparison does. -/
theorem Comparison.decision_opposite {comparison opposite : Comparison} {left right : Expr}
    {context : Context σ} (opposed : comparison.opposite? = some opposite) :
    Action.choose (comparison.decision left right context) (Action.decided false)
        (Action.decided true) = opposite.decision left right context := by
  simp only [Action.choose, decision, bind_assoc, pure_bind]
  refine congrArg _ (funext fun first => congrArg _ (funext fun second => ?_))
  rw [Value.holds?_opposite first second opposed]
  rcases Value.holds? comparison first second with _ | (_ | _) <;> rfl

/-- A built boolean tree, and what it decides against each context. Against a faithful
context its evaluation yields that. -/
structure Expr.DecidedBy (expr : Expr)
    (decision : (σ : Type) → Context σ → Action σ (Option Bool)) : Prop
    extends expr.BuiltAs .boolean where
  decides : ∀ {σ : Type} (context : Context σ) (Holds : σ → Prop), context.Faithful Holds →
    Action.Decides Holds (context.free.eval expr) (decision σ context)

/-- A tree is built that is decided so. -/
def Build.Makes (built : Except BuildError Expr)
    (decision : (σ : Type) → Context σ → Action σ (Option Bool)) : Prop :=
  ∃ expr, built = .ok expr ∧ expr.DecidedBy decision

/-- Both trees can be built, and they are interchangeable. -/
def Build.Alike (first second : Except BuildError Expr) : Prop :=
  ∃ expr expr', first = .ok expr ∧ second = .ok expr' ∧ expr.Interchangeable expr'

namespace Expr.DecidedBy

open RuleTree.Action (decided choose)

variable {a b c : Expr} {d e f : (σ : Type) → Context σ → Action σ (Option Bool)}

/-- Every built boolean tree decides what it yields. -/
theorem ofBuilt (ofA : a.BuiltAs .boolean) :
    a.DecidedBy fun _ context => context.free.eval a >>= fun value => pure value.truth? := by
  refine ⟨ofA, fun context Holds faithful => ⟨fun state held => ?_, ?_⟩⟩
  · rw [bind_assoc]
    rcases ofA.built.free_cases faithful held with
      ⟨error, after, ran⟩ | ⟨value, after, ran, fits, _⟩
    · rw [Action.run_bind_error ran, ran]
    · rw [ofA.typed] at fits
      rw [Action.run_bind_ok ran, ran, pure_bind, fits.ofTruth_truth?]
      rfl
  · exact (ofA.built.free_keeps faithful).bind fun value _ => .pure trivial

/-- A boolean constant. -/
theorem constant (truth : Bool) (position : Position) :
    (Build.constant (.boolean truth) position).DecidedBy fun _ _ => decided truth where
  built := .constant _ _ (.boolean truth)
  typed := rfl
  decides _ _ _ := .result truth

/-- A negation chooses the other truth value. -/
theorem negation (ofA : a.DecidedBy d) (position : Position) :
    Build.Makes (Build.negation a position) fun σ context =>
      choose (d σ context) (decided false) (decided true) := by
  have accepted : Build.negation a position = .ok (.negation ⟨position, .boolean⟩ a) := by
    rw [Build.negation, Build.expectType_eq_ok ofA.typed]
    rfl
  refine ⟨_, accepted, ⟨.negation a position _ ofA.built accepted, rfl⟩, ?_⟩
  intro σ context Holds faithful
  rw [context.free_eval]
  exact (ofA.decides context Holds faithful).choose position rfl (.result false) (.result true)

/-- A conjunction chooses between its right operand and false. -/
theorem both (ofA : a.DecidedBy d) (ofB : b.DecidedBy e) (position : Position) :
    Build.Makes (Build.both a b position) fun σ context =>
      choose (d σ context) (e σ context) (decided false) := by
  have accepted : Build.both a b position = .ok (.both ⟨position, .boolean⟩ a b) := by
    rw [Build.both, Build.expectType_eq_ok ofA.typed, Build.expectType_eq_ok ofB.typed]
    rfl
  refine ⟨_, accepted, ⟨.both a b position _ ofA.built ofB.built accepted, rfl⟩, ?_⟩
  intro σ context Holds faithful
  rw [context.free_eval]
  exact (ofA.decides context Holds faithful).choose position rfl
    ((ofB.decides context Holds faithful).shown position) (.result false)

/-- A disjunction chooses between true and its right operand. -/
theorem either (ofA : a.DecidedBy d) (ofB : b.DecidedBy e) (position : Position) :
    Build.Makes (Build.either a b position) fun σ context =>
      choose (d σ context) (decided true) (e σ context) := by
  have accepted : Build.either a b position = .ok (.either ⟨position, .boolean⟩ a b) := by
    rw [Build.either, Build.expectType_eq_ok ofA.typed, Build.expectType_eq_ok ofB.typed]
    rfl
  refine ⟨_, accepted, ⟨.either a b position _ ofA.built ofB.built accepted, rfl⟩, ?_⟩
  intro σ context Holds faithful
  rw [context.free_eval]
  exact (ofA.decides context Holds faithful).choose position rfl (.result true)
    ((ofB.decides context Holds faithful).shown position)

/-- A conditional of two boolean parts chooses between them. -/
theorem branch (ofA : a.DecidedBy d) (ofB : b.DecidedBy e) (ofC : c.DecidedBy f)
    (position : Position) :
    Build.Makes (Build.branch a b (some c) position) fun σ context =>
      choose (d σ context) (e σ context) (f σ context) := by
  have accepted : Build.branch a b (some c) position =
      .ok (.branch ⟨position, .boolean⟩ a b (some c)) := by
    have same : Build.expectSame "if" b c = .ok () :=
      Build.expectSame_eq_ok (ofB.typed.trans ofC.typed.symm)
    rw [Build.branch, Build.expectType_eq_ok ofA.typed, Build.expectOptional, same, ofB.typed]
    rfl
  have built : Built (.branch ⟨position, .boolean⟩ a b (some c)) := by
    refine .branch a b (some c) position _ ofA.built ofB.built ?_ accepted
    rintro part ⟨rfl⟩
    exact ofC.built
  refine ⟨_, accepted, ⟨built, rfl⟩, ?_⟩
  intro σ context Holds faithful
  rw [context.free_eval]
  exact (ofA.decides context Holds faithful).choose position rfl
    (ofB.decides context Holds faithful) (ofC.decides context Holds faithful)

/-- A comparison that is made for its operands decides whether it holds of what they
yield. -/
theorem comparison {comparison : Comparison} {left right : Expr} (ofLeft : Built left)
    (ofRight : Built right) (accepts : comparison.Accepts left.type right.type)
    (position : Position) :
    Build.Makes (Build.compare comparison left right position) fun _ context =>
      comparison.decision left right context := by
  have accepted : Build.compare comparison left right position =
      .ok (.compare ⟨position, .boolean⟩ comparison left right) := by
    rw [Build.compare, Build.expectOperands_eq_ok ofRight.wellTyped accepts]
    rfl
  have built := Built.compare comparison left right position _ ofLeft ofRight accepted
  refine ⟨_, accepted, ⟨built, rfl⟩, ?_⟩
  intro σ context Holds faithful
  have keepsLeft := ofLeft.free_keeps faithful
  have keepsRight := ofRight.free_keeps faithful
  rw [context.free_eval]
  refine ⟨fun state held => ?_, ?_⟩
  · simp only [Comparison.decision, bind_assoc, pure_bind]
    refine keepsLeft.run_bind_congr held rfl fun first after fitsFirst holds => ?_
    refine keepsRight.run_bind_congr holds rfl fun second last fitsSecond _ => ?_
    obtain ⟨result, computed, fits⟩ := Value.compared_fits accepts fitsFirst fitsSecond
    rw [Action.run_ofValue_ok computed, Value.holds?, computed]
    exact congrArg (fun value => (Except.ok value, last)) fits.ofTruth_truth?.symm
  · exact keepsLeft.bind fun first _ => keepsRight.bind fun second _ => .pure trivial

end Expr.DecidedBy

namespace Build

variable {built first second : Except BuildError Expr}
  {decision other : (σ : Type) → Context σ → Action σ (Option Bool)}

/-- What is built is an operand of what is built from it. -/
theorem Makes.bind {next : Expr → Except BuildError Expr} (makes : Makes built decision)
    (later : ∀ expr, expr.DecidedBy decision → Makes (next expr) other) :
    Makes (built >>= next) other := by
  obtain ⟨expr, rfl, decided⟩ := makes
  exact later expr decided

/-- Trees that decide the same are interchangeable. -/
theorem Makes.alike (makes : Makes first decision) (makesToo : Makes second other)
    (same : ∀ σ (context : Context σ), decision σ context = other σ context) :
    Alike first second := by
  obtain ⟨expr, made, decided⟩ := makes
  obtain ⟨expr', made', decided'⟩ := makesToo
  refine ⟨expr, expr', made, made', ?_⟩
  refine .of_free decided.built decided'.built (decided.typed.trans decided'.typed.symm) ?_
  intro σ context Holds faithful state held
  have decides := decided.decides context Holds faithful
  rw [same] at decides
  exact decides.unique (decided'.decides context Holds faithful) held

/-! ## The laws -/

variable {a b c left right : Expr} {d e f : (σ : Type) → Context σ → Action σ (Option Bool)}

/-- A double negation is no negation. -/
theorem negation_negation (ofA : a.DecidedBy d) (p q : Position) :
    Alike (do
      let denied ← negation a p
      negation denied q) (.ok a) := by
  have twice := (ofA.negation p).bind fun _ denied => denied.negation q
  exact twice.alike ⟨a, rfl, ofA⟩ fun σ context => by simp

/-- The negation of a conjunction is the disjunction of the negations. -/
theorem negation_both (ofA : a.DecidedBy d) (ofB : b.DecidedBy e) (p q r s t : Position) :
    Alike (do
      let joined ← both a b p
      negation joined q) (do
      let deniedLeft ← negation a r
      let deniedRight ← negation b s
      either deniedLeft deniedRight t) := by
  have denied := (ofA.both ofB p).bind fun _ joined => joined.negation q
  have inside := (ofA.negation r).bind fun _ deniedLeft =>
    (ofB.negation s).bind fun _ deniedRight => deniedLeft.either deniedRight t
  exact denied.alike inside fun σ context => by simp

/-- The negation of a disjunction is the conjunction of the negations. -/
theorem negation_either (ofA : a.DecidedBy d) (ofB : b.DecidedBy e) (p q r s t : Position) :
    Alike (do
      let joined ← either a b p
      negation joined q) (do
      let deniedLeft ← negation a r
      let deniedRight ← negation b s
      both deniedLeft deniedRight t) := by
  have denied := (ofA.either ofB p).bind fun _ joined => joined.negation q
  have inside := (ofA.negation r).bind fun _ deniedLeft =>
    (ofB.negation s).bind fun _ deniedRight => deniedLeft.both deniedRight t
  exact denied.alike inside fun σ context => by simp

/-- Conjunctions may be regrouped. -/
theorem both_assoc (ofA : a.DecidedBy d) (ofB : b.DecidedBy e) (ofC : c.DecidedBy f)
    (p q r s : Position) :
    Alike (do
      let joined ← both a b p
      both joined c q) (do
      let joined ← both b c r
      both a joined s) := by
  have first := (ofA.both ofB p).bind fun _ joined => joined.both ofC q
  have second := (ofB.both ofC r).bind fun _ joined => ofA.both joined s
  exact first.alike second fun σ context => by simp

/-- Disjunctions may be regrouped. -/
theorem either_assoc (ofA : a.DecidedBy d) (ofB : b.DecidedBy e) (ofC : c.DecidedBy f)
    (p q r s : Position) :
    Alike (do
      let joined ← either a b p
      either joined c q) (do
      let joined ← either b c r
      either a joined s) := by
  have first := (ofA.either ofB p).bind fun _ joined => joined.either ofC q
  have second := (ofB.either ofC r).bind fun _ joined => ofA.either joined s
  exact first.alike second fun σ context => by simp

/-- A conjunction is a conditional that is false otherwise. -/
theorem both_branch (ofA : a.DecidedBy d) (ofB : b.DecidedBy e) (p q r : Position) :
    Alike (both a b p) (branch a b (some (constant (.boolean false) q)) r) :=
  (ofA.both ofB p).alike (ofA.branch ofB (.constant false q) r) fun _ _ => rfl

/-- A disjunction is a conditional that is true at once. -/
theorem either_branch (ofA : a.DecidedBy d) (ofB : b.DecidedBy e) (p q r : Position) :
    Alike (either a b p) (branch a (constant (.boolean true) q) (some b) r) :=
  (ofA.either ofB p).alike (ofA.branch (.constant true q) ofB r) fun _ _ => rfl

/-- The negation of a comparison is the opposite comparison. -/
theorem negation_compare (comparison : Comparison) {opposite : Comparison}
    (opposed : comparison.opposite? = some opposite) (ofLeft : Built left)
    (ofRight : Built right) (accepts : comparison.Accepts left.type right.type)
    (p q r : Position) :
    Alike (do
      let compared ← compare comparison left right p
      negation compared q) (compare opposite left right r) := by
  have denied := (Expr.DecidedBy.comparison ofLeft ofRight accepts p).bind
    fun _ compared => compared.negation q
  have made := Expr.DecidedBy.comparison ofLeft ofRight (accepts.opposite opposed) r
  exact denied.alike made fun σ context => Comparison.decision_opposite opposed

/-- The laws of the connectives for boolean, integer and other built trees. Both sides of
each law can be built, whatever the positions of their operators, and against every faithful
context they have one result without limits, be it a value or an error with its position,
leave one state and make the same requests in the same order.

Proof: both sides are choices by what the operands decide, and the choices are equal. -/
theorem connective_laws {a b c x y u v : Expr} (ofA : a.BuiltAs .boolean)
    (ofB : b.BuiltAs .boolean) (ofC : c.BuiltAs .boolean) (ofX : x.BuiltAs .integer)
    (ofY : y.BuiltAs .integer) (ofU : Built u) (ofV : Built v) (p q r s t : Position) :
    Alike (do
        let denied ← negation a p
        negation denied q)
      (.ok a) ∧
    Alike (do
        let joined ← both a b p
        negation joined q)
      (do
        let deniedLeft ← negation a r
        let deniedRight ← negation b s
        either deniedLeft deniedRight t) ∧
    Alike (do
        let joined ← either a b p
        negation joined q)
      (do
        let deniedLeft ← negation a r
        let deniedRight ← negation b s
        both deniedLeft deniedRight t) ∧
    Alike (do
        let joined ← both a b p
        both joined c q)
      (do
        let joined ← both b c r
        both a joined s) ∧
    Alike (do
        let joined ← either a b p
        either joined c q)
      (do
        let joined ← either b c r
        either a joined s) ∧
    Alike (both a b p) (branch a b (some (constant (.boolean false) q)) r) ∧
    Alike (either a b p) (branch a (constant (.boolean true) q) (some b) r) ∧
    Alike (do
        let less ← compare .less x y p
        negation less q)
      (compare .greaterEqual x y r) ∧
    Alike (do
        let lessEqual ← compare .lessEqual x y p
        negation lessEqual q)
      (compare .greater x y r) ∧
    Alike (do
        let equal ← compare .equal u v p
        negation equal q)
      (compare .notEqual u v r) := by
  have decidesA := Expr.DecidedBy.ofBuilt ofA
  have decidesB := Expr.DecidedBy.ofBuilt ofB
  have decidesC := Expr.DecidedBy.ofBuilt ofC
  have integers : x.type = .integer ∧ y.type = .integer := ⟨ofX.typed, ofY.typed⟩
  exact ⟨negation_negation decidesA p q, negation_both decidesA decidesB p q r s t,
    negation_either decidesA decidesB p q r s t, both_assoc decidesA decidesB decidesC p q r s,
    either_assoc decidesA decidesB decidesC p q r s, both_branch decidesA decidesB p q r,
    either_branch decidesA decidesB p q r,
    negation_compare .less rfl ofX.built ofY.built integers p q r,
    negation_compare .lessEqual rfl ofX.built ofY.built integers p q r,
    negation_compare .equal rfl ofU ofV trivial p q r⟩

/-- An assignment of true to a slot. -/
def raiseDone : Expr :=
  setSlot "done" (.named "done") (constant (.boolean true) ⟨1, 8⟩) ⟨1, 1⟩

/-- A read of a boolean slot. -/
def readReady : Expr := slot "ready" (.named "ready") .boolean ⟨1, 20⟩

/-- A read of an integer slot. -/
def readCount : Expr := slot "count" (.named "count") .integer ⟨1, 30⟩

/-- An assignment and a read of another slot. The negation of their conjunction writes the
one slot and reads the other, and so does the disjunction of their negations. -/
theorem connective_laws_raiseThenRead :
    raiseDone.BuiltAs .boolean ∧ readReady.BuiltAs .boolean ∧ readCount.BuiltAs .integer ∧
      ∃ denied inside,
        (do
          let joined ← both raiseDone readReady ⟨1, 15⟩
          negation joined ⟨1, 0⟩) = .ok denied ∧
        (do
          let deniedLeft ← negation raiseDone ⟨1, 0⟩
          let deniedRight ← negation readReady ⟨1, 19⟩
          either deniedLeft deniedRight ⟨1, 15⟩) = .ok inside ∧
        denied.calls Slots.context .none .empty = inside.calls Slots.context .none .empty ∧
        (inside.calls Slots.context .none .empty).length = 2 := by
  have ofRaise : raiseDone.BuiltAs .boolean :=
    ⟨.setSlot _ _ _ _ (.constant _ _ (.boolean true)), rfl⟩
  have ofReady : readReady.BuiltAs .boolean := ⟨.slot _ _ _ _, rfl⟩
  have ofCount : readCount.BuiltAs .integer := ⟨.slot _ _ _ _, rfl⟩
  obtain ⟨_, ⟨denied, inside, madeDenied, madeInside, alike⟩, _⟩ :=
    connective_laws ofRaise ofReady ofReady ofCount ofCount ofRaise.built ofCount.built
      ⟨1, 15⟩ ⟨1, 0⟩ ⟨1, 0⟩ ⟨1, 19⟩ ⟨1, 15⟩
  refine ⟨ofRaise, ofReady, ofCount, denied, inside, madeDenied, madeInside,
    alike.sameCalls Slots.context _ Slots.context_faithful .empty (Slots.all_empty _), ?_⟩
  obtain rfl := Except.ok.inj madeInside
  rfl

end Build

end RuleTree
