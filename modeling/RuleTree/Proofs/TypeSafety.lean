import RuleTree.Eval.Limits
import RuleTree.Proofs.Recording
import RuleTree.Proofs.SlotContents
import RuleTree.Proofs.TypeSoundness

/-!
# What the evaluation of a built tree comes to

A context is faithful if what it gives under a key is well formed and of the type
that was asked for. Against a faithful context and under any limits, a built tree
yields a well-formed value of its own type or fails in one of four ways: the
context fails, a limit is reached, a container that is there is assigned to, or a
map that is there is asked for an index. No operation on values fails otherwise.

The plain context is faithful as long as its slots hold well-formed values. This
depends on its state, so faithfulness has an invariant; writes may rely on a
well-formed value and have to keep it.
-/

namespace RuleTree

variable {σ : Type}

/-- A context that gives well-formed values of the types that are asked for, as
long as its state holds. For a context that does so from every state, every state
holds and nothing is asked of reads and writes. -/
structure Context.Faithful (context : Context σ) (Holds : σ → Prop) : Prop where
  reads : ∀ key type state value after, Holds state →
    context.read key type state = (.ok value, after) → value.WellFormed ∧ value.signature = type
  readsHold : ∀ key type state, Holds state → Holds (context.read key type state).2
  writesHold : ∀ key value state, Holds state → value.WellFormed →
    Holds (context.write key value state).2

/-- A failure that is no violated invariant: the context failed, or a limit was
reached. -/
inductive Failure.Ordinary : Failure → Prop
  | context (error : ContextError) : Ordinary (.context error)
  | depth (limit : Nat) : Ordinary (.depthExceeded limit)
  | budget (budget : Nat) : Ordinary (.budgetExceeded budget)

/-- A node may be refused for reaching a limit, and for nothing else. -/
theorem Counters.enter_error {limits : Limits} {counters after : Counters} {failure : Failure}
    (refused : counters.enter limits = (.error failure, after)) : failure.Ordinary := by
  unfold enter at refused
  dsimp only at refused
  split at refused
  · cases refused
    exact .budget _
  · split at refused
    · cases refused
      exact .depth _
    · cases refused

namespace Machine

variable {ρ : Type}

/-- An error that is explained by what was recorded: it is an ordinary failure, or
among the nodes of the tree that were entered there is one that was misused. -/
def Explained (machine : Machine ρ) (root : Expr) (error : EvalError) (recorded : Recorded ρ) :
    Prop :=
  error.failure.Ordinary ∨ ∃ visit ∈ recorded.visits, visit.node ∈ root.nodes ∧
    ∃ after, machine.Misuse visit.node visit.state error after

/-- Where a recorded node is misused, the node itself is misused, and the attempt to
enter it has been recorded. -/
theorem misuse_of_recording {machine : Machine ρ} {node : Expr} {error : EvalError}
    {recorded after : Recorded ρ} (misuse : machine.recording.Misuse node recorded error after) :
    recorded.visit node ∈ after.visits ∧
      machine.Misuse node recorded.state error after.state := by
  cases misuse with
  | assigned tag label key value target _ inside valued _ result container entering ofValue ofTarget
      present =>
    obtain ⟨entered, attempt, rfl⟩ := enter_of_recording entering
    refine ⟨?_, .assigned tag label key value target _ entered valued.state _ result container
      attempt (eval_of_recording ofValue) (eval_of_recording ofTarget) present⟩
    exact mem_visits_of_recording ofTarget
      (mem_visits_of_recording ofValue List.mem_concat_self)
  | indexed tag label index source _ inside _ unit entries entering ofSource =>
    obtain ⟨entered, attempt, rfl⟩ := enter_of_recording entering
    refine ⟨?_, .indexed tag label index source _ entered _ unit entries attempt
      (eval_of_recording ofSource)⟩
    exact mem_visits_of_recording ofSource List.mem_concat_self

end Machine

/-- Leaving a node changes neither the state of a context nor what was recorded. -/
theorem Context.leaves (context : Context σ) (Holds : σ → Prop) (limits : Limits) (root : Expr) :
    (context.machine limits).recording.Leaves (fun recorded => Holds recorded.state.context)
      ((context.machine limits).Explained root) where
  held _ held := held
  failed _ _ explained := explained

/-- A machine whose requests are answered by a context, which sees a part of the state. -/
structure Context.Answers {ρ : Type} (context : Context σ) (machine : Machine ρ)
    (part : ρ → σ) : Prop where
  reads : ∀ key type state,
    (machine.read key type state).1 = (context.read key type (part state)).1 ∧
      part (machine.read key type state).2 = (context.read key type (part state)).2
  writes : ∀ key value state,
    part (machine.write key value state).2 = (context.write key value (part state)).2

section Requests

variable {ρ : Type} {context : Context σ} {Holds : σ → Prop} {machine : Machine ρ}
  {part : ρ → σ} {Fails : EvalError → ρ → Prop}

/-- Reads that a faithful context answers give values of the type that is asked for. -/
theorem Context.Faithful.readAt_keeps (faithful : context.Faithful Holds)
    (answers : context.Answers machine part)
    (admits : ∀ error position state, Fails ⟨.context error, position⟩ state)
    (tag : Tag) (key : Key) :
    (machine.readAt tag key).Keeps (fun state => Holds (part state)) Fails (·.Fits tag.type) := by
  refine .ofRequest (fun state value after held answer => ?_) fun _ _ _ _ _ => admits _ _ _
  obtain ⟨given, kept⟩ := answers.reads key tag.type state
  rw [answer] at given kept
  have holds := faithful.readsHold key tag.type (part state) held
  rw [← kept] at holds
  obtain ⟨formed, typed⟩ :=
    faithful.reads key tag.type (part state) value _ held (Prod.ext given.symm rfl)
  exact ⟨⟨formed, typed⟩, holds⟩

/-- Writes of well-formed values that a faithful context answers leave states that hold. -/
theorem Context.Faithful.writeAt_keeps (faithful : context.Faithful Holds)
    (answers : context.Answers machine part)
    (admits : ∀ error position state, Fails ⟨.context error, position⟩ state)
    (tag : Tag) (key : Key) {value : Value} (formed : value.WellFormed) :
    (machine.writeAt tag key value).Keeps (fun state => Holds (part state)) Fails
      fun _ => True := by
  refine .ofRequest (fun state _ after held answer => ⟨trivial, ?_⟩) fun _ _ _ _ _ => admits _ _ _
  have kept := answers.writes key value state
  rw [answer] at kept
  have holds := faithful.writesHold key value (part state) held formed
  rwa [← kept] at holds

end Requests

/-- The machine of a faithful context serves every node of a tree, where errors are
explained by what was recorded. -/
theorem Context.Faithful.serves {context : Context σ} {Holds : σ → Prop}
    (faithful : context.Faithful Holds) (limits : Limits) {root node : Expr}
    (member : node ∈ root.nodes) :
    (context.machine limits).recording.Serves (fun recorded => Holds recorded.state.context)
      ((context.machine limits).Explained root) node := by
  have answers : context.Answers (context.machine limits).recording (·.state.context) :=
    ⟨fun _ _ _ => ⟨rfl, rfl⟩, fun _ _ _ => rfl⟩
  have admits (error : ContextError) (position : Option Position)
      (recorded : Recorded (RunState σ)) :
      (context.machine limits).Explained root ⟨.context error, position⟩ recorded :=
    .inl (.context error)
  refine ⟨?enters, ?refuses, fun tag _ key _ => faithful.readAt_keeps answers admits tag key,
    fun tag _ key _ _ _ fits => faithful.writeAt_keeps answers admits tag key fits.formed,
    fun tag _ _ _ key _ _ fits => faithful.writeAt_keeps answers admits tag key fits.formed,
    ?misuses⟩
  case enters =>
    intro recorded inside held entering
    obtain ⟨entered, attempt, rfl⟩ := Machine.enter_of_recording entering
    obtain rfl := congrArg Prod.snd attempt
    exact held
  case refuses =>
    intro recorded failure outside held entering
    obtain ⟨refused, attempt, rfl⟩ := Machine.refusal_of_recording entering
    have limited : (recorded.state.counters.enter limits).1 = .error failure :=
      congrArg Prod.fst attempt
    exact .inl (Counters.enter_error (Prod.ext limited rfl))
  case misuses =>
    intro recorded error after _ misuse _
    obtain ⟨visited, misused⟩ := Machine.misuse_of_recording misuse
    exact .inr ⟨recorded.visit node, visited, member, after.state, misused⟩

/-- The plain context is faithful as long as its slots hold well-formed values. -/
theorem Slots.context_faithful :
    Slots.context.Faithful (Slots.All fun _ value => value.WellFormed) where
  reads key type slots value after held answer := by
    have given : slots.read key type = .ok value := congrArg Prod.fst answer
    rcases Slots.read_ok given with rfl | ⟨name, _, found, typed⟩
    · exact ⟨.nil type, rfl⟩
    · exact ⟨held name value found, typed⟩
  readsHold _ _ _ held := held
  writesHold key value slots held formed := by
    cases key with
    | indexed index => exact held
    | named name => exact held.insert formed

/-- From every state that holds, the recorded evaluation of a built tree gives a
value that fits the tree, or fails in a way that the record explains. -/
theorem Built.recorded_kept {context : Context σ} {Holds : σ → Prop}
    (faithful : context.Faithful Holds) (limits : Limits) {expr : Expr} (built : Built expr)
    {run : RunState σ} (held : Holds run.context) :
    Action.Kept (fun recorded => Holds recorded.state.context)
      ((context.machine limits).Explained expr) (·.Fits expr.type)
      ((context.machine limits).recording.eval expr (.start run)) :=
  built.wellTyped.keeps (fun _ member => faithful.serves limits member)
    (context.leaves Holds limits expr) (.start run) held

/-- A value that a built tree yields fits the tree. -/
theorem Built.fits {context : Context σ} {Holds : σ → Prop} (faithful : context.Faithful Holds)
    {limits : Limits} {expr : Expr} (built : Built expr) {run : RunState σ}
    (held : Holds run.context) {value : Value}
    (yielded : (expr.evaluateIn context limits run).1 = .ok value) : value.Fits expr.type := by
  have kept := built.recorded_kept faithful limits held
  have same := ((context.machine limits).recording_eval expr (.start run)).1.trans yielded
  rcases ran : (context.machine limits).recording.eval expr (.start run) with ⟨_ | result, recorded⟩
  · rw [ran] at same
    cases same
  · rw [ran] at same kept
    cases same
    exact kept.1

/-- A failure of a built tree is explained by what was recorded. -/
theorem Built.explained {context : Context σ} {Holds : σ → Prop} (faithful : context.Faithful Holds)
    {limits : Limits} {expr : Expr} (built : Built expr) {run : RunState σ}
    (held : Holds run.context) {error : EvalError}
    (failed : (expr.evaluateIn context limits run).1 = .error error) :
    (context.machine limits).Explained expr error ((context.machine limits).record expr run) := by
  have kept := built.recorded_kept faithful limits held
  have same := ((context.machine limits).recording_eval expr (.start run)).1.trans failed
  unfold Machine.record
  rcases ran : (context.machine limits).recording.eval expr (.start run) with ⟨_ | result, recorded⟩
  · rw [ran] at same kept
    cases same
    exact kept
  · rw [ran] at same
    cases same

/-- The evaluation of a built tree, under any limits and in the middle of any run,
against a context that is faithful: a value that it yields is well formed and of
the type of the tree; if it fails, the context failed, a limit was reached, or a
node of the tree that was entered was misused, which is the node that the failure
names. The plain context is faithful over well-formed values. -/
theorem Built.type_sound :
    Slots.context.Faithful (Slots.All fun _ value => value.WellFormed) ∧
      ∀ {σ : Type} (context : Context σ) (Holds : σ → Prop), context.Faithful Holds →
        ∀ (limits : Limits) (expr : Expr), Built expr →
        ∀ run : RunState σ, Holds run.context →
          (∀ value, (expr.evaluateIn context limits run).1 = .ok value →
            value.WellFormed ∧ value.signature = expr.type) ∧
          ∀ error, (expr.evaluateIn context limits run).1 = .error error →
            error.failure.Ordinary ∨
              ∃ visit ∈ (context.machine limits).visits expr run, visit.node ∈ expr.nodes ∧
                ∃ after, (context.machine limits).Misuse visit.node visit.state error after := by
  refine ⟨Slots.context_faithful, ?_⟩
  intro σ context Holds faithful limits expr built run held
  constructor
  · intro value yielded
    have fits := built.fits faithful held yielded
    exact ⟨fits.formed, fits.typed⟩
  · intro error failed
    exact built.explained faithful held failed

/-- A loop over the rows in a slot that copies each to another slot. A row is a list of
texts. -/
def Expr.copyRows : Expr :=
  .loop ⟨⟨1, 1⟩, .list .string⟩
    (Build.slot "rows" (.named "rows") (.list (.list .string)) ⟨1, 5⟩)
    (Build.setSlot "last" (.named "last")
      (Build.slot "row" (.named "row") (.list .string) ⟨2, 10⟩) ⟨2, 3⟩)
    none (.named "row")

/-- A row with a text and an absent text. -/
def Value.row : Value := .list .string [.string "a", .nil .string]

/-- Where the slot holds an absent row and one that is there, the loop yields the second,
which is of the type of the loop. Where it holds a single row, the context refuses to read
rows from it, and that is an ordinary failure. -/
theorem Built.type_sound_copyRows :
    let rows := Slots.empty.insert "rows" (.list (.list .string) [.nil (.list .string), .row])
    let single := Slots.empty.insert "rows" .row
    let refused : EvalError :=
      ⟨.context (.typeMismatch (.named "rows") (.list (.list .string)) (.list .string)),
        some ⟨1, 5⟩⟩
    Built Expr.copyRows ∧
      (Expr.copyRows.evaluateIn Slots.context .none (.start rows)).1 = .ok .row ∧
      Value.row.WellFormed ∧ Value.row.signature = Expr.copyRows.type ∧
      (Expr.copyRows.evaluateIn Slots.context .none (.start single)).1 = .error refused ∧
      (refused.failure.Ordinary ∨
        ∃ visit ∈ (Slots.context.machine .none).visits Expr.copyRows (.start single),
          visit.node ∈ Expr.copyRows.nodes ∧ ∃ after,
            (Slots.context.machine .none).Misuse visit.node visit.state refused after) := by
  intro rows single refused
  have copies : Built (Build.setSlot "last" (.named "last")
      (Build.slot "row" (.named "row") (.list .string) ⟨2, 10⟩) ⟨2, 3⟩) :=
    .setSlot _ _ _ _ (.slot _ _ _ _)
  have source : Built (Build.slot "rows" (.named "rows") (.list (.list .string)) ⟨1, 5⟩) :=
    .slot _ _ _ _
  have built : Built Expr.copyRows :=
    .loop _ _ none (.named "row") ⟨1, 1⟩ _ source copies (fun _ absent => nomatch absent) rfl
  have row : Value.row.WellFormed :=
    .list _ _ (.cons _ _ _ (.string "a") rfl (.cons _ _ _ (.nil .string) rfl (.nil _)))
  have ofRows : rows.All fun _ value => value.WellFormed :=
    (Slots.all_empty _).insert (.list _ _
      (.cons _ _ _ (.nil (.list .string)) rfl (.cons _ _ _ row rfl (.nil _))))
  have ofSingle : single.All fun _ value => value.WellFormed := (Slots.all_empty _).insert row
  have yielded : (Expr.copyRows.evaluateIn Slots.context .none (.start rows)).1 = .ok .row := rfl
  have failed : (Expr.copyRows.evaluateIn Slots.context .none (.start single)).1 =
      .error refused := rfl
  obtain ⟨faithful, sound⟩ := Built.type_sound
  obtain ⟨formed, typed⟩ :=
    (sound Slots.context _ faithful .none Expr.copyRows built (.start rows) ofRows).1 _ yielded
  have explained :=
    (sound Slots.context _ faithful .none Expr.copyRows built (.start single) ofSingle).2 _ failed
  exact ⟨built, yielded, formed, typed, failed, explained⟩

/-! ## When a built tree violates an invariant -/

/-- Whether a node assigns to an entry. -/
def Expr.assignsEntry : Expr → Bool
  | .setEntry .. => true
  | _ => false

/-- In the course of the evaluation of a tree, a map that is there is asked for an
index. -/
def Machine.IndexesMap {ρ : Type} (machine : Machine ρ) (expr : Expr) (state : ρ) : Prop :=
  ∃ visit ∈ machine.visits expr state, ∃ tag label index source entered unit entries after,
    visit.node = .entry tag label (.indexed index) source ∧
    machine.enter visit.node visit.state = (.ok (), entered) ∧
    machine.eval source entered = (.ok (.map unit entries), after)

/-- A node that asks a map that is there for an index fails. -/
theorem Machine.eval_entry_indexed {ρ : Type} {machine : Machine ρ} {tag : Tag} {label : String}
    {index : Int64} {source : Expr} {state entered after : ρ} {unit : Signature}
    {entries : List (String × List Value)}
    (entering : machine.enter (.entry tag label (.indexed index) source) state = (.ok (), entered))
    (sourced : machine.eval source entered = (.ok (.map unit entries), after)) :
    (machine.eval (.entry tag label (.indexed index) source) state).1 =
      .error ⟨.invariant (.invalidKey (.indexed index)), some tag.position⟩ := by
  rw [machine.eval_eq, node_entered entering]
  change ((machine.eval source >>= _) entered).1 = _
  rw [Action.run_bind_ok sourced]
  rfl

/-- A violated invariant is no ordinary failure. -/
theorem EvalError.not_ordinary {error : EvalError} (violated : error.isInvariantViolation = true) :
    ¬ error.failure.Ordinary := by
  obtain ⟨failure, position⟩ := error
  intro ordinary
  cases ordinary <;> cases violated

/-- A built tree that assigns to no entry violates an invariant exactly if in the
course of its evaluation a map that is there is asked for an index.

Proof: a violation is not ordinary, so it is explained by a misused node, and of
the two kinds of misuse the tree has one. Conversely the node that asks for the
index fails, and what an evaluation has come to at a node that fails it has come
to as a whole. -/
theorem Built.violation_iff_indexesMap {context : Context σ} {Holds : σ → Prop}
    (faithful : context.Faithful Holds) (limits : Limits) {expr : Expr} (built : Built expr)
    (unassigned : ∀ node ∈ expr.nodes, node.assignsEntry = false) (run : RunState σ)
    (held : Holds run.context) :
    (∃ error, (expr.evaluateIn context limits run).1 = .error error ∧
      error.isInvariantViolation = true) ↔ (context.machine limits).IndexesMap expr run := by
  constructor
  · rintro ⟨error, failed, violated⟩
    rcases built.explained faithful held failed with
      ordinary | ⟨visit, visited, inside, after, misuse⟩
    · exact absurd ordinary (EvalError.not_ordinary violated)
    · obtain ⟨node, nesting, state⟩ := visit
      cases misuse with
      | assigned tag label key value target => cases unassigned _ inside
      | indexed tag label index source _ entered _ unit entries entering ofSource =>
        exact ⟨_, visited, tag, label, index, source, entered, unit, entries, after, rfl, entering,
          ofSource⟩
  · rintro ⟨⟨node, nesting, state⟩, visited, tag, label, index, source, entered, unit, entries,
      after, rfl, entering, ofSource⟩
    have fails := Machine.eval_entry_indexed entering ofSource
    exact ⟨_, Machine.eval_error_of_visit visited fails, rfl⟩

/-- A constant map that is asked for its first entry. -/
def Expr.firstOfMap : Expr :=
  .entry ⟨⟨1, 3⟩, .string⟩ "first" (.indexed 0) (Build.constant (.map .string []) ⟨1, 1⟩)

/-- Asking a map for its first entry is accepted when the tree is built. -/
theorem Built.firstOfMap : Built Expr.firstOfMap :=
  .entry "first" (.indexed 0) (Build.constant (.map .string []) ⟨1, 1⟩) ⟨1, 3⟩ _
    (.constant _ _ (.map .string [] (.nil .string) trivial)) rfl

/-- The tree that asks a map for its first entry assigns to no entry. -/
theorem Expr.firstOfMap_unassigned : ∀ node ∈ firstOfMap.nodes, node.assignsEntry = false := by
  intro node member
  rcases List.mem_cons.mp member with rfl | inner
  · rfl
  · obtain rfl := List.mem_singleton.mp inner
    rfl

/-- The evaluation that violates an invariant has asked a map for an index. -/
theorem Built.violation_indexes_firstOfMap :
    (Slots.context.machine .none).IndexesMap Expr.firstOfMap (.start .empty) :=
  (Built.violation_iff_indexesMap Slots.context_faithful .none Built.firstOfMap
    Expr.firstOfMap_unassigned (.start .empty) (Slots.all_empty _)).mp ⟨_, rfl, rfl⟩

/-- Assigning to entries is not the only way in which a built tree can violate an
invariant against a context that is faithful. -/
theorem Built.violation_without_assignment :
    ¬ ∀ {σ : Type} (context : Context σ) (Holds : σ → Prop), context.Faithful Holds →
      ∀ (limits : Limits) (expr : Expr), Built expr →
      (∀ node ∈ expr.nodes, node.assignsEntry = false) →
      ∀ run : RunState σ, Holds run.context →
      ∀ error, (expr.evaluateIn context limits run).1 = .error error →
        error.isInvariantViolation = false := by
  intro free
  have absent := free Slots.context _ Slots.context_faithful .none Expr.firstOfMap Built.firstOfMap
    Expr.firstOfMap_unassigned (.start .empty) (Slots.all_empty _) _ rfl
  cases absent

end RuleTree
