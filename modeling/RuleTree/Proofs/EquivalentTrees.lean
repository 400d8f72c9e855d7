import RuleTree.Proofs.BuiltTree
import RuleTree.Proofs.LimitCrossing
import RuleTree.Proofs.Place

/-!
# Equivalent trees

Two trees of one type are equivalent if no context can tell their evaluations apart:
from every state of every context they have one result, the same error at the same
position included, and leave one state. Nothing is said of how many nodes they enter.
Without limits this does not matter, so a tree may be put in the place of an equivalent
one anywhere in a tree.

That the tree with the other part can be built at all is seen from types alone: what a
building function asks of its operands is their types, and that they are built.
-/

namespace RuleTree

/-! ## Types of trees with another part -/

/-- Children that are replaced by well-typed trees of their types leave the tree well
typed.

Proof: by cases on the node. What it asks for are the types of its children. -/
theorem WellTyped.mapChildren {expr : Expr} {f : Nat → Expr → Expr} (typed : WellTyped expr)
    (children : ∀ index part, expr.children[index]? = some part → WellTyped part →
      WellTyped (f index part) ∧ (f index part).type = part.type) :
    WellTyped (expr.mapChildren f) := by
  -- A child that may be missing is replaced where it is there.
  have optionally {optional : Option Expr} {index : Nat} {type : Signature}
      (reached : ∀ part, optional = some part → expr.children[index]? = some part)
      (ofPart : ∀ part, optional = some part → WellTyped part)
      (same : ∀ part, optional = some part → part.type = type) :
      ∀ part, optional.map (f index) = some part → WellTyped part ∧ part.type = type := by
    intro part replaced
    obtain ⟨old, present, rfl⟩ := Option.map_eq_some_iff.mp replaced
    obtain ⟨ofNew, sameNew⟩ := children index old (reached old present) (ofPart old present)
    exact ⟨ofNew, sameNew.trans (same old present)⟩
  cases typed with
  | constant tag value fits => exact .constant tag value fits
  | slot tag label key => exact .slot tag label key
  | entry tag label key source ofSource map =>
    obtain ⟨ofNew, same⟩ := children 0 source rfl ofSource
    exact .entry tag label key _ ofNew (same.trans map)
  | setSlot tag label key value ofValue promised =>
    obtain ⟨ofNew, same⟩ := children 0 value rfl ofValue
    exact .setSlot tag label key _ ofNew (same.trans promised)
  | setEntry tag label key value target ofValue ofTarget promised =>
    obtain ⟨ofNewValue, sameValue⟩ := children 0 value rfl ofValue
    obtain ⟨ofNewTarget, _⟩ := children 1 target rfl ofTarget
    exact .setEntry tag label key _ _ ofNewValue ofNewTarget (sameValue.trans promised)
  | compare tag comparison left right ofLeft ofRight accepts boolean =>
    obtain ⟨ofNewLeft, sameLeft⟩ := children 0 left rfl ofLeft
    obtain ⟨ofNewRight, sameRight⟩ := children 1 right rfl ofRight
    rw [← sameLeft, ← sameRight] at accepts
    exact .compare tag comparison _ _ ofNewLeft ofNewRight accepts boolean
  | both tag left right ofLeft ofRight leftBoolean rightBoolean boolean =>
    obtain ⟨ofNewLeft, sameLeft⟩ := children 0 left rfl ofLeft
    obtain ⟨ofNewRight, sameRight⟩ := children 1 right rfl ofRight
    exact .both tag _ _ ofNewLeft ofNewRight (sameLeft.trans leftBoolean)
      (sameRight.trans rightBoolean) boolean
  | either tag left right ofLeft ofRight leftBoolean rightBoolean boolean =>
    obtain ⟨ofNewLeft, sameLeft⟩ := children 0 left rfl ofLeft
    obtain ⟨ofNewRight, sameRight⟩ := children 1 right rfl ofRight
    exact .either tag _ _ ofNewLeft ofNewRight (sameLeft.trans leftBoolean)
      (sameRight.trans rightBoolean) boolean
  | negation tag operand ofOperand operandBoolean boolean =>
    obtain ⟨ofNew, same⟩ := children 0 operand rfl ofOperand
    exact .negation tag _ ofNew (same.trans operandBoolean) boolean
  | branch tag check consequent alternative ofCheck ofConsequent ofAlternative checkBoolean
      promised promisedToo =>
    obtain ⟨ofNewCheck, sameCheck⟩ := children 0 check rfl ofCheck
    obtain ⟨ofNewConsequent, sameConsequent⟩ := children 1 consequent rfl ofConsequent
    have alternatives : ∀ part, alternative.map (f 2) = some part →
        WellTyped part ∧ part.type = tag.type :=
      optionally (by rintro part rfl; rfl) ofAlternative promisedToo
    exact .branch tag _ _ _ ofNewCheck ofNewConsequent
      (fun part present => (alternatives part present).1) (sameCheck.trans checkBoolean)
      (sameConsequent.trans promised) fun part present => (alternatives part present).2
  | loop tag list body stop key ofList ofBody ofStop items promised promisedToo =>
    obtain ⟨ofNewList, sameList⟩ := children 0 list rfl ofList
    obtain ⟨ofNewBody, sameBody⟩ := children 1 body rfl ofBody
    have stops : ∀ part, stop.map (f 2) = some part → WellTyped part ∧ part.type = tag.type :=
      optionally (by rintro part rfl; rfl) ofStop promisedToo
    exact .loop tag _ _ _ key ofNewList ofNewBody (fun part present => (stops part present).1)
      (sameList.trans items) (sameBody.trans promised) fun part present => (stops part present).2
  | search tag kind key collection fallback unit ofKey ofCollection ofFallback searches promised
      promisedToo =>
    obtain ⟨ofNewKey, sameKey⟩ := children 0 key rfl ofKey
    obtain ⟨ofNewCollection, sameCollection⟩ := children 1 collection rfl ofCollection
    have fallbacks : ∀ part, fallback.map (f 2) = some part →
        WellTyped part ∧ part.type = tag.type :=
      optionally (by rintro part rfl; rfl) ofFallback promisedToo
    rw [← sameKey, ← sameCollection] at searches
    exact .search tag kind _ _ _ unit ofNewKey ofNewCollection
      (fun part present => (fallbacks part present).1) searches promised
      fun part present => (fallbacks part present).2
  | sequence tag parts last ofParts ends promised =>
    have replaced (index : Nat) (part : Expr) (reached : parts[index]? = some part) :
        WellTyped (f index part) ∧ (f index part).type = part.type :=
      children index part reached (ofParts part (List.mem_of_getElem? reached))
    rw [List.getLast?_eq_getElem?] at ends
    refine .sequence tag _ (f (parts.length - 1) last) ?_ ?_
      ((replaced _ last ends).2.trans promised)
    · intro part member
      obtain ⟨index, inside, rfl⟩ := List.mem_mapIdx.mp member
      exact (replaced index _ (List.getElem?_eq_getElem inside)).1
    · rw [List.getLast?_eq_getElem?, List.length_mapIdx, List.getElem?_mapIdx, ends]
      rfl

/-- A well-typed tree stays well typed and of its type with a part replaced by a
well-typed tree of the type of the part. -/
theorem WellTyped.replace {whole other : Expr} {place : List Nat} (typed : WellTyped whole)
    (ofOther : WellTyped other)
    (same : ∀ part, whole.subtree? place = some part → other.type = part.type) :
    WellTyped (whole.replace place other) ∧ (whole.replace place other).type = whole.type := by
  induction place generalizing whole with
  | nil => exact ⟨ofOther, same whole rfl⟩
  | cons index place inductionHypothesis =>
    refine ⟨typed.mapChildren ?_, congrArg Tag.type (Expr.tag_mapChildren _ _)⟩
    intro here part reached ofPart
    by_cases onTheWay : here = index
    · subst onTheWay
      rw [if_pos rfl]
      apply inductionHypothesis ofPart
      intro below found
      apply same
      rw [Expr.subtree?, reached]
      exact found
    · rw [if_neg onTheWay]
      exact ⟨ofPart, rfl⟩

/-! ## What evaluations do without limits -/

variable {σ : Type}

/-- Without limits every node may be entered. -/
theorem Context.unlimited_enter (context : Context σ) (node : Expr) (run : RunState σ) :
    (context.machine .none).enter node run = (.ok (),
      ⟨⟨Counters.next run.counters.depth, Counters.next run.counters.nodes⟩, run.context⟩) := by
  have admitted : run.counters.enter .none =
      (.ok (), ⟨Counters.next run.counters.depth, Counters.next run.counters.nodes⟩) :=
    Counters.enter_admits fun _ => Limits.not_crossed_none
  simp only [machine, admitted]

/-- Without limits the counters of a run bear on nothing. -/
theorem Context.unlimited_indifferent (context : Context σ) :
    Indifferent (context.machine .none) (context.machine .none)
      fun run run' => run.context = run'.context where
  enters node node' run run' same := by
    rw [context.unlimited_enter, context.unlimited_enter]
    exact ⟨rfl, same⟩
  leaves _ _ same := same
  reads key type run run' same := by
    simp only [machine, same]
    exact ⟨rfl, rfl⟩
  writes key value run run' same := by
    simp only [machine, same]
    exact ⟨rfl, rfl⟩

namespace Expr

/-- An evaluation without limits is the same whatever has been counted before. -/
theorem evaluateIn_unlimited (expr : Expr) (context : Context σ) (run : RunState σ) :
    (expr.evaluateIn context .none run).1 = (expr.evaluate context .none run.context).1 ∧
      (expr.evaluateIn context .none run).2.context =
        (expr.evaluate context .none run.context).2 :=
  context.unlimited_indifferent.lockstep.congruence.eval expr run (.start run.context) rfl

/-- Two built trees of one type that no context can tell apart without limits: they
have one result, be it a value or an error with its position, and leave one state. -/
structure Equivalent (first second : Expr) : Prop where
  builtFirst : Built first
  builtSecond : Built second
  sameType : first.type = second.type
  alike : ∀ (σ : Type) (context : Context σ) (state : σ),
    first.evaluate context .none state = second.evaluate context .none state

/-- Equivalent trees come out alike in runs that have counted differently. -/
theorem Equivalent.evaluateIn {first second : Expr} (equivalent : first.Equivalent second)
    (context : Context σ) {run run' : RunState σ} (same : run.context = run'.context) :
    Alike (fun after after' => after.context = after'.context)
      (first.evaluateIn context .none run) (second.evaluateIn context .none run') := by
  obtain ⟨result, state⟩ := first.evaluateIn_unlimited context run
  obtain ⟨result', state'⟩ := second.evaluateIn_unlimited context run'
  have alike : first.evaluate context .none run.context =
      second.evaluate context .none run'.context := by
    rw [same]
    exact equivalent.alike σ context run'.context
  constructor
  · exact result.trans ((congrArg Prod.fst alike).trans result'.symm)
  · exact state.trans ((congrArg Prod.snd alike).trans state'.symm)

/-- Evaluation is compositional: a part of a built tree may be replaced by an equivalent
one, wherever it stands, and the trees are equivalent.

Proof: the tree with the other part is well typed, so it can be built. To evaluate it is
to evaluate the whole with the other part evaluated at the place. Both evaluations are
made of the same steps except there, where they come out alike; they may count
differently, which matters to none of the steps. -/
theorem equivalent_replace {part other whole : Expr} {place : List Nat}
    (equivalent : part.Equivalent other) (built : Built whole)
    (found : whole.subtree? place = some part) :
    whole.Equivalent (whole.replace place other) := by
  have there : ∀ reached, whole.subtree? place = some reached → reached = part := by
    intro reached same
    exact Option.some.inj (same.symm.trans found)
  have retyped : WellTyped (whole.replace place other) ∧
      (whole.replace place other).type = whole.type := by
    apply built.wellTyped.replace equivalent.builtSecond.wellTyped
    intro reached same
    rw [there reached same]
    exact equivalent.sameType.symm
  refine ⟨built, retyped.1.built, retyped.2.symm, ?_⟩
  intro σ context state
  let machine := context.machine .none
  -- The counters of the two runs part at the place, and nothing looks at them afterwards.
  have evaluations : Alike (fun run run' : RunState σ => run.context = run'.context)
      (machine.evalWith machine.eval place whole (.start state))
      (machine.evalWith machine.eval place (whole.replace place other) (.start state)) := by
    refine context.unlimited_indifferent.blindCongruence.evalWith_replace ?_ _ _ rfl
    intro reached same run run' matched
    rw [there reached same]
    exact equivalent.evaluateIn context matched
  rw [machine.evalWith_eval, machine.evalWith_eval] at evaluations
  exact Prod.ext evaluations.1 evaluations.2

/-- A sequence of one part is equivalent to the part. -/
theorem sequence_singleton_equivalent {part : Expr} (built : Built part) (position : Position) :
    (Expr.sequence ⟨position, part.type⟩ [part]).Equivalent part := by
  refine ⟨.sequence [part] position _ (fun _ only => ?_) rfl, built, rfl, ?_⟩
  · obtain rfl := List.mem_singleton.mp only
    exact built
  intro σ context state
  let machine := context.machine .none
  let expr := Expr.sequence ⟨position, part.type⟩ [part]
  have alone : Action.inTurn (.nil part.type) [machine.eval part] = machine.eval part :=
    bind_pure (machine.eval part)
  have enclosed : machine.eval expr = machine.node expr (machine.eval part) := by
    rw [← alone]
    exact machine.eval_eq expr
  let entered : RunState σ := ⟨⟨Counters.next 0, Counters.next 0⟩, state⟩
  have ran : expr.evaluateIn context .none (.start state) =
      ((machine.eval part entered).1, machine.leave (machine.eval part entered).2) := by
    rw [Expr.evaluateIn, enclosed]
    exact Machine.node_entered (context.unlimited_enter expr (.start state))
  have outcome : expr.evaluate context .none state =
      ((machine.eval part entered).1, (machine.eval part entered).2.context) := by
    rw [Expr.evaluate, ran]
    rfl
  obtain ⟨result, left⟩ := part.evaluateIn_unlimited context entered
  rw [outcome]
  exact Prod.ext result left

/-- Write a slot to another one. -/
def copyItem : Expr :=
  Build.setSlot "last" (.named "last") (Build.slot "item" (.named "item") .integer ⟨2, 12⟩) ⟨2, 5⟩

/-- A loop over two items that copies each from the slot it is bound to, in a sequence of
nothing else. -/
def copyEachItem : Expr :=
  .loop ⟨⟨1, 1⟩, .integer⟩
    (Build.constant (.list .integer [.integer 1, .integer 2]) ⟨1, 10⟩)
    (.sequence ⟨⟨1, 30⟩, .integer⟩ [copyItem]) none (.named "item")

/-- The body of the loop need not be a sequence. -/
theorem equivalent_replace_copyEachItem :
    (Expr.sequence ⟨⟨1, 30⟩, .integer⟩ [copyItem]).Equivalent copyItem ∧ Built copyEachItem ∧
      copyEachItem.subtree? [1] = some (.sequence ⟨⟨1, 30⟩, .integer⟩ [copyItem]) ∧
      copyEachItem.Equivalent (copyEachItem.replace [1] copyItem) ∧
      (copyEachItem.replace [1] copyItem).children[1]? = some copyItem := by
  have copies : Built copyItem := .setSlot _ _ _ _ (.slot _ _ _ _)
  have shorter : (Expr.sequence ⟨⟨1, 30⟩, .integer⟩ [copyItem]).Equivalent copyItem :=
    sequence_singleton_equivalent copies ⟨1, 30⟩
  have items : Built (Build.constant (.list .integer [.integer 1, .integer 2]) ⟨1, 10⟩) := by
    apply Built.constant
    apply Value.WellFormed.list
    exact .cons _ _ _ (.integer 1) rfl (.cons _ _ _ (.integer 2) rfl (.nil _))
  have built : Built copyEachItem :=
    .loop _ _ none (.named "item") ⟨1, 1⟩ _ items shorter.builtFirst
      (fun _ impossible => nomatch impossible) rfl
  exact ⟨shorter, built, rfl, equivalent_replace shorter built rfl, rfl⟩

end Expr

end RuleTree
