import RuleTree.Proofs.BuiltTree
import RuleTree.Proofs.NodeBody

/-!
# Well-typed trees on any machine

A well-typed tree yields a value that fits its type, and no operation on values
refuses what it is given, but for two kinds of nodes: one that assigns to an
entry, and one that refers to an entry of a map by an index. Whether these fail
depends on whether the container is there; `Misuse` says when they do.

The theorem is about every machine and every invariant of its states. What it
asks of the machine is asked node by node, so that an instance has to consider
only the requests that its tree can make: entering keeps the invariant or fails
in a way that is admitted, reading gives a value that fits, and writing may rely
on such a value.
-/

namespace RuleTree

variable {ρ : Type}

namespace Machine

/-- A node whose own step violates an invariant although the tree is well typed:
the entry of a container that is there is assigned to, or a map that is there is
asked for an index. The states are those before the node and at its failure. -/
inductive Misuse (machine : Machine ρ) : Expr → ρ → EvalError → ρ → Prop
  | assigned (tag : Tag) (label : String) (key : Key) (value target : Expr)
      (state entered valued after : ρ) (result container : Value)
      (entering : machine.enter (.setEntry tag label key value target) state = (.ok (), entered))
      (ofValue : machine.eval value entered = (.ok result, valued))
      (ofTarget : machine.eval target valued = (.ok container, after))
      (present : container.isNil = false) :
      Misuse machine (.setEntry tag label key value target) state
        ⟨.invariant (.unsupported .assign container.base), some tag.position⟩ after
  | indexed (tag : Tag) (label : String) (index : Int64) (source : Expr)
      (state entered after : ρ) (unit : Signature) (entries : List (String × List Value))
      (entering : machine.enter (.entry tag label (.indexed index) source) state =
        (.ok (), entered))
      (ofSource : machine.eval source entered = (.ok (.map unit entries), after)) :
      Misuse machine (.entry tag label (.indexed index) source) state
        ⟨.invariant (.invalidKey (.indexed index)), some tag.position⟩ after

/-- What an invariant of the states needs from the machine at one node. -/
structure Serves (machine : Machine ρ) (Holds : ρ → Prop) (Fails : EvalError → ρ → Prop)
    (node : Expr) : Prop where
  enters : ∀ state entered, Holds state → machine.enter node state = (.ok (), entered) →
    Holds entered
  refuses : ∀ state failure refused, Holds state →
    machine.enter node state = (.error failure, refused) →
    Fails ⟨failure, some node.position⟩ refused
  reads : ∀ tag label key, node = .slot tag label key →
    (machine.readAt tag key).Keeps Holds Fails (·.Fits tag.type)
  writes : ∀ tag label key value, node = .setSlot tag label key value →
    ∀ result : Value, result.Fits tag.type →
      (machine.writeAt tag key result).Keeps Holds Fails fun _ => True
  binds : ∀ tag list body stop key, node = .loop tag list body stop key →
    ∀ item : Value, item.Fits tag.type →
      (machine.writeAt tag key item).Keeps Holds Fails fun _ => True
  misuses : ∀ state error after, Holds state → machine.Misuse node state error after →
    Holds after → Fails error after

/-- What leaving a node must not undo. -/
structure Leaves (machine : Machine ρ) (Holds : ρ → Prop) (Fails : EvalError → ρ → Prop) :
    Prop where
  held : ∀ state, Holds state → Holds (machine.leave state)
  failed : ∀ error state, Fails error state → Fails error (machine.leave state)

variable {machine : Machine ρ} {Holds : ρ → Prop} {Fails : EvalError → ρ → Prop}

/-- From one state, a tree comes out as the body of its root does from where the root was
entered. -/
theorem Serves.eval_kept {expr : Expr} (serves : machine.Serves Holds Fails expr)
    (leaves : machine.Leaves Holds Fails) {Gives : Value → Prop} {state : ρ} (held : Holds state)
    (inside : ∀ entered, machine.enter expr state = (.ok (), entered) → Holds entered →
      Action.Kept Holds Fails Gives
        (machine.perform expr.tag expr.operator (expr.children.map machine.eval) entered)) :
    Action.Kept Holds Fails Gives (machine.eval expr state) := by
  rw [machine.eval_eq]
  rcases entering : machine.enter expr state with ⟨failure | _, entered⟩
  · rw [node_refused entering]
    exact serves.refuses state failure entered held entering
  · rw [node_entered entering]
    have reached := inside entered entering (serves.enters state entered held entering)
    exact reached.leave leaves.held leaves.failed

/-- A tree keeps what the body of its root keeps. -/
theorem Serves.eval_keeps {expr : Expr} (serves : machine.Serves Holds Fails expr)
    (leaves : machine.Leaves Holds Fails) {Gives : Value → Prop}
    (kept : (machine.perform expr.tag expr.operator (expr.children.map machine.eval)).Keeps
      Holds Fails Gives) : (machine.eval expr).Keeps Holds Fails Gives :=
  fun _ held => serves.eval_kept leaves held fun entered _ holds => kept entered holds

end Machine

section Truth

variable {Holds : ρ → Prop} {Fails : EvalError → ρ → Prop} (position : Position)
  {operand : Action ρ Value} {type : Signature}

/-- The truth value of an operand that yields a boolean. -/
theorem Action.truth_keeps (boolean : type = .boolean)
    (kept : operand.Keeps Holds Fails (·.Fits type)) :
    (Action.truth position operand).Keeps Holds Fails fun _ => True := by
  rw [boolean] at kept
  refine kept.bind fun value fits => ?_
  obtain ⟨truth, viewed⟩ := fits.asBoolean
  exact .ofValue viewed trivial

/-- What stands for a truth value is a boolean. -/
theorem Action.ofTruth_fits (truth : Option Bool) : (Action.ofTruth truth).Fits .boolean := by
  cases truth with
  | none => exact Value.fits_nil _
  | some payload => exact Value.fits_boolean payload

/-- An operand that decides a connective by its truth value. -/
theorem Action.decides_keeps (boolean : type = .boolean)
    (kept : operand.Keeps Holds Fails (·.Fits type)) :
    (do
      let truth ← Action.truth position operand
      pure (Action.ofTruth truth) : Action ρ Value).Keeps Holds Fails (·.Fits .boolean) :=
  (Action.truth_keeps position boolean kept).bind fun truth _ => .pure (Action.ofTruth_fits truth)

end Truth

namespace WellTyped

variable {machine : Machine ρ} {Holds : ρ → Prop} {Fails : EvalError → ρ → Prop}

/-- A part that may be missing yields a value of the type, or the nil of it. -/
theorem evalOptional_keeps {tag : Tag} {optional : Option Expr}
    (each : ∀ part, optional = some part →
      (machine.eval part).Keeps Holds Fails (·.Fits part.type))
    (same : ∀ part, optional = some part → part.type = tag.type) :
    ((optional.toList.map machine.eval).headD (pure (.nil tag.type))).Keeps Holds Fails
      (·.Fits tag.type) := by
  cases optional with
  | none => exact .pure (Value.fits_nil _)
  | some part =>
    have kept := each part rfl
    rw [same part rfl] at kept
    exact kept

/-- Parts that are evaluated one after another yield what the last yields. -/
theorem evalAll_keeps {parts : List Expr} {last : Expr} (result : Value)
    (each : ∀ part ∈ parts, (machine.eval part).Keeps Holds Fails (·.Fits part.type))
    (ends : parts.getLast? = some last) :
    (Action.inTurn result (parts.map machine.eval)).Keeps Holds Fails (·.Fits last.type) := by
  induction parts generalizing result with
  | nil => cases ends
  | cons first rest inductionHypothesis =>
    rw [List.map_cons, Action.inTurn]
    refine (each first List.mem_cons_self).bind fun later fits => ?_
    cases rest with
    | nil =>
      obtain rfl : first = last := by simpa using ends
      exact .pure fits
    | cons second others =>
      exact inductionHypothesis later (fun part member => each part (List.mem_cons_of_mem _ member))
        (by simpa using ends)

/-- A well-typed tree yields values that fit its type, keeps what the machine keeps
at its nodes, and fails only in ways that are admitted.

Proof: by induction on the typing. The operands of a node yield values that fit
their types, and every operation on such values has a result that fits what the
node promises. The two operations that have none are cases of `Misuse`; for them
the evaluation is followed state by state. -/
theorem keeps {expr : Expr} (typed : WellTyped expr)
    (serves : ∀ node ∈ expr.nodes, machine.Serves Holds Fails node)
    (leaves : machine.Leaves Holds Fails) :
    (machine.eval expr).Keeps Holds Fails (·.Fits expr.type) := by
  induction typed with
  | constant tag value fits =>
    have here := serves _ (Expr.mem_nodes_self _)
    exact here.eval_keeps leaves (.pure fits)
  | slot tag label key =>
    have here := serves _ (Expr.mem_nodes_self _)
    exact here.eval_keeps leaves (here.reads tag label key rfl)
  | entry tag label key source ofSource map sourceKeeps =>
    obtain ⟨here, served⟩ := List.forall_mem_cons.mp serves
    intro state held
    refine here.eval_kept leaves held fun entered entering holds => ?_
    refine (sourceKeeps served entered holds).bind fun container after sourced fits holdsAfter => ?_
    rw [map] at fits
    split
    · exact ⟨Value.fits_nil _, holdsAfter⟩
    rename_i present
    cases key with
    | named name =>
      obtain ⟨result, computed, fitsResult⟩ := fits.reference_named name
      exact Action.Keeps.ofValue computed fitsResult after holdsAfter
    | indexed index =>
      rw [Action.run_ofValue_error (fits.reference_indexed index)]
      rcases fits.map_cases with rfl | ⟨entries, rfl, _⟩
      · exact absurd rfl present
      · exact here.misuses state _ after held
          (.indexed tag label index source state entered after _ entries entering sourced)
          holdsAfter
  | setSlot tag label key value ofValue same valueKeeps =>
    obtain ⟨here, served⟩ := List.forall_mem_cons.mp serves
    refine here.eval_keeps leaves ((valueKeeps served).bind fun result fits => ?_)
    rw [same] at fits
    exact (here.writes tag label key value rfl result fits).bind fun _ _ => .pure fits
  | setEntry tag label key value target ofValue ofTarget same valueKeeps targetKeeps =>
    simp only [Expr.nodes, List.forall_mem_cons, List.forall_mem_append] at serves
    obtain ⟨here, servedValue, servedTarget⟩ := serves
    intro state held
    refine here.eval_kept leaves held fun entered entering holds => ?_
    refine (valueKeeps servedValue entered holds).bind
      fun result valued ofResult fits holdsValued => ?_
    rw [same] at fits
    refine (targetKeeps servedTarget valued holdsValued).bind
      fun container after ofContainer _ holdsAfter => ?_
    split
    · exact ⟨fits, holdsAfter⟩
    · rename_i present
      have refused : container.assign key result =
          .error (.unsupported .assign container.base) := rfl
      rw [Action.run_bind_error (Action.run_ofValue_error refused after)]
      exact here.misuses state _ after held (.assigned tag label key value target state entered
        valued after result container entering ofResult ofContainer (by simpa using present))
        holdsAfter
  | compare tag comparison left right ofLeft ofRight accepts boolean leftKeeps rightKeeps =>
    simp only [Expr.nodes, List.forall_mem_cons, List.forall_mem_append] at serves
    obtain ⟨here, servedLeft, servedRight⟩ := serves
    refine here.eval_keeps leaves ((leftKeeps servedLeft).bind fun first fitsFirst => ?_)
    refine (rightKeeps servedRight).bind fun second fitsSecond => ?_
    obtain ⟨result, computed, fits⟩ := Value.compared_fits accepts fitsFirst fitsSecond
    rw [← boolean] at fits
    exact .ofValue computed fits
  | both tag left right ofLeft ofRight leftBoolean rightBoolean boolean leftKeeps rightKeeps =>
    simp only [Expr.nodes, List.forall_mem_cons, List.forall_mem_append] at serves
    obtain ⟨here, servedLeft, servedRight⟩ := serves
    have chosen := Action.truth_keeps tag.position leftBoolean (leftKeeps servedLeft)
    have kept : (machine.eval (.both tag left right)).Keeps Holds Fails (·.Fits .boolean) := by
      refine here.eval_keeps leaves (chosen.bind fun truth _ => ?_)
      cases truth with
      | none => exact .pure (Value.fits_nil _)
      | some truth =>
        cases truth with
        | false => exact .pure (Value.fits_boolean _)
        | true => exact Action.decides_keeps tag.position rightBoolean (rightKeeps servedRight)
    rw [← boolean] at kept
    exact kept
  | either tag left right ofLeft ofRight leftBoolean rightBoolean boolean leftKeeps rightKeeps =>
    simp only [Expr.nodes, List.forall_mem_cons, List.forall_mem_append] at serves
    obtain ⟨here, servedLeft, servedRight⟩ := serves
    have chosen := Action.truth_keeps tag.position leftBoolean (leftKeeps servedLeft)
    have kept : (machine.eval (.either tag left right)).Keeps Holds Fails (·.Fits .boolean) := by
      refine here.eval_keeps leaves (chosen.bind fun truth _ => ?_)
      cases truth with
      | none => exact .pure (Value.fits_nil _)
      | some truth =>
        cases truth with
        | true => exact .pure (Value.fits_boolean _)
        | false => exact Action.decides_keeps tag.position rightBoolean (rightKeeps servedRight)
    rw [← boolean] at kept
    exact kept
  | negation tag operand ofOperand operandBoolean boolean operandKeeps =>
    obtain ⟨here, served⟩ := List.forall_mem_cons.mp serves
    have chosen := Action.truth_keeps tag.position operandBoolean (operandKeeps served)
    refine here.eval_keeps leaves (chosen.bind fun truth _ => .pure ?_)
    have fits : (Action.ofTruth (truth.map (!·))).Fits .boolean := Action.ofTruth_fits _
    rw [← boolean] at fits
    exact fits
  | branch tag check consequent alternative ofCheck ofConsequent ofAlternative checkBoolean same
      sameToo checkKeeps consequentKeeps alternativeKeeps =>
    simp only [Expr.nodes, List.forall_mem_cons, List.forall_mem_append,
      Expr.forall_nodesOptional] at serves
    obtain ⟨here, servedCheck, servedConsequent, servedAlternative⟩ := serves
    have chosen := Action.truth_keeps tag.position checkBoolean (checkKeeps servedCheck)
    have yielded := consequentKeeps servedConsequent
    rw [same] at yielded
    refine here.eval_keeps leaves (chosen.bind fun truth _ => ?_)
    cases truth with
    | none => exact .pure (Value.fits_nil _)
    | some truth =>
      cases truth with
      | true => exact yielded
      | false =>
        exact evalOptional_keeps (fun part present =>
          alternativeKeeps part present (servedAlternative part present)) sameToo
  | loop tag list body stop key ofList ofBody ofStop items same sameToo listKeeps bodyKeeps
      stopKeeps =>
    simp only [Expr.nodes, List.forall_mem_cons, List.forall_mem_append,
      Expr.forall_nodesOptional] at serves
    obtain ⟨here, servedList, servedBody, servedStop⟩ := serves
    have yielded := bodyKeeps servedBody
    rw [same] at yielded
    refine here.eval_keeps leaves ((listKeeps servedList).bind fun source fits => ?_)
    rw [items] at fits
    obtain ⟨found, viewed, inside⟩ := fits.asItems
    refine .afterValue viewed ?_
    cases found with
    | none => exact .pure (Value.fits_nil _)
    | some items =>
      cases items with
      | nil => exact .pure (Value.fits_nil _)
      | cons item rest =>
        refine (evalOptional_keeps (fun part present =>
          stopKeeps part present (servedStop part present)) sameToo).bind fun last _ => ?_
        exact Machine.repeatBody_keeps
          (fun item member => here.binds tag list body stop key rfl item (inside item member))
          yielded (Value.fits_nil _)
  | search tag kind key collection fallback unit ofKey ofCollection ofFallback searches promised
      sameToo keyKeeps collectionKeeps fallbackKeeps =>
    simp only [Expr.nodes, List.forall_mem_cons, List.forall_mem_append,
      Expr.forall_nodesOptional] at serves
    obtain ⟨here, servedKey, servedCollection, servedFallback⟩ := serves
    refine here.eval_keeps leaves ((keyKeeps servedKey).bind fun needle fitsNeedle => ?_)
    split
    · exact .pure (Value.fits_nil _)
    rename_i present
    refine (collectionKeeps servedCollection).bind fun source fitsSource => ?_
    split
    · exact .pure (Value.fits_nil _)
    obtain ⟨found, searched, each⟩ :=
      Value.searchAll_fits searches fitsNeedle fitsSource (by simpa using present)
    refine .afterValue searched ?_
    obtain ⟨outcome, concluded, fits⟩ :=
      Value.searched_fits kind (searches.unit?_eq fitsSource) each
    refine .afterValue concluded ?_
    cases outcome with
    | some result =>
      have fitsResult := fits result rfl
      rw [← promised] at fitsResult
      exact .pure fitsResult
    | none =>
      exact evalOptional_keeps (fun part present =>
        fallbackKeeps part present (servedFallback part present)) sameToo
  | sequence tag parts last ofParts ends same partsKeep =>
    simp only [Expr.nodes, List.forall_mem_cons, Expr.forall_nodesAll] at serves
    obtain ⟨here, served⟩ := serves
    have kept := evalAll_keeps (.nil tag.type)
      (fun part member => partsKeep part member (served part member)) ends
    rw [same] at kept
    exact here.eval_keeps leaves kept

end WellTyped

end RuleTree
