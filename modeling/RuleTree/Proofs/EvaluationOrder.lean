import Mathlib.Data.List.Flatten
import RuleTree.Proofs.EquivalentTrees
import RuleTree.Proofs.PlaceListing
import RuleTree.Proofs.RunCounters
import RuleTree.Proofs.ScalarSearch

/-!
# The order in which nodes are entered

The body of a node comes to the children of the node, to some of them once, to some not at
all, and to the body of a loop again and again. The body is attended: whenever it comes to
a child, the index of the child and the state of the machine are noted. From this the trace
of an evaluation follows, which is the list of the places that are entered: the place of the
tree itself, and then for every coming to a child the places in the child that are entered
from there.

A record of an evaluation has the nodes at the places of the trace. If no node is a loop,
bodies come to children from left to right and to none twice, and so the trace goes through
the places of the tree in their order.
-/

namespace RuleTree

variable {ρ α β : Type}

/-- The state of a machine, and the children that a body has come to, by their indices, each
with the state in which it has. -/
structure Attended (ρ : Type) where
  state : ρ
  comings : List (Nat × ρ)

namespace Machine

/-- The machine that does what a machine does and keeps what has been noted. -/
def attending (machine : Machine ρ) : Machine (Attended ρ) where
  enter node attended :=
    match machine.enter node attended.state with
    | (result, state) => (result, { attended with state })
  leave attended := { attended with state := machine.leave attended.state }
  read key type attended :=
    match machine.read key type attended.state with
    | (result, state) => (result, { attended with state })
  write key value attended :=
    match machine.write key value attended.state with
    | (result, state) => (result, { attended with state })

/-- Note the coming to a child, and do what the child does. -/
def attend (index : Nat) (part : Action ρ Value) : Action (Attended ρ) Value := fun attended =>
  match part attended.state with
  | (result, state) => (result, ⟨state, attended.comings ++ [(index, attended.state)]⟩)

/-- Go through the body of a node and note its comings to children. -/
def attendBody (machine : Machine ρ) (expr : Expr) : Action (Attended ρ) Value :=
  machine.attending.perform expr.tag expr.operator
    (expr.children.mapIdx fun index child => attend index (machine.eval child))

/-- The children that the evaluation of a tree from a state comes to, in order. There are
none if the tree may not be entered. -/
def comesTo (machine : Machine ρ) (expr : Expr) (state : ρ) : List (Nat × ρ) :=
  match machine.enter expr state with
  | (.error _, _) => []
  | (.ok (), entered) => (machine.attendBody expr ⟨entered, []⟩).2.comings

/-- Who may enter comes to what the body comes to. -/
theorem comesTo_entered {machine : Machine ρ} {expr : Expr} {state entered : ρ}
    (entering : machine.enter expr state = (.ok (), entered)) :
    machine.comesTo expr state = (machine.attendBody expr ⟨entered, []⟩).2.comings := by
  simp only [comesTo, entering]

/-- Who may not enter comes to no child. -/
theorem comesTo_refused {machine : Machine ρ} {expr : Expr} {state refused : ρ}
    {failure : Failure} (entering : machine.enter expr state = (.error failure, refused)) :
    machine.comesTo expr state = [] := by
  simp only [comesTo, entering]

/-- The places that the evaluation of a tree from a state enters or is refused at, in
order. -/
def trace (machine : Machine ρ) (expr : Expr) (state : ρ) : List (List Nat) :=
  [] :: (machine.comesTo expr state).flatMap fun coming =>
    expr.within coming.1 fun child _ => machine.trace child coming.2
termination_by expr.nodes.length
decreasing_by exact Expr.length_nodes_lt_of_mem_children ‹_›

/-! ## The trace and the record -/

/-- What is noted of a body agrees with what is recorded of it: the attempts since it began
are those at the places that are entered from the comings. -/
structure Agrees (machine : Machine ρ) (expr : Expr) (before : List (Option Expr))
    (attended : Attended ρ) (recorded : Recorded ρ) : Prop where
  state : attended.state = recorded.state
  visits : recorded.visits.map (some ·.node) =
    before ++ (attended.comings.flatMap fun coming =>
      expr.within coming.1 fun child _ => machine.trace child coming.2).map (expr.subtree? ·)

/-- What an operator does itself neither comes to a child nor enters a node. -/
theorem agrees_laws (machine : Machine ρ) (expr : Expr) (before : List (Option Expr)) :
    StepLaws machine.attending machine.recording expr.tag expr.operator
      fun _ action action' => ∀ attended recorded, machine.Agrees expr before attended recorded →
        Alike (machine.Agrees expr before) (action attended) (action' recorded) where
  result _ _ _ agrees := ⟨rfl, agrees⟩
  refusal _ _ _ agrees := ⟨rfl, agrees⟩
  sequence first later attended recorded agrees :=
    (first attended recorded agrees).andThen (fun _ _ _ reached => ⟨rfl, reached⟩) later
  read key _ := by
    rintro ⟨state, comings⟩ recorded ⟨rfl, visits⟩
    exact .ofRequest ⟨rfl, rfl, visits⟩
  write key _ value := by
    rintro ⟨state, comings⟩ recorded ⟨rfl, visits⟩
    exact .ofRequest ⟨rfl, rfl, visits⟩

/-- What is noted of a child agrees with what is recorded of it, if the child adds to a
record the attempts at the places of its trace. -/
theorem Agrees.child {machine : Machine ρ} {expr child : Expr} {before : List (Option Expr)}
    {index : Nat} {attended : Attended ρ} {recorded : Recorded ρ}
    (agrees : machine.Agrees expr before attended recorded)
    (found : expr.children[index]? = some child)
    (adds : (machine.recording.eval child recorded).2.visits.map (some ·.node) =
      recorded.visits.map (some ·.node) ++
        (machine.trace child recorded.state).map (child.subtree? ·)) :
    Alike (machine.Agrees expr before) (attend index (machine.eval child) attended)
      (machine.recording.eval child recorded) := by
  obtain ⟨state, comings⟩ := attended
  obtain ⟨rfl, visits⟩ := agrees
  obtain ⟨sameResult, sameState⟩ := machine.recording_eval child recorded
  refine ⟨sameResult.symm, sameState.symm, ?_⟩
  rw [adds, visits, List.append_assoc, attend, List.flatMap_append, List.map_append,
    List.flatMap_singleton, Expr.map_subtree?_within found]

/-- An evaluation adds to a record the attempts at the places of its trace.

Proof: by induction on the tree. The body that is attended and the body that is recorded
take the same steps, and at every coming to a child the child adds the attempts at the
places of its own trace. -/
theorem recording_trace (machine : Machine ρ) (expr : Expr) (recorded : Recorded ρ) :
    (machine.recording.eval expr recorded).2.visits.map (some ·.node) =
      recorded.visits.map (some ·.node) ++
        (machine.trace expr recorded.state).map (expr.subtree? ·) := by
  induction expr using Expr.induction_children generalizing recorded with
  | node expr inductionHypothesis =>
    rw [machine.recording.eval_eq, trace, List.map_cons]
    rcases entering : machine.enter expr recorded.state with ⟨failure | _, entered⟩
    · rw [node_refused (recording_enter_error entering), comesTo_refused entering]
      exact List.map_append
    · rw [node_entered (recording_enter_ok entering), comesTo_entered entering]
      let before := recorded.visits.map (some ·.node) ++ [some expr]
      have began : machine.Agrees expr before ⟨entered, []⟩ (recorded.inside expr entered) :=
        ⟨rfl, List.map_append.trans (List.append_nil _).symm⟩
      have children : List.Forall₂ (fun action action' => ∀ attended recorded,
          machine.Agrees expr before attended recorded →
            Alike (machine.Agrees expr before) (action attended) (action' recorded))
          (expr.children.mapIdx fun index child => attend index (machine.eval child))
          (expr.children.mapIdx fun _ child => machine.recording.eval child) := by
        apply forall₂_mapIdx
        intro index child found attended recorded agrees
        exact agrees.child found (inductionHypothesis child (List.mem_of_getElem? found) recorded)
      have evaluated : (expr.children.mapIdx fun _ child => machine.recording.eval child) =
          expr.children.map machine.recording.eval := by
        apply List.ext_getElem?
        intro index
        rw [List.getElem?_mapIdx, List.getElem?_map]
      rw [evaluated] at children
      have agrees := ((machine.agrees_laws expr before).perform children _ _ began).2.visits
      rw [List.append_assoc] at agrees
      exact agrees

/-- Of every evaluation the attempt to enter the tree itself is recorded. -/
theorem root_visited (machine : Machine ρ) (expr : Expr) (state : ρ) :
    ⟨expr, 1, state⟩ ∈ machine.visits expr state :=
  (machine.recording_root expr (.start state)).subset
    (List.mem_append_right _ List.mem_cons_self)

/-- The attempts that are recorded of an evaluation are those at the places of its trace. -/
theorem visits_eq_trace (machine : Machine ρ) (expr : Expr) (state : ρ) :
    (machine.visits expr state).map (some ·.node) =
      (machine.trace expr state).map (expr.subtree? ·) :=
  machine.recording_trace expr (.start state)

end Machine

/-! ## What a body comes to -/

namespace Action

/-- From every state, an action comes to children whose indices are some of a list, in the
order of the list and none more often than there. -/
def ComesWithin (bound : List Nat) (action : Action (Attended ρ) α) : Prop :=
  ∀ attended, ∃ comings, (action attended).2.comings = attended.comings ++ comings ∧
    (comings.map (·.1)).Sublist bound

namespace ComesWithin

variable {bound bound' : List Nat} {first : Action (Attended ρ) α}
  {next : α → Action (Attended ρ) β} {machine : Machine ρ}

/-- An action that comes to no child. -/
theorem quiet {action : Action (Attended ρ) α}
    (same : ∀ attended, (action attended).2.comings = attended.comings) :
    action.ComesWithin bound :=
  fun attended => ⟨[], (same attended).trans (List.append_nil _).symm, List.nil_sublist _⟩

/-- A result. -/
theorem result (result : α) : (pure result : Action (Attended ρ) α).ComesWithin bound :=
  quiet fun _ => rfl

/-- An operation on values. -/
theorem ofValue (position : Position) (outcome : Except ValueError α) :
    (Action.ofValue position outcome : Action (Attended ρ) α).ComesWithin bound := by
  cases outcome <;> exact quiet fun _ => rfl

/-- A request that comes to no child. -/
theorem ofRequest (position : Position)
    {request : Attended ρ → Except ContextError α × Attended ρ}
    (same : ∀ attended, (request attended).2.comings = attended.comings) :
    (Action.ofRequest position request).ComesWithin bound := by
  refine quiet fun attended => ?_
  rw [run_ofRequest_state]
  exact same attended

/-- The list may be longer. -/
theorem mono (comes : first.ComesWithin bound) (longer : bound.Sublist bound') :
    first.ComesWithin bound' := by
  intro attended
  obtain ⟨comings, noted, sublist⟩ := comes attended
  exact ⟨comings, noted, sublist.trans longer⟩

/-- A sequence comes to the children of its first part and, unless that fails, then to those
of its second. -/
theorem bind (before : first.ComesWithin bound)
    (later : ∀ result, (next result).ComesWithin bound') :
    (first >>= next).ComesWithin (bound ++ bound') := by
  intro attended
  obtain ⟨comings, noted, sublist⟩ := before attended
  rcases ran : first attended with ⟨error | result, middle⟩
  · rw [ran] at noted
    rw [run_bind_error ran]
    exact ⟨comings, noted, sublist.trans (List.sublist_append_left _ _)⟩
  · obtain ⟨more, notedLater, sublistLater⟩ := later result middle
    rw [ran] at noted
    rw [run_bind_ok ran]
    refine ⟨comings ++ more, ?_, ?_⟩
    · rw [notedLater, noted, List.append_assoc]
    · rw [List.map_append]
      exact sublist.append sublistLater

/-- A sequence whose second part comes to no child. -/
theorem bindQuiet (before : first.ComesWithin bound)
    (later : ∀ result, (next result).ComesWithin []) : (first >>= next).ComesWithin bound := by
  have both := before.bind later
  rwa [List.append_nil] at both

/-- A sequence whose first part comes to no child. -/
theorem afterQuiet (before : first.ComesWithin [])
    (later : ∀ result, (next result).ComesWithin bound) : (first >>= next).ComesWithin bound :=
  before.bind later

/-- The truth value of a child. -/
theorem truth {operand : Action (Attended ρ) Value} (comes : operand.ComesWithin bound)
    (position : Position) : (Action.truth position operand).ComesWithin bound :=
  comes.bindQuiet fun _ => .ofValue position _

/-- The body of a loop is come to for every item at most. -/
theorem repeatBody {bind : Value → Action (Attended ρ) Unit} {body : Action (Attended ρ) Value}
    (binding : ∀ item, (bind item).ComesWithin []) (running : body.ComesWithin bound)
    (stop result : Value) (items : List Value) :
    (Machine.repeatBody bind body stop result items).ComesWithin
      (List.replicate items.length bound).flatten := by
  induction items generalizing result with
  | nil => exact .result result
  | cons item rest inductionHypothesis =>
    rw [Machine.repeatBody_cons]
    refine (binding item).afterQuiet fun _ => running.bind fun yielded => ?_
    split
    · exact .result yielded
    · exact inductionHypothesis yielded

variable {parts : List (Action (Attended ρ) Value)} {bounds : List (List Nat)}

/-- The first of as many children as there are. -/
theorem headD (each : List.Forall₂ (fun part bound => part.ComesWithin bound) parts bounds)
    (absent : Value) : (parts.headD (pure absent)).ComesWithin bounds.flatten := by
  cases each with
  | nil => exact .result absent
  | cons first _ => exact first.mono (List.sublist_append_left _ _)

/-- Children one after another. -/
theorem inTurn (each : List.Forall₂ (fun part bound => part.ComesWithin bound) parts bounds)
    (result : Value) : (Action.inTurn result parts).ComesWithin bounds.flatten := by
  induction each generalizing result with
  | nil => exact .result result
  | cons first _ inductionHypothesis => exact first.bind inductionHypothesis

end ComesWithin

end Action

/-- The items of a list are what its view gives. -/
theorem Value.items_of_asItems {source : Value} {items : Option (List Value)}
    (viewed : source.asItems = .ok items) : source.items = items.getD [] := by
  cases source with
  | list unit items =>
    cases viewed
    rfl
  | nil type =>
    cases type <;> cases viewed
    rfl
  | _ => cases viewed

/-- The indices of the children are listed one by one. -/
theorem Expr.flatten_indices (expr : Expr) :
    (expr.children.mapIdx fun index _ => [index]).flatten = List.range expr.children.length := by
  have each : (expr.children.mapIdx fun index _ => [index]) =
      (List.range expr.children.length).map fun index => [index] := by
    apply List.ext_getElem
    · simp only [List.length_mapIdx, List.length_map, List.length_range]
    · intro index inside _
      rw [List.getElem_mapIdx, List.getElem_map, List.getElem_range]
  rw [each, ← List.flatMap_def]
  exact List.flatMap_singleton' _

/-- Whether a node is a loop. -/
def Expr.isLoop : Expr → Bool
  | .loop .. => true
  | _ => false

namespace Machine

open RuleTree.Action

variable {machine : Machine ρ} {bound : List Nat}

/-- A read comes to no child. -/
theorem attending_readAt (machine : Machine ρ) (tag : Tag) (key : Key) :
    (machine.attending.readAt tag key).ComesWithin bound :=
  .ofRequest tag.position fun _ => rfl

/-- A write comes to no child. -/
theorem attending_writeAt (machine : Machine ρ) (tag : Tag) (key : Key) (value : Value) :
    (machine.attending.writeAt tag key value).ComesWithin bound :=
  .ofRequest tag.position fun _ => rfl

/-- A child that is attended is come to once. -/
theorem attend_comesWithin (index : Nat) (part : Action ρ Value) :
    (attend index part).ComesWithin [index] :=
  fun attended => ⟨[(index, attended.state)], rfl, List.Sublist.refl _⟩

/-- An operator other than a loop comes to its children from left to right, and to none
twice.

Proof: by cases on the operator. What is done after a child comes only to children on its
right. -/
theorem perform_comesWithin {operator : Operator} (tag : Tag)
    (notLoop : ∀ key, operator ≠ .loop key) {parts : List (Action (Attended ρ) Value)}
    {bounds : List (List Nat)}
    (each : List.Forall₂ (fun part bound => part.ComesWithin bound) parts bounds) :
    (machine.attending.perform tag operator parts).ComesWithin bounds.flatten := by
  cases operator with
  | constant value => exact .result value
  | slot key => exact machine.attending_readAt tag key
  | entry key =>
    rcases each with _ | ⟨source, _⟩
    · exact .result _
    refine (source.bindQuiet fun container => ?_).mono (List.sublist_append_left _ _)
    split
    · exact .result _
    · exact .ofValue _ _
  | setSlot key =>
    rcases each with _ | ⟨value, _⟩
    · exact .result _
    refine (value.bindQuiet fun result => ?_).mono (List.sublist_append_left _ _)
    exact (machine.attending_writeAt tag key result).bindQuiet fun _ => .result _
  | setEntry key =>
    rcases each with _ | ⟨value, _ | ⟨target, _⟩⟩
    · exact .result _
    · exact .result _
    refine value.bind fun result => ?_
    refine (target.bindQuiet fun container => ?_).mono (List.sublist_append_left _ _)
    split
    · exact .result _
    · exact (ComesWithin.ofValue _ _).bindQuiet fun _ => .result _
  | compare comparison =>
    rcases each with _ | ⟨left, _ | ⟨right, _⟩⟩
    · exact .result _
    · exact .result _
    refine left.bind fun first => ?_
    exact (right.bindQuiet fun second => .ofValue _ _).mono (List.sublist_append_left _ _)
  | both =>
    rcases each with _ | ⟨left, _ | ⟨right, _⟩⟩
    · exact .result _
    · exact .result _
    refine (left.truth _).bind fun truth => ?_
    rcases truth with _ | (_ | _)
    · exact .result _
    · exact .result _
    · exact ((right.truth _).bindQuiet fun _ => .result _).mono (List.sublist_append_left _ _)
  | either =>
    rcases each with _ | ⟨left, _ | ⟨right, _⟩⟩
    · exact .result _
    · exact .result _
    refine (left.truth _).bind fun truth => ?_
    rcases truth with _ | (_ | _)
    · exact .result _
    · exact ((right.truth _).bindQuiet fun _ => .result _).mono (List.sublist_append_left _ _)
    · exact .result _
  | negation =>
    rcases each with _ | ⟨operand, _⟩
    · exact .result _
    · exact ((operand.truth _).bindQuiet fun _ => .result _).mono (List.sublist_append_left _ _)
  | branch =>
    rcases each with _ | ⟨check, _ | ⟨consequent, alternative⟩⟩
    · exact .result _
    · exact .result _
    refine (check.truth _).bind fun truth => ?_
    rcases truth with _ | (_ | _)
    · exact .result _
    · exact (ComesWithin.headD alternative _).mono (List.sublist_append_right _ _)
    · exact consequent.mono (List.sublist_append_left _ _)
  | loop key => exact absurd rfl (notLoop key)
  | search kind =>
    rcases each with _ | ⟨key, _ | ⟨collection, fallback⟩⟩
    · exact .result _
    · exact .result _
    refine key.bind fun needle => ?_
    split
    · exact .result _
    refine collection.bind fun source => ?_
    split
    · exact .result _
    refine (ComesWithin.ofValue _ _).afterQuiet fun found =>
      (ComesWithin.ofValue _ _).afterQuiet fun outcome => ?_
    cases outcome with
    | some result => exact .result result
    | none => exact ComesWithin.headD fallback _
  | sequence => exact .inTurn each _

/-- The children of a node, attended, are each come to once. -/
theorem attended_children (machine : Machine ρ) (expr : Expr) :
    List.Forall₂ (fun part bound => ComesWithin bound part)
      (expr.children.mapIdx fun index child => attend index (machine.eval child))
      (expr.children.mapIdx fun index _ => [index]) :=
  forall₂_mapIdx fun index child _ => attend_comesWithin index (machine.eval child)

/-- The evaluation of a node other than a loop comes to its children from left to right, and
to none twice. -/
theorem comesTo_sublist (machine : Machine ρ) {expr : Expr} (notLoop : expr.isLoop = false)
    (state : ρ) :
    ((machine.comesTo expr state).map (·.1)).Sublist (List.range expr.children.length) := by
  rcases entering : machine.enter expr state with ⟨failure | _, entered⟩
  · rw [comesTo_refused entering]
    exact List.nil_sublist _
  · have operator : ∀ key, expr.operator ≠ .loop key := by
      intro key same
      cases expr <;> cases same
      cases notLoop
    obtain ⟨comings, noted, sublist⟩ :=
      perform_comesWithin expr.tag operator (machine.attended_children expr) ⟨entered, []⟩
    have comesTo : machine.comesTo expr state = comings := (comesTo_entered entering).trans noted
    rw [comesTo]
    rwa [Expr.flatten_indices] at sublist

/-- What the body of a loop does once it has the list. -/
def attendItems (machine : Machine ρ) (tag : Tag) (key : Key) (body : Action (Attended ρ) Value)
    (stops : List (Action (Attended ρ) Value)) (source : Value) : Action (Attended ρ) Value := do
  match ← Action.ofValue tag.position source.asItems with
  | none | some [] => pure (.nil tag.type)
  | some items =>
    let last ← stops.headD (pure (.nil tag.type))
    repeatBody (machine.attending.writeAt tag key) body last (.nil tag.type) items

/-- The body of a loop evaluates the list first. -/
theorem attendBody_loop (machine : Machine ρ) (tag : Tag) (list body : Expr)
    (stop : Option Expr) (key : Key) :
    machine.attendBody (.loop tag list body stop key) =
      attend 0 (machine.eval list) >>=
        machine.attendItems tag key (attend 1 (machine.eval body))
          (stop.toList.map fun part => attend 2 (machine.eval part)) := by
  cases stop <;> rfl

/-- A loop that has its list comes to what may stop it and then to its body, once for every
item at most. -/
theorem attendItems_comesWithin (machine : Machine ρ) (tag : Tag) (key : Key) (source : Value)
    {body : Action (Attended ρ) Value} (running : body.ComesWithin bound)
    {stops : List (Action (Attended ρ) Value)} {bounds : List (List Nat)}
    (each : List.Forall₂ (fun part bound => part.ComesWithin bound) stops bounds) :
    (machine.attendItems tag key body stops source).ComesWithin
      (bounds.flatten ++ (List.replicate source.items.length bound).flatten) := by
  rw [attendItems]
  rcases viewed : source.asItems with error | items
  · exact .quiet fun _ => rfl
  · rw [Value.items_of_asItems viewed]
    rcases items with _ | (_ | ⟨item, rest⟩)
    · exact .quiet fun _ => rfl
    · exact .quiet fun _ => rfl
    · exact (ComesWithin.headD each _).bind fun last =>
        running.repeatBody (machine.attending_writeAt tag key) last _ (item :: rest)

/-- The evaluation of a loop comes to its list, and unless that fails to what may stop the
loop and then to its body, once for every item of the list at most. -/
theorem comesTo_loop (machine : Machine ρ) (tag : Tag) (list body : Expr) (stop : Option Expr)
    (key : Key) (state : ρ) :
    ((machine.comesTo (.loop tag list body stop key) state).map (·.1)).Sublist [0] ∨
      ∃ entered source after,
        machine.enter (.loop tag list body stop key) state = (.ok (), entered) ∧
        machine.eval list entered = (.ok source, after) ∧
        ((machine.comesTo (.loop tag list body stop key) state).map (·.1)).Sublist
          (0 :: (stop.toList.map (fun _ => 2) ++ List.replicate source.items.length 1)) := by
  rcases entering : machine.enter (.loop tag list body stop key) state with
    ⟨failure | _, entered⟩
  · rw [comesTo_refused entering]
    exact .inl (List.nil_sublist _)
  rw [comesTo_entered entering, attendBody_loop]
  rcases ofList : machine.eval list entered with ⟨error | source, after⟩
  · have failed : attend 0 (machine.eval list) ⟨entered, []⟩ =
        (.error error, ⟨after, [(0, entered)]⟩) := by
      simp only [attend, ofList, List.nil_append]
    rw [Action.run_bind_error failed]
    exact .inl (List.Sublist.refl _)
  · have listed : attend 0 (machine.eval list) ⟨entered, []⟩ =
        (.ok source, ⟨after, [(0, entered)]⟩) := by
      simp only [attend, ofList, List.nil_append]
    have each : List.Forall₂ (fun part bound => ComesWithin bound part)
        (stop.toList.map fun part => attend 2 (machine.eval part))
        (stop.toList.map fun _ => [2]) := by
      rw [List.forall₂_map_left_iff, List.forall₂_map_right_iff, List.forall₂_same]
      exact fun part _ => attend_comesWithin 2 (machine.eval part)
    obtain ⟨comings, noted, sublist⟩ := machine.attendItems_comesWithin tag key source
      (attend_comesWithin 1 (machine.eval body)) each ⟨after, [(0, entered)]⟩
    have once : (stop.toList.map fun _ => [2]).flatten = stop.toList.map fun _ => 2 := by
      cases stop <;> rfl
    rw [List.flatten_replicate_singleton, once] at sublist
    refine .inr ⟨entered, source, after, rfl, ofList, ?_⟩
    rw [Action.run_bind_ok listed, noted]
    exact sublist.cons_cons 0

/-- A loop over two items that nothing stops comes to its list and twice to its body. -/
example : ((Slots.context.machine .none).comesTo Expr.copyEachItem (.start .empty)).map (·.1) =
    [0, 1, 1] := by
  decide +kernel

/-! ## What an evaluation enters -/

/-- An evaluation of a tree without loops goes through the places of the tree in their
order, and to none twice.

Proof: by induction on the tree. The comings to children are some of the indices in their
order, and from each the trace goes through the places of the child in their order. -/
theorem trace_sublist (machine : Machine ρ) {expr : Expr}
    (noLoop : ∀ node ∈ expr.nodes, node.isLoop = false) (state : ρ) :
    (machine.trace expr state).Sublist expr.places := by
  induction expr using Expr.induction_children generalizing state with
  | node expr inductionHypothesis =>
    rw [trace, Expr.places]
    apply List.Sublist.cons_cons
    have eachComing : ∀ coming ∈ machine.comesTo expr state,
        (expr.within coming.1 fun child _ => machine.trace child coming.2).Sublist
          (expr.within coming.1 fun child _ => child.places) := by
      intro coming _
      cases found : expr.children[coming.1]? with
      | none =>
        rw [Expr.within_none found]
        exact List.nil_sublist _
      | some child =>
        have below : child ∈ expr.children := List.mem_of_getElem? found
        rw [Expr.within_some found, Expr.within_some found]
        refine (inductionHypothesis child below (fun node member => ?_) coming.2).map _
        exact noLoop node (Expr.nodes_subset_of_mem_children below member)
    have comings := machine.comesTo_sublist (noLoop expr expr.mem_nodes_self) state
    refine (List.Sublist.flatMap_right _ eachComing).trans ?_
    have indices := comings.flatMap fun index => expr.within index fun child _ => child.places
    rwa [List.flatMap_map] at indices

/-- The place of the tree itself comes first in a trace, and only there. -/
theorem trace_root (machine : Machine ρ) (expr : Expr) (state : ρ) :
    ∃ below, machine.trace expr state = [] :: below ∧ ∀ place ∈ below, place ≠ [] := by
  rw [trace]
  refine ⟨_, rfl, fun place inside => ?_⟩
  obtain ⟨coming, _, within⟩ := List.mem_flatMap.mp inside
  obtain ⟨below, rfl⟩ := Expr.eq_cons_of_mem_within within
  exact List.cons_ne_nil _ _

/-- The children that are entered are those that the body comes to. -/
theorem trace_children (machine : Machine ρ) (expr : Expr) (state : ρ) :
    ((machine.trace expr state).filter (·.length = 1)).Sublist
      ((machine.comesTo expr state).map fun coming => [coming.1]) := by
  rw [trace, List.filter_cons_of_neg (by decide), List.filter_flatMap, List.map_eq_flatMap]
  refine List.Sublist.flatMap_right _ fun coming _ => ?_
  cases found : expr.children[coming.1]? with
  | none =>
    rw [Expr.within_none found]
    exact List.nil_sublist _
  | some child =>
    obtain ⟨below, traced, inside⟩ := machine.trace_root child coming.2
    have deeper : (below.map (coming.1 :: ·)).filter (·.length = 1) = [] := by
      rw [List.filter_eq_nil_iff]
      intro place member
      obtain ⟨rest, among, rfl⟩ := List.mem_map.mp member
      simpa using inside rest among
    rw [Expr.within_some found, traced, List.map_cons, List.filter_cons_of_pos (by simp), deeper]

/-- The evaluation of a loop enters its list, and unless that fails what may stop the loop
and then its body, once for every item of the list at most. -/
theorem trace_loop (machine : Machine ρ) (tag : Tag) (list body : Expr) (stop : Option Expr)
    (key : Key) (state : ρ) :
    ((machine.trace (.loop tag list body stop key) state).filter (·.length = 1)).Sublist [[0]] ∨
      ∃ entered source after,
        machine.enter (.loop tag list body stop key) state = (.ok (), entered) ∧
        machine.eval list entered = (.ok source, after) ∧
        ((machine.trace (.loop tag list body stop key) state).filter (·.length = 1)).Sublist
          ([0] :: (stop.toList.map (fun _ => [2]) ++ List.replicate source.items.length [1])) := by
  have children := machine.trace_children (.loop tag list body stop key) state
  rcases machine.comesTo_loop tag list body stop key state with
    once | ⟨entered, source, after, entering, ofList, inTurn⟩
  · have places := once.map fun index => [index]
    rw [List.map_map] at places
    exact .inl (children.trans places)
  · have places := inTurn.map fun index => [index]
    rw [List.map_map, List.map_cons, List.map_append, List.map_map, List.map_replicate] at places
    exact .inr ⟨entered, source, after, entering, ofList, children.trans places⟩

end Machine

namespace Recorded

variable {σ : Type}

/-- A run has not counted more nodes than there were attempts. -/
theorem nodes_preserves (context : Context σ) (limits : Limits) (before : Nat) :
    (context.machine limits).recording.Preserves (fun _ => True) fun recorded =>
      recorded.state.counters.nodes ≤ before + recorded.visits.length where
  enters node _ recorded counted := by
    have attempt : Counters.next recorded.state.counters.nodes ≤
        before + (recorded.visits ++ [recorded.visit node]).length := by
      rw [List.length_append, List.length_singleton, Counters.next]
      omega
    rcases recorded.state.counters.enter_cases limits with
      ⟨failure, _, entering⟩ | ⟨_, entering⟩
    · rw [Machine.recording_enter_error (context.machine_enter entering node)]
      exact attempt
    · rw [Machine.recording_enter_ok (context.machine_enter entering node)]
      exact attempt
  leaves _ counted := counted
  reads _ _ _ _ _ counted := counted
  writes _ _ _ _ _ _ counted := counted

end Recorded

namespace Expr

variable {σ : Type}

/-- An evaluation counts a node at most for every attempt to enter one. -/
theorem evaluateIn_nodes_le (expr : Expr) (context : Context σ) (limits : Limits)
    (run : RunState σ) :
    (expr.evaluateIn context limits run).2.counters.nodes ≤
      run.counters.nodes + ((context.machine limits).visits expr run).length := by
  have counted := (Recorded.nodes_preserves context limits run.counters.nodes).eval expr
    (fun _ _ => trivial) (Nat.le_refl _ : (Recorded.start run).state.counters.nodes ≤ _)
  rwa [((context.machine limits).recording_eval expr (.start run)).2] at counted

/-- Left to right, each node at most once.

The attempts to enter a node, one that is refused included, are made at the places of the
trace. If no node of the tree is a loop, the trace goes through the places of the tree in
preorder and comes to none twice; so the nodes that are entered are some of the nodes of the
tree in their order, and the run counts at most as many as there are. In any tree, every
evaluation of a loop enters its list at most once, and if the list yields a value then at
most once what may stop the loop and after that its body, at most once for every item of the
list. The children of the loop are at the places of length one.

Proof: of a body it is shown by cases on the operator which children it comes to
(`Machine.comesTo_sublist` and `Machine.comesTo_loop`), and of a tree by induction what it
enters (`Machine.trace_sublist`). -/
theorem evaluation_in_order (expr : Expr) (context : Context σ) (limits : Limits)
    (run : RunState σ) :
    let machine := context.machine limits
    (machine.visits expr run).map (some ·.node) =
        (machine.trace expr run).map (expr.subtree? ·) ∧
      (expr.places.map (expr.subtree? ·) = expr.nodes.map some ∧ expr.places.Nodup) ∧
      ((∀ node ∈ expr.nodes, node.isLoop = false) →
        (machine.trace expr run).Sublist expr.places ∧ (machine.trace expr run).Nodup ∧
        ((machine.visits expr run).map (·.node)).Sublist expr.nodes ∧
        (expr.evaluateIn context limits run).2.counters.nodes ≤
          run.counters.nodes + expr.nodes.length) ∧
      ∀ visit ∈ machine.visits expr run, ∀ tag list body stop key,
        visit.node = .loop tag list body stop key →
        ((machine.trace visit.node visit.state).filter (·.length = 1)).Sublist [[0]] ∨
          ∃ entered source after,
            machine.enter visit.node visit.state = (.ok (), entered) ∧
            machine.eval list entered = (.ok source, after) ∧
            ((machine.trace visit.node visit.state).filter (·.length = 1)).Sublist
              ([0] :: (stop.toList.map (fun _ => [2]) ++
                List.replicate source.items.length [1])) := by
  intro machine
  have traced := machine.visits_eq_trace expr run
  refine ⟨traced, ⟨expr.map_subtree?_places, expr.nodup_places⟩, fun noLoop => ?_, ?_⟩
  · have inOrder := machine.trace_sublist noLoop run
    have entered : ((machine.visits expr run).map (some ·.node)).Sublist (expr.nodes.map some) := by
      rw [traced, ← expr.map_subtree?_places]
      exact inOrder.map _
    refine ⟨inOrder, expr.nodup_places.sublist inOrder, ?_, ?_⟩
    · have nodes := entered.filterMap id
      simpa only [List.filterMap_map, Function.comp_def, id_eq, List.filterMap_eq_map',
        List.filterMap_some] using nodes
    · refine Nat.le_trans (expr.evaluateIn_nodes_le context limits run) ?_
      have attempts := entered.length_le
      rw [List.length_map, List.length_map] at attempts
      exact Nat.add_le_add_left attempts _
  · rintro ⟨node, nesting, state⟩ _ tag list body stop key rfl
    exact machine.trace_loop tag list body stop key state

/-- No node of the tree that copies an item is a loop. -/
theorem copyItem_noLoop : ∀ node ∈ copyItem.nodes, node.isLoop = false := by
  intro node member
  rcases List.mem_cons.mp member with rfl | inner
  · rfl
  · obtain rfl := List.mem_singleton.mp inner
    rfl

/-- With a budget of one node, copying an item is refused at the item, and the refusal is an
attempt too. A loop over two items enters its list and then its body at most twice. -/
theorem evaluation_in_order_copies :
    (∀ node ∈ copyItem.nodes, node.isLoop = false) ∧
      (((Slots.context.machine ⟨none, some 1⟩).visits copyItem (.start .empty)).map
        (·.node)).Sublist copyItem.nodes ∧
      ((Slots.context.machine ⟨none, some 1⟩).visits copyItem (.start .empty)).length = 2 ∧
      ⟨copyEachItem, 1, .start .empty⟩ ∈
        (Slots.context.machine .none).visits copyEachItem (.start .empty) ∧
      (((Slots.context.machine .none).trace copyEachItem (.start .empty)).filter
        (·.length = 1)).Sublist [[0], [1], [1]] := by
  have inOrder := evaluation_in_order copyItem Slots.context ⟨none, some 1⟩ (.start .empty)
  have loops := evaluation_in_order copyEachItem Slots.context .none (.start .empty)
  have visited := (Slots.context.machine .none).root_visited copyEachItem (.start .empty)
  refine ⟨copyItem_noLoop, (inOrder.2.2.1 copyItem_noLoop).2.2.1, by decide +kernel, visited, ?_⟩
  rcases loops.2.2.2 _ visited _ _ _ _ _ rfl with once | ⟨entered, source, _, _, ofList, inTurn⟩
  · exact once.trans (by decide)
  · have yielded : ((Slots.context.machine .none).eval
        (Build.constant (.list .integer [.integer 1, .integer 2]) ⟨1, 10⟩) entered).1 =
          .ok (.list .integer [.integer 1, .integer 2]) := by
      rw [Machine.eval_eq, Machine.node_entered (Slots.context.unlimited_enter _ entered)]
      rfl
    rw [ofList] at yielded
    obtain rfl := Except.ok.inj yielded
    exact inTurn

end Expr

end RuleTree
