import RuleTree.Proofs.UnlimitedEvaluation

/-!
# Loops and sequences

A loop over a list that is known when the tree is built can be written out: for each item
an assignment of the item to the slot of the loop, and then the body. Without limits the
loop and the sequence cannot be told apart. Both evaluate the parts in turn, give the
result of the last body and stop at the first failure, wherever it occurs. The assignments
fail where the loop would, since they stand at its position.

Nothing is asked of the body beyond its type. It may write the slot of the loop or contain
loops itself; each item is assigned whatever the slot holds.
-/

namespace RuleTree

/-- The parts of a loop that is written out: each item in turn is assigned to the slot, and
the body follows. The labels of the assignments and the positions of the constants are
given by the index of the item. -/
def Build.unrolled (key : Key) (body : Expr) (position : Position) (label : Nat → String)
    (written : Nat → Position) (items : List Value) : List Expr :=
  items.zipIdx.flatMap fun (item, index) =>
    [setSlot (label index) key (constant item (written index)) position, body]

/-- A loop is written out item by item. -/
theorem Build.unrolled_cons (key : Key) (body : Expr) (position : Position)
    (label : Nat → String) (written : Nat → Position) (item : Value) (rest : List Value) :
    unrolled key body position label written (item :: rest) =
      setSlot (label 0) key (constant item (written 0)) position :: body ::
        unrolled key body position (fun index => label (index + 1))
          (fun index => written (index + 1)) rest := by
  simp only [unrolled, List.zipIdx_cons', List.flatMap_cons, List.flatMap_map]
  rfl

/-- The parts end with the body. -/
theorem Build.getLast?_unrolled (key : Key) (body : Expr) (position : Position)
    {items : List Value} (occupied : items ≠ []) (label : Nat → String)
    (written : Nat → Position) :
    (unrolled key body position label written items).getLast? = some body := by
  induction items generalizing label written with
  | nil => exact absurd rfl occupied
  | cons item rest inductionHypothesis =>
    rw [unrolled_cons, List.getLast?_cons_cons]
    cases rest with
    | nil => rfl
    | cons next others =>
      have later := inductionHypothesis (List.cons_ne_nil next others)
        (fun index => label (index + 1)) (fun index => written (index + 1))
      rw [unrolled_cons] at later ⊢
      rw [List.getLast?_cons_cons]
      exact later

namespace Context

variable {σ : Type}

/-- To assign a constant to a slot and then to do something else is to write the value and
then to do that: what the assignment gives is not looked at. -/
theorem free_assignConstant (context : Context σ) (label : String) (key : Key) (item : Value)
    (written position : Position) (unit : Signature) (next : Action σ Value) :
    (context.free.eval (Build.setSlot label key (Build.constant item written) position) >>=
        fun _ => next) =
      context.free.writeAt ⟨position, unit⟩ key item >>= fun _ => next := by
  have assigns : context.free.eval
      (Build.setSlot label key (Build.constant item written) position) =
        context.free.writeAt ⟨position, unit⟩ key item >>= fun _ => pure item := by
    rw [context.free_eval]
    rfl
  simp only [assigns, bind_assoc, pure_bind]

/-- A loop that nothing stops does in turn what the parts of the sequence do.

Proof: by induction on the items. The loop binds the first item and evaluates its body, and
the sequence assigns the item and evaluates the same body. -/
theorem freeLoop_eq_unrolled (context : Context σ) (key : Key) (body : Expr)
    (position : Position) (unit : Signature) (items : List Value) (label : Nat → String)
    (written : Nat → Position) (result : Value) :
    context.freeLoop ⟨position, unit⟩ body key (.nil unit) result items =
      Action.inTurn result
        ((Build.unrolled key body position label written items).map context.free.eval) := by
  induction items generalizing label written result with
  | nil => rfl
  | cons item rest inductionHypothesis =>
    rw [Context.freeLoop, Machine.repeatBody_cons, Build.unrolled_cons]
    simp only [List.map_cons, Action.inTurn]
    rw [context.free_assignConstant _ key item _ position unit]
    refine congrArg _ (funext fun _ => congrArg _ (funext fun yielded => ?_))
    exact inductionHypothesis _ _ yielded

end Context

namespace Build

/-- A loop over a list that is not empty can be written out. The loop and the sequence of
its assignments and bodies are both built, and without limits they have one result against
every context, be it a value or an error with its position, leave one state and make the
same requests in the same order.

Proof: on the machine that counts nothing the loop is its body, and so is the sequence
(`Context.freeLoop_eq_unrolled`). Since this holds of every context, it holds of the one
that logs, and the logs are the requests. -/
theorem loop_unrolled (items : List Value) (unit : Signature) (body : Expr) (key : Key)
    (position listed : Position) (label : Nat → String) (written : Nat → Position)
    (occupied : items ≠ []) (typed : body.type = unit) :
    ∃ loop sequence,
      Build.loop (constant (.list unit items) listed) body none key position = .ok loop ∧
      Build.sequence (unrolled key body position label written items) position = .ok sequence ∧
      ∀ (σ : Type) (context : Context σ) (state : σ),
        loop.evaluate context .none state = sequence.evaluate context .none state ∧
        loop.calls context .none state = sequence.calls context .none state := by
  let parts := unrolled key body position label written items
  let loop := Expr.loop ⟨position, unit⟩ (constant (.list unit items) listed) body none key
  let sequence := Expr.sequence ⟨position, unit⟩ parts
  have builtLoop : Build.loop (constant (.list unit items) listed) body none key position =
      .ok loop := by
    have item : expectUnit "for" .iterable (constant (.list unit items) listed) = .ok unit := rfl
    have fits : expectType "for" unit body = .ok () := if_pos typed
    simp only [Build.loop, item, fits, bind, Except.bind, expectOptional, loop]
  have builtSequence : Build.sequence parts position = .ok sequence := by
    have ends : parts.getLast? = some body := getLast?_unrolled key body position occupied _ _
    simp only [Build.sequence, ends, typed]
    rfl
  have alike : ∀ (σ : Type) (context : Context σ),
      loop.evaluate context .none = sequence.evaluate context .none := by
    intro σ context
    funext state
    rw [Expr.evaluate_eq_free, Expr.evaluate_eq_free, context.free_eval sequence]
    rw [context.free_loopConstant ⟨position, unit⟩ body key unit listed state occupied]
    exact congrFun (context.freeLoop_eq_unrolled key body position unit items label written _) state
  refine ⟨loop, sequence, builtLoop, builtSequence, fun σ context state => ?_⟩
  refine ⟨congrFun (alike σ context) state, ?_⟩
  rw [Expr.calls_eq_log, Expr.calls_eq_log, alike]

/-- A loop over two items that copies each, against the plain context. It gives what the
sequence of two assignments and two copies gives, which is the second item. -/
theorem loop_unrolled_copyItem :
    [Value.integer 1, .integer 2] ≠ [] ∧ Expr.copyItem.type = .integer ∧
      ∃ loop sequence,
        Build.loop (constant (.list .integer [.integer 1, .integer 2]) ⟨1, 10⟩) Expr.copyItem none
          (.named "item") ⟨1, 1⟩ = .ok loop ∧
        Build.sequence
          [setSlot "item" (.named "item") (constant (.integer 1) ⟨1, 10⟩) ⟨1, 1⟩, Expr.copyItem,
            setSlot "item" (.named "item") (constant (.integer 2) ⟨1, 10⟩) ⟨1, 1⟩, Expr.copyItem]
          ⟨1, 1⟩ = .ok sequence ∧
        loop.evaluate Slots.context .none .empty = sequence.evaluate Slots.context .none .empty ∧
        (loop.evaluate Slots.context .none .empty).1 = .ok (.integer 2) := by
  have occupied : [Value.integer 1, .integer 2] ≠ [] := List.cons_ne_nil _ _
  obtain ⟨loop, sequence, builtLoop, builtSequence, alike⟩ :=
    loop_unrolled [.integer 1, .integer 2] .integer Expr.copyItem (.named "item") ⟨1, 1⟩ ⟨1, 10⟩
      (fun _ => "item") (fun _ => ⟨1, 10⟩) occupied rfl
  refine ⟨occupied, rfl, loop, sequence, builtLoop, builtSequence, (alike _ _ _).1, ?_⟩
  obtain rfl := Except.ok.inj builtLoop
  rfl

end Build

end RuleTree
