import RuleTree.Proofs.Arrivals
import RuleTree.Proofs.UnlimitedEvaluation

/-!
# Loops that are stopped

A loop that nothing stops goes through its items in turns. In a turn the item is bound to
the slot of the loop and the body is evaluated; the loop goes on from the state that the
body has left, unless binding or the body has failed. The turns are the same whatever may
stop a loop, as far as it goes. Only after a turn does it look at what stops it: if the
result of the turn is equal to that, it ends there.

To be stopped therefore cuts a loop off and does nothing else. Turns that were not come to
are not missed, not even those that would have failed. A nil stops nothing.

The items are those of the list as it was before the first turn, and what stops the loop
is evaluated once, also before the first turn. No turn can change either.
-/

namespace RuleTree

variable {σ : Type}

/-! ## Turns -/

/-- A turn of a loop: the item and the state in which it was bound, and the result of the
body and the state that it has left. -/
structure Turn (σ : Type) where
  item : Value
  bound : σ
  result : Value
  after : σ

/-- The turns of a loop that nothing stops, up to the first that fails. -/
def Expr.turns (body : Expr) (context : Context σ) (key : Key) : List Value → σ → List (Turn σ)
  | [], _ => []
  | item :: rest, state =>
    match context.write key item state with
    | (.error _, _) => []
    | (.ok (), bound) =>
      match body.evaluate context .none bound with
      | (.error _, _) => []
      | (.ok result, after) => ⟨item, bound, result, after⟩ :: body.turns context key rest after

namespace Turn

/-- Whether a loop ends after a turn, given what may stop it. -/
def ends (turn : Turn σ) (last : Value) : Bool := !last.isNil && turn.result.equal last

/-- A nil ends no loop. -/
theorem ends_of_isNil (turn : Turn σ) {last : Value} (absent : last.isNil = true) :
    turn.ends last = false := by
  simp [ends, absent]

/-- The requests of a turn: the item is written, and then the body makes its requests. -/
def calls (turn : Turn σ) (body : Expr) (context : Context σ) (key : Key) : List Call :=
  .write key turn.item :: body.calls context .none turn.bound

end Turn

variable {context : Context σ} {tag : Tag} {body : Expr} {key : Key} {items : List Value}
  {turn : Turn σ} {index : Nat} {state : σ} {last : Value}

/-- A loop that is at an item fails there, whatever may stop it, or has a turn and then
either ends or goes on. The items that follow are left open: loops over more or fewer of them
have this turn in common. -/
theorem Context.freeLoop_step (context : Context σ) (tag : Tag) (body : Expr) (key : Key)
    (item : Value) (state : σ) :
    (∃ error after, ∀ rest, body.turns context key (item :: rest) state = [] ∧
      ∀ last result, context.freeLoop tag body key last result (item :: rest) state =
        (.error error, after)) ∨
    ∃ turn : Turn σ, turn.item = item ∧ ∀ rest,
      body.turns context key (item :: rest) state =
        turn :: body.turns context key rest turn.after ∧
      ∀ last result, context.freeLoop tag body key last result (item :: rest) state =
        if turn.ends last then (.ok turn.result, turn.after)
        else context.freeLoop tag body key last turn.result rest turn.after := by
  rcases bound : context.write key item state with ⟨refusal | done, there⟩
  · have failed : context.free.writeAt tag key item state =
        (.error ⟨.context refusal, some tag.position⟩, there) := by
      simp only [Machine.writeAt, Action.ofRequest, free, bound]
    left
    refine ⟨⟨.context refusal, some tag.position⟩, there, fun rest => ⟨?_, fun last result => ?_⟩⟩
    · simp only [Expr.turns, bound]
    · simp only [freeLoop, Machine.repeatBody, failed]
  · have written : context.free.writeAt tag key item state = (.ok (), there) := by
      simp only [Machine.writeAt, Action.ofRequest, free, bound]
    rcases ran : body.evaluate context .none there with ⟨error | yielded, after⟩
    · have failed : context.free.eval body there = (.error error, after) := by
        rw [← Expr.evaluate_eq_free, ran]
      left
      refine ⟨error, after, fun rest => ⟨?_, fun last result => ?_⟩⟩
      · simp only [Expr.turns, bound, ran]
      · simp only [freeLoop, Machine.repeatBody, written, failed]
    · have evaluated : context.free.eval body there = (.ok yielded, after) := by
        rw [← Expr.evaluate_eq_free, ran]
      right
      refine ⟨⟨item, there, yielded, after⟩, rfl, fun rest => ⟨?_, fun last result => ?_⟩⟩
      · simp only [Expr.turns, bound, ran]
      · simp only [freeLoop, Machine.repeatBody, written, evaluated]
        rfl

/-- Turns are taken with the items in their order, from the first on. -/
theorem Expr.items_of_turns (body : Expr) (context : Context σ) (key : Key) (items : List Value)
    (state : σ) : (body.turns context key items state).map (·.item) <+: items := by
  induction items generalizing state with
  | nil => exact List.prefix_rfl
  | cons item rest inductionHypothesis =>
    rw [turns]
    split
    · exact List.nil_prefix
    · split
      · exact List.nil_prefix
      · exact (List.prefix_cons_inj item).mpr (inductionHypothesis _)

/-- The items up to a turn are those of the turns up to it. -/
theorem Expr.take_items (taken : (body.turns context key items state)[index]? = some turn) :
    ((body.turns context key items state).take (index + 1)).map (·.item) =
      items.take (index + 1) := by
  let turns := body.turns context key items state
  have inside : index < turns.length := (List.getElem?_eq_some_iff.mp taken).1
  have ofTurns := List.prefix_iff_eq_take.mp (items_of_turns body context key items state)
  rw [List.map_take, ofTurns, List.take_take, List.length_map, Nat.min_eq_left inside]

/-- The item of a turn. -/
theorem Expr.item_of_turn (taken : (body.turns context key items state)[index]? = some turn) :
    items[index]? = some turn.item := by
  have same := congrArg (·[index]?) (take_items taken)
  simpa [taken] using same.symm

/-! ## Being stopped -/

/-- A loop ends with the first turn after which it is to end.

Proof: by induction on the items. A turn before that one does not end the loop, which then
goes on with the other items from the state that the turn has left. -/
theorem Context.freeLoop_of_ends {result : Value}
    (taken : (body.turns context key items state)[index]? = some turn)
    (ends : turn.ends last = true)
    (first : ∀ earlier < index, ∀ other,
      (body.turns context key items state)[earlier]? = some other → other.ends last = false) :
    context.freeLoop tag body key last result items state = (.ok turn.result, turn.after) := by
  induction items generalizing state index result with
  | nil => cases taken
  | cons item rest inductionHypothesis =>
    rcases context.freeLoop_step tag body key item state with
      ⟨error, after, failed⟩ | ⟨next, same, goesOn⟩
    · rw [(failed rest).1] at taken
      cases taken
    · obtain ⟨turns, run⟩ := goesOn rest
      rw [turns] at taken first
      rw [run]
      cases index with
      | zero =>
        cases taken
        rw [if_pos ends]
      | succ index =>
        have passes : next.ends last = false := first 0 (Nat.succ_pos index) next rfl
        rw [passes, if_neg Bool.false_ne_true]
        refine inductionHypothesis taken fun earlier before other isOther => ?_
        exact first (earlier + 1) (Nat.succ_lt_succ before) other isOther

/-- A loop that no turn ends goes on as if nothing could stop it. -/
theorem Context.freeLoop_of_passes {result idle : Value} (absent : idle.isNil = true)
    (passes : ∀ turn ∈ body.turns context key items state, turn.ends last = false) :
    context.freeLoop tag body key last result items state =
      context.freeLoop tag body key idle result items state := by
  induction items generalizing state result with
  | nil => rfl
  | cons item rest inductionHypothesis =>
    rcases context.freeLoop_step tag body key item state with
      ⟨error, after, failed⟩ | ⟨next, same, goesOn⟩
    · rw [(failed rest).2, (failed rest).2]
    · obtain ⟨turns, run⟩ := goesOn rest
      rw [turns, List.forall_mem_cons] at passes
      rw [run, run, passes.1, next.ends_of_isNil absent]
      exact inductionHypothesis passes.2

/-- A loop over the items up to a turn, which nothing stops, ends with that turn. -/
theorem Context.freeLoop_take {result idle : Value} (absent : idle.isNil = true)
    (taken : (body.turns context key items state)[index]? = some turn) :
    context.freeLoop tag body key idle result (items.take (index + 1)) state =
      (.ok turn.result, turn.after) := by
  induction items generalizing state index result with
  | nil => cases taken
  | cons item rest inductionHypothesis =>
    rcases context.freeLoop_step tag body key item state with
      ⟨error, after, failed⟩ | ⟨next, same, goesOn⟩
    · rw [(failed rest).1] at taken
      cases taken
    · rw [(goesOn rest).1] at taken
      rw [List.take_succ_cons, (goesOn (rest.take index)).2, next.ends_of_isNil absent,
        if_neg Bool.false_ne_true]
      cases index with
      | zero =>
        cases taken
        rfl
      | succ index => exact inductionHypothesis taken

/-- A loop over more items than there are turns fails. -/
theorem Context.freeLoop_fails {result idle : Value} (absent : idle.isNil = true)
    (inside : index < items.length)
    (missing : (body.turns context key items state)[index]? = none) :
    ∃ error after, context.freeLoop tag body key idle result (items.take (index + 1)) state =
      (.error error, after) := by
  induction items generalizing state index result with
  | nil => cases inside
  | cons item rest inductionHypothesis =>
    rcases context.freeLoop_step tag body key item state with
      ⟨error, after, failed⟩ | ⟨next, same, goesOn⟩
    · exact ⟨error, after, (failed _).2 idle result⟩
    · rw [(goesOn rest).1] at missing
      rw [List.take_succ_cons, (goesOn (rest.take index)).2, next.ends_of_isNil absent,
        if_neg Bool.false_ne_true]
      cases index with
      | zero => cases missing
      | succ index => exact inductionHypothesis (Nat.lt_of_succ_lt_succ inside) missing

/-! ## What turns request -/

/-- A turn as it is logged: what had been requested before it, and what after it. -/
def Turn.logged (turn : Turn σ) (key : Key) (before after : List Call) : Turn (Logged σ) :=
  ⟨turn.item, ⟨turn.bound, before ++ [.write key turn.item]⟩, turn.result, ⟨turn.after, after⟩⟩

/-- The turns that are logged are the turns, each after the requests of those before it.

Proof: by induction on the items. The first turn starts from the log that is given, and the
others from the log with its requests added. -/
theorem Expr.getElem?_turns_logging (body : Expr) (context : Context σ) (key : Key)
    (items : List Value) (logged : Logged σ) (index : Nat) :
    let turns := body.turns context key items logged.state
    let requested (count : Nat) := (turns.take count).flatMap (·.calls body context key)
    (body.turns context.logging key items logged)[index]? = turns[index]?.map fun turn =>
      turn.logged key (logged.log ++ requested index) (logged.log ++ requested (index + 1)) := by
  induction items generalizing logged index with
  | nil => rfl
  | cons item rest inductionHypothesis =>
    intro turns requested
    rcases bound : context.write key item logged.state with ⟨refusal | done, there⟩
    · simp only [turns, Expr.turns, bound, Context.logging_write bound]
      rfl
    · rcases ran : body.evaluate context .none there with ⟨error | result, after⟩
      · simp only [turns, Expr.turns, bound, Context.logging_write bound, evaluate_logging, ran]
        rfl
      · let first : Turn σ := ⟨item, there, result, after⟩
        let requests := first.calls body context key
        have plain : turns = first :: body.turns context key rest after := by
          simp only [turns, Expr.turns, bound, ran, first]
        have watched : body.turns context.logging key (item :: rest) logged =
            first.logged key logged.log (logged.log ++ requests) ::
              body.turns context.logging key rest ⟨after, logged.log ++ requests⟩ := by
          simp only [Expr.turns, Context.logging_write bound, evaluate_logging, ran,
            List.append_assoc]
          rfl
        rw [watched, plain]
        simp only [requested, plain]
        cases index with
        | zero => simp [requests]
        | succ index =>
          simp only [List.getElem?_cons_succ, List.take_succ_cons, List.flatMap_cons]
          rw [inductionHypothesis]
          simp only [requests, List.append_assoc]

/-! ## When what stops a loop is evaluated -/

/-- The counters do not bear on where an evaluation arrives. -/
theorem Context.arrivals_eq_free (context : Context σ) (place : List Nat) (expr : Expr)
    (state : σ) :
    ((context.machine .none).arrivals place expr (.start state)).map (·.context) =
      context.free.arrivals place expr state := by
  refine (context.free_indifferent.lockstep.evalNoting
    (fun noted noted' => noted'.map (·.context) = noted) ?_ place expr ⟨state, []⟩
    ⟨.start state, []⟩ rfl rfl)
  rintro noted noted' here run rfl rfl
  exact List.map_append

/-- What stops a loop is arrived at once, in the state that the list has left. -/
theorem Context.free_arrivals_stop (context : Context σ) {tag : Tag} {list body stop : Expr}
    {key : Key} {unit : Signature} {items : List Value} {last : Value} {state listed begun : σ}
    (occupied : items ≠ [])
    (ofList : context.free.eval list state = (.ok (.list unit items), listed))
    (ofStop : context.free.eval stop listed = (.ok last, begun)) :
    context.free.arrivals [2] (.loop tag list body (some stop) key) state = [listed] := by
  obtain ⟨item, rest, rfl⟩ := List.exists_cons_of_ne_nil occupied
  have watchedList : context.free.watching.eval list ⟨state, []⟩ =
      (.ok (.list unit (item :: rest)), ⟨listed, []⟩) := by
    rw [Machine.watching_eval, ofList]
  have notedStop : context.free.noting stop ⟨listed, []⟩ = (.ok last, ⟨begun, [listed]⟩) := by
    rw [Machine.noting_eq, ofStop]
    rfl
  have ran : context.free.evalNoting [2] (.loop tag list body (some stop) key) ⟨state, []⟩ =
      Machine.repeatBody (context.free.watching.writeAt tag key) (context.free.watching.eval body)
        last (.nil tag.type) (item :: rest) ⟨begun, [listed]⟩ := by
    refine (Action.run_bind_ok watchedList).trans ?_
    exact Action.run_bind_ok notedStop
  rw [Machine.arrivals, ran, Machine.watching_repeatBody]

/-! ## Stopped and not -/

namespace Expr

/-- A loop over given items that nothing stops. -/
def unstopped (tag : Tag) (unit : Signature) (body : Expr) (key : Key) (items : List Value) :
    Expr :=
  .loop tag (Build.constant (.list unit items) tag.position) body none key

variable {list stop : Expr} {unit : Signature} {listed begun : σ}

/-- A loop goes through the items of the list, from the state that what stops it has left. -/
theorem evaluate_loop (occupied : items ≠ [])
    (ofList : list.evaluate context .none state = (.ok (.list unit items), listed))
    (ofStop : stop.evaluate context .none listed = (.ok last, begun)) :
    (Expr.loop tag list body (some stop) key).evaluate context .none state =
      context.freeLoop tag body key last (.nil tag.type) items begun := by
  rw [evaluate_eq_free] at ofList ofStop ⊢
  exact context.free_loop key occupied ofList ofStop

/-- A loop over given items goes through them at once. -/
theorem evaluate_unstopped (context : Context σ) (tag : Tag) (unit : Signature) (body : Expr)
    (key : Key) (state : σ) (occupied : items ≠ []) :
    (unstopped tag unit body key items).evaluate context .none state =
      context.freeLoop tag body key (.nil tag.type) (.nil tag.type) items state := by
  rw [evaluate_eq_free]
  exact context.free_loopConstant tag body key unit tag.position state occupied

/-- A loop whose list and whatever stops it are evaluated against a context comes to the
same against the context that logs, with the requests of both in the log. -/
theorem evaluate_logging_before (ofList : list.evaluate context .none state =
      (.ok (.list unit items), listed))
    (ofStop : stop.evaluate context .none listed = (.ok last, begun)) :
    let ofBefore := list.calls context .none state
    list.evaluate context.logging .none ⟨state, []⟩ =
        (.ok (.list unit items), ⟨listed, ofBefore⟩) ∧
      stop.evaluate context.logging .none ⟨listed, ofBefore⟩ =
        (.ok last, ⟨begun, ofBefore ++ stop.calls context .none listed⟩) := by
  intro ofBefore
  constructor
  · rw [evaluate_logging, ofList]
    rfl
  · rw [evaluate_logging, ofStop]

/-- A loop that no turn ends comes out as the loop that nothing stops, and makes the
requests of the list, of what stops it and of that loop. -/
theorem loop_of_passes (occupied : items ≠ [])
    (ofList : list.evaluate context .none state = (.ok (.list unit items), listed))
    (ofStop : stop.evaluate context .none listed = (.ok last, begun))
    (passes : ∀ turn ∈ body.turns context key items begun, turn.ends last = false) :
    let stopped := Expr.loop tag list body (some stop) key
    let unstopped := unstopped tag unit body key items
    stopped.evaluate context .none state = unstopped.evaluate context .none begun ∧
      stopped.calls context .none state =
        list.calls context .none state ++ stop.calls context .none listed ++
          unstopped.calls context .none begun := by
  intro stopped unstopped
  have against {τ : Type} (other : Context τ) {start middle first : τ}
      (ofList : list.evaluate other .none start = (.ok (.list unit items), middle))
      (ofStop : stop.evaluate other .none middle = (.ok last, first))
      (passes : ∀ turn ∈ body.turns other key items first, turn.ends last = false) :
      stopped.evaluate other .none start = unstopped.evaluate other .none first := by
    rw [evaluate_loop occupied ofList ofStop]
    rw [evaluate_unstopped other tag unit body key first occupied]
    exact other.freeLoop_of_passes rfl passes
  refine ⟨against context ofList ofStop passes, ?_⟩
  -- No turn ends the loop against the context that logs either, since the results are the same.
  obtain ⟨loggedList, loggedStop⟩ := evaluate_logging_before ofList ofStop
  have loggedPasses : ∀ turn ∈ body.turns context.logging key items
      ⟨begun, list.calls context .none state ++ stop.calls context .none listed⟩,
      turn.ends last = false := by
    intro logged member
    obtain ⟨index, reached⟩ := List.mem_iff_getElem?.mp member
    rw [getElem?_turns_logging] at reached
    obtain ⟨turn, taken, rfl⟩ := Option.map_eq_some_iff.mp reached
    exact passes turn (List.mem_of_getElem? taken)
  rw [calls_eq_log, against context.logging loggedList loggedStop loggedPasses, evaluate_logging]

/-- A loop comes out with the first turn that ends it, and makes the requests of the list,
of what stops it and of the turns up to that one. -/
theorem loop_of_ends (occupied : items ≠ [])
    (ofList : list.evaluate context .none state = (.ok (.list unit items), listed))
    (ofStop : stop.evaluate context .none listed = (.ok last, begun))
    (taken : (body.turns context key items begun)[index]? = some turn)
    (ends : turn.ends last = true)
    (first : ∀ earlier < index, ∀ other,
      (body.turns context key items begun)[earlier]? = some other → other.ends last = false) :
    let stopped := Expr.loop tag list body (some stop) key
    stopped.evaluate context .none state = (.ok turn.result, turn.after) ∧
      stopped.calls context .none state =
        list.calls context .none state ++ stop.calls context .none listed ++
          ((body.turns context key items begun).take (index + 1)).flatMap
            (·.calls body context key) := by
  intro stopped
  constructor
  · rw [evaluate_loop occupied ofList ofStop]
    exact context.freeLoop_of_ends taken ends first
  · obtain ⟨loggedList, loggedStop⟩ := evaluate_logging_before ofList ofStop
    have loggedTurns := getElem?_turns_logging body context key items
      ⟨begun, list.calls context .none state ++ stop.calls context .none listed⟩
    rw [calls_eq_log, evaluate_loop occupied loggedList loggedStop]
    rw [context.logging.freeLoop_of_ends ((loggedTurns index).trans (congrArg _ taken)) ends ?_]
    · rfl
    · intro earlier before logged reached
      rw [loggedTurns] at reached
      obtain ⟨other, isOther, rfl⟩ := Option.map_eq_some_iff.mp reached
      exact first earlier before other isOther

/-- To be stopped cuts a loop off and does nothing else.

The list gives items and then what stops the loop gives a value. The turns that the loop
over these items would take from there, if nothing stopped it, are those of `Expr.turns`:
a loop over the items up to a turn ends with the result of the turn in the state after it,
and if there is no such turn it fails. If the value is nil or no turn has a result equal to
it, the loop comes out as the loop that nothing stops, be it with a result or a failure,
and makes the same requests. Otherwise it ends with the first turn that has: its result and
its state are those of that turn, the items up to it have been bound in their order, each
followed by the requests of the body, and nothing else has been requested. What stops the
loop is evaluated once, in the state that the list has left.

Proof: the stopped loop and the other take the same steps until a turn ends the stopped
one, which is seen by induction on the items (`Context.freeLoop_of_ends` and
`Context.freeLoop_of_passes`). This holds against the context that logs too, whose log is
the requests. -/
theorem stop_cuts_off (occupied : items ≠ [])
    (ofList : list.evaluate context .none state = (.ok (.list unit items), listed))
    (ofStop : stop.evaluate context .none listed = (.ok last, begun)) :
    let stopped := Expr.loop tag list body (some stop) key
    let unstopped := unstopped tag unit body key
    let turns := body.turns context key items begun
    let before := list.calls context .none state ++ stop.calls context .none listed
    (∀ index turn, turns[index]? = some turn →
      items[index]? = some turn.item ∧
      (unstopped (items.take (index + 1))).evaluate context .none begun =
        (.ok turn.result, turn.after)) ∧
    (∀ index < items.length, turns[index]? = none →
      ∃ error after, (unstopped (items.take (index + 1))).evaluate context .none begun =
        (.error error, after)) ∧
    (last.isNil = true ∨ (∀ turn ∈ turns, turn.result.equal last = false) →
      stopped.evaluate context .none state = (unstopped items).evaluate context .none begun ∧
      stopped.calls context .none state =
        before ++ (unstopped items).calls context .none begun) ∧
    (∀ index turn, last.isNil = false → turns[index]? = some turn →
      turn.result.equal last = true →
      (∀ earlier < index, ∀ other, turns[earlier]? = some other →
        other.result.equal last = false) →
      stopped.evaluate context .none state = (.ok turn.result, turn.after) ∧
      stopped.calls context .none state =
        before ++ (turns.take (index + 1)).flatMap (fun turn =>
          .write key turn.item :: body.calls context .none turn.bound) ∧
      (turns.take (index + 1)).map (·.item) = items.take (index + 1)) ∧
    ((context.machine .none).arrivals [2] stopped (.start state)).map (·.context) = [listed] := by
  intro stopped unstopped turns before
  refine ⟨?turns, ?failures, ?passed, ?ended, ?once⟩
  case turns =>
    intro index turn taken
    have some : items.take (index + 1) ≠ [] := by
      simp [occupied]
    refine ⟨item_of_turn taken, ?_⟩
    rw [evaluate_unstopped context tag unit body key begun some]
    exact context.freeLoop_take rfl taken
  case failures =>
    intro index inside missing
    have some : items.take (index + 1) ≠ [] := by
      simp [occupied]
    rw [evaluate_unstopped context tag unit body key begun some]
    exact context.freeLoop_fails rfl inside missing
  case passed =>
    intro passes
    refine loop_of_passes occupied ofList ofStop fun turn member => ?_
    rcases passes with absent | misses
    · exact turn.ends_of_isNil absent
    · simp [Turn.ends, misses turn member]
  case ended =>
    intro index turn present taken equal first
    have ends : turn.ends last = true := by simp [Turn.ends, present, equal]
    obtain ⟨result, calls⟩ := loop_of_ends occupied ofList ofStop taken ends
      fun earlier before other isOther => by simp [Turn.ends, first earlier before other isOther]
    exact ⟨result, calls, take_items taken⟩
  case once =>
    rw [evaluate_eq_free] at ofList ofStop
    rw [context.arrivals_eq_free]
    exact context.free_arrivals_stop occupied ofList ofStop

/-- Copy the item unless it is three. Then write under an index, which the plain context
refuses. -/
def copyUnlessThree : Expr :=
  .branch ⟨⟨2, 1⟩, .integer⟩
    (.compare ⟨⟨2, 9⟩, .boolean⟩ .equal (Build.slot "item" (.named "item") .integer ⟨2, 4⟩)
      (Build.constant (.integer 3) ⟨2, 12⟩))
    (Build.setSlot "0" (.indexed 0) (Build.constant (.integer 3) ⟨2, 26⟩) ⟨2, 20⟩) (some copyItem)

/-- A loop over three items that ends once the second has been copied. -/
def copyUntilTwo : Expr :=
  .loop ⟨⟨1, 1⟩, .integer⟩
    (Build.constant (.list .integer [.integer 1, .integer 2, .integer 3]) ⟨1, 10⟩) copyUnlessThree
    (some (Build.constant (.integer 2) ⟨1, 20⟩)) (.named "item")

/-- Against the plain context the third turn would fail. Two of the three items are bound, and
the second is what the loop gives and what has been copied. -/
theorem stop_cuts_off_copyUntilTwo :
    let items : List Value := [.integer 1, .integer 2, .integer 3]
    items ≠ [] ∧
      (Build.constant (.list .integer items) ⟨1, 10⟩).evaluate Slots.context .none .empty =
        (.ok (.list .integer items), .empty) ∧
      (Build.constant (.integer 2) ⟨1, 20⟩).evaluate Slots.context .none .empty =
        (.ok (.integer 2), .empty) ∧
      (∃ error after, (unstopped ⟨⟨1, 1⟩, .integer⟩ .integer copyUnlessThree (.named "item")
        items).evaluate Slots.context .none .empty = (.error error, after)) ∧
      ∃ last, copyUntilTwo.evaluate Slots.context .none .empty = (.ok (.integer 2), last) ∧
        last.get? "last" = some (.integer 2) ∧ last.get? "item" = some (.integer 2) ∧
        copyUntilTwo.calls Slots.context .none .empty =
          [.write (.named "item") (.integer 1), .read (.named "item") .integer,
            .read (.named "item") .integer, .write (.named "last") (.integer 1),
            .write (.named "item") (.integer 2), .read (.named "item") .integer,
            .read (.named "item") .integer, .write (.named "last") (.integer 2)] := by
  intro items
  have occupied : items ≠ [] := List.cons_ne_nil _ _
  let list := Build.constant (.list .integer items) ⟨1, 10⟩
  let stop := Build.constant (.integer 2) ⟨1, 20⟩
  have ofList : list.evaluate Slots.context .none .empty =
      (.ok (.list .integer items), .empty) := rfl
  have ofStop : stop.evaluate Slots.context .none .empty = (.ok (.integer 2), .empty) := rfl
  let first : Turn Slots :=
    ⟨.integer 1, ⟨[("item", .integer 1)]⟩, .integer 1,
      ⟨[("item", .integer 1), ("last", .integer 1)]⟩⟩
  let second : Turn Slots :=
    ⟨.integer 2, ⟨[("item", .integer 2), ("last", .integer 1)]⟩, .integer 2,
      ⟨[("item", .integer 2), ("last", .integer 2)]⟩⟩
  -- The turns are computed on the machine that counts nothing.
  have turns : copyUnlessThree.turns Slots.context (.named "item") items .empty =
      [first, second] := by
    simp only [items, Expr.turns, evaluate_eq_free]
    rfl
  have ofFirst : copyUnlessThree.calls Slots.context .none first.bound =
      [.read (.named "item") .integer, .read (.named "item") .integer,
        .write (.named "last") (.integer 1)] := by
    rw [calls_eq_log, evaluate_eq_free]
    rfl
  have ofSecond : copyUnlessThree.calls Slots.context .none second.bound =
      [.read (.named "item") .integer, .read (.named "item") .integer,
        .write (.named "last") (.integer 2)] := by
    rw [calls_eq_log, evaluate_eq_free]
    rfl
  obtain ⟨_, failures, _, ended, _⟩ := @stop_cuts_off _ _ ⟨⟨1, 1⟩, .integer⟩ copyUnlessThree
    (.named "item") _ _ _ _ _ _ _ _ occupied ofList ofStop
  rw [turns] at failures ended
  have fails := failures 2 (by decide) rfl
  have passes : ∀ earlier < 1, ∀ other, [first, second][earlier]? = some other →
      other.result.equal (.integer 2) = false := by
    intro earlier before other isOther
    obtain rfl : earlier = 0 := Nat.lt_one_iff.mp before
    obtain rfl := Option.some.inj isOther
    rfl
  obtain ⟨result, calls, _⟩ := ended 1 second rfl rfl rfl passes
  refine ⟨occupied, ofList, ofStop, fails, second.after, result, rfl, rfl, calls.trans ?_⟩
  simp only [List.take_succ_cons, List.flatMap_cons, ofFirst, ofSecond]
  rfl

end Expr

end RuleTree
