import RuleTree.Eval.Machine
import RuleTree.Value.Equality
import RuleTree.Value.Operations

/-!
# Evaluation

Operands are evaluated from left to right, each at most once, and no operand is
evaluated whose value is not needed. Nil passes through most operators: what is
asked of an absent value is absent. Equality alone treats nil as a value among
others.

A loop binds its slot to each item of the list that was evaluated before it
began. What may stop it is evaluated once, before the first item.
-/

namespace RuleTree

namespace Action

/-- The truth value of what an operand yields. -/
def truthOf {ρ : Type} (operand : Action ρ Value) : Action ρ (Option Bool) := do
  let value ← operand
  attempt value.asBoolean

/-- A boolean, or the nil boolean where there is no truth value. -/
def ofTruth : Option Bool → Value
  | some truth => .boolean truth
  | none => .nil .boolean

end Action

namespace Value

/-- Whether the order of two values is as the test requires. -/
def ordered (test : Int64 → Bool) (left right : Value) : Except ValueError Value := do
  match ← left.compare right with
  | .integer order => .ok (.boolean (test order))
  | _ => .ok (.nil .boolean)

/-- Whether the text of a string matches a regular expression. -/
def matched (left right : Value) : Except ValueError Value := do
  let text ← left.asString
  let matcher ← right.asMatcher
  match text, matcher with
  | some text, some matcher => .ok (.boolean (matcher.isMatch text))
  | _, _ => .ok (.nil .boolean)

/-- The result of a comparison. Only equality has an answer for nil. -/
def compared (comparison : Comparison) (left right : Value) : Except ValueError Value :=
  match comparison with
  | .equal => .ok (.boolean (left.equal right))
  | .notEqual => .ok (.boolean (!left.equal right))
  | comparison =>
    if left.isNil || right.isNil then .ok (.nil .boolean)
    else
      match comparison with
      | .less => ordered (· < 0) left right
      | .lessEqual => ordered (· ≤ 0) left right
      | .greater => ordered (0 < ·) left right
      | .greaterEqual => ordered (0 ≤ ·) left right
      | _ => matched left right

/-- What a search yields for what it found, or nothing where that is to be decided
by what was given for a miss. -/
def searched (kind : SearchKind) (collection : Value) (found : List Value) :
    Except ValueError (Option Value) :=
  match kind, found with
  | .exist, found => .ok (some (.boolean (!found.isEmpty)))
  | _, [] => .ok none
  | .find, first :: _ => .ok (some first)
  | .findAll, found => do
    let list ← ofItems (collection.unit?.getD .assumed) found
    .ok (some list)

end Value

namespace Machine

variable {ρ : Type}

/-- Bind the items in turn and evaluate the body for each, until it yields what
stops the loop. The result is that of the last body, or `result` if there are no
items. -/
def repeatBody (bind : Value → Action ρ Unit) (body : Action ρ Value) (stop : Value) :
    (result : Value) → (items : List Value) → Action ρ Value
  | result, [] => pure result
  | _, item :: rest => fun state =>
    match bind item state with
    | (.error error, state) => (.error error, state)
    | (.ok (), state) =>
      match body state with
      | (.error error, state) => (.error error, state)
      | (.ok result, state) =>
        if !stop.isNil && result.equal stop then (.ok result, state)
        else repeatBody bind body stop result rest state

mutual
/-- Evaluate a tree. -/
def eval (machine : Machine ρ) (expr : Expr) : Action ρ Value :=
  match expr with
  | .constant tag value => machine.evalNode (.constant tag value) (pure value)
  | .slot tag label key =>
    machine.evalNode (.slot tag label key) (.request (machine.read key tag.type))
  | .entry tag label key source =>
    machine.evalNode (.entry tag label key source) do
      let container ← machine.eval source
      if container.isNil then pure (.nil tag.type)
      else .attempt (container.reference key)
  | .setSlot tag label key value =>
    machine.evalNode (.setSlot tag label key value) do
      let result ← machine.eval value
      Action.request (machine.write key result)
      pure result
  | .setEntry tag label key value target =>
    machine.evalNode (.setEntry tag label key value target) do
      let result ← machine.eval value
      let container ← machine.eval target
      if container.isNil then pure result
      else do
        Action.attempt (container.assign key result)
        pure result
  | .compare tag comparison left right =>
    machine.evalNode (.compare tag comparison left right) do
      let first ← machine.eval left
      let second ← machine.eval right
      .attempt (Value.compared comparison first second)
  | .both tag left right =>
    machine.evalNode (.both tag left right) do
      match ← Action.truthOf (machine.eval left) with
      | none => pure (.nil .boolean)
      | some false => pure (.boolean false)
      | some true =>
        let truth ← Action.truthOf (machine.eval right)
        pure (Action.ofTruth truth)
  | .either tag left right =>
    machine.evalNode (.either tag left right) do
      match ← Action.truthOf (machine.eval left) with
      | none => pure (.nil .boolean)
      | some true => pure (.boolean true)
      | some false =>
        let truth ← Action.truthOf (machine.eval right)
        pure (Action.ofTruth truth)
  | .negation tag operand =>
    machine.evalNode (.negation tag operand) do
      let truth ← Action.truthOf (machine.eval operand)
      pure (Action.ofTruth (truth.map (!·)))
  | .branch tag check consequent alternative =>
    machine.evalNode (.branch tag check consequent alternative) do
      match ← Action.truthOf (machine.eval check) with
      | none => pure (.nil tag.type)
      | some true => machine.eval consequent
      | some false => machine.evalOptional tag alternative
  | .loop tag list body stop key =>
    machine.evalNode (.loop tag list body stop key) do
      let source ← machine.eval list
      match ← Action.attempt source.asItems with
      | none | some [] => pure (.nil tag.type)
      | some items =>
        let last ← machine.evalOptional tag stop
        repeatBody (fun item => .request (machine.write key item)) (machine.eval body) last
          (.nil tag.type) items
  | .search tag kind key collection fallback =>
    machine.evalNode (.search tag kind key collection fallback) do
      let needle ← machine.eval key
      if needle.isNil then pure (.nil tag.type)
      else do
        let source ← machine.eval collection
        if source.isNil then pure (.nil tag.type)
        else do
          let found ← Action.attempt (source.searchAll needle)
          match ← Action.attempt (Value.searched kind source found) with
          | some result => pure result
          | none => machine.evalOptional tag fallback
  | .sequence tag parts =>
    machine.evalNode (.sequence tag parts) (machine.evalAll (.nil tag.type) parts)

/-- Evaluate a tree if there is one; without it the result is nil. -/
def evalOptional (machine : Machine ρ) (tag : Tag) : Option Expr → Action ρ Value
  | none => pure (.nil tag.type)
  | some expr => machine.eval expr

/-- Evaluate trees one after another. The result is that of the last, or `result`
if there are none. -/
def evalAll (machine : Machine ρ) (result : Value) : List Expr → Action ρ Value
  | [] => pure result
  | part :: rest => fun state =>
    match machine.eval part state with
    | (.ok result, state) => machine.evalAll result rest state
    | (.error error, state) => (.error error, state)
end

end Machine

end RuleTree
