import RuleTree.Eval.Limits
import RuleTree.Proofs.SlotContents
import RuleTree.Proofs.TypeSoundness

/-!
# Trees that use every slot at one type

Building a tree does not look at what its slots are used for: one node may write
an integer to a slot and another read a string from it, and then the plain
context refuses the read. If each name has a type at which every node uses it, if
keys are names, and if nothing is assigned to entries, nothing is left that could
fail. Without limits a built tree then evaluates to a value, whatever it assigns
and binds on the way, and the slots still hold values of their types.
-/

namespace RuleTree

/-- How a node may use slots and entries if each name has a type. -/
def Expr.Consistent (types : String → Signature) : Expr → Prop
  | .slot tag _ key => ∃ name, key = .named name ∧ tag.type = types name
  | .entry _ _ key _ => ∃ name, key = .named name
  | .setSlot _ _ key value => ∃ name, key = .named name ∧ value.type = types name
  | .setEntry .. => False
  | .loop _ list _ _ key => ∃ name, key = .named name ∧ list.type.unit? = some (types name)
  | _ => True

/-- The slots hold well-formed values of the types of their names. -/
def Slots.Typed (types : String → Signature) (slots : Slots) : Prop :=
  slots.All fun name value => value.Fits (types name)

namespace Slots

variable {types : String → Signature}

/-- The machine of the plain context without limits. -/
def machine : Machine (RunState Slots) := context.machine .none

/-- Reading a slot at its type gives a value of the type. -/
theorem read_typed {slots : Slots} (typed : slots.Typed types) (name : String) :
    ∃ value, slots.read (.named name) (types name) = .ok value ∧ value.Fits (types name) := by
  obtain ⟨value, answer⟩ := read_of_all fun value found => (typed name value found).typed
  refine ⟨value, answer, ?_⟩
  rcases read_ok answer with rfl | ⟨other, same, found, _⟩
  · exact Value.fits_nil _
  · cases same
    exact typed name value found

/-- A read of a name at its type succeeds and changes nothing. -/
theorem readAt_keeps {tag : Tag} {name : String} (same : tag.type = types name) :
    (machine.readAt tag (.named name)).Keeps (fun run => run.context.Typed types)
      (fun _ _ => False) (·.Fits tag.type) := by
  refine .ofRequest (fun run value after typed answer => ?_)
    (fun run error after typed refused => ?_)
  · obtain ⟨found, given, fits⟩ := read_typed typed name
    rw [← same] at given fits
    have answered : run.context.read (.named name) tag.type = .ok value := congrArg Prod.fst answer
    obtain rfl : found = value := Except.ok.inj (given.symm.trans answered)
    obtain rfl := congrArg Prod.snd answer
    exact ⟨fits, typed⟩
  · obtain ⟨found, given, _⟩ := read_typed typed name
    rw [← same] at given
    have answered : run.context.read (.named name) tag.type = .error error :=
      congrArg Prod.fst refused
    cases given.symm.trans answered

/-- A write of a value of the type of a name succeeds and keeps the slots typed. -/
theorem writeAt_keeps {tag : Tag} {name : String} {value : Value}
    (fits : value.Fits (types name)) :
    (machine.writeAt tag (.named name) value).Keeps (fun run => run.context.Typed types)
      (fun _ _ => False) fun _ => True := by
  refine .ofRequest (fun run done after typed answer => ⟨trivial, ?_⟩)
    (fun run error after typed refused => ?_)
  · obtain rfl := congrArg Prod.snd answer
    exact typed.insert fits
  · cases congrArg Prod.fst refused

/-- The machine of the plain context serves a well-typed node that uses slots
consistently, and lets it fail in no way. -/
theorem serves {node : Expr} (typed : WellTyped node) (consistent : node.Consistent types) :
    machine.Serves (fun run => run.context.Typed types) (fun _ _ => False) node where
  enters run entered held entering := by
    obtain rfl := congrArg Prod.snd entering
    exact held
  refuses run failure refused _ entering := by
    cases congrArg Prod.fst entering
  reads tag label key same := by
    subst same
    obtain ⟨name, rfl, typeOfName⟩ := consistent
    exact readAt_keeps typeOfName
  writes tag label key value same result fits := by
    subst same
    obtain ⟨name, rfl, typeOfName⟩ := consistent
    cases typed with
    | setSlot _ _ _ _ _ unchanged =>
      rw [← unchanged, typeOfName] at fits
      exact writeAt_keeps fits
  binds tag list body stop key same item fits := by
    subst same
    obtain ⟨name, rfl, typeOfName⟩ := consistent
    cases typed with
    | loop _ _ _ _ _ _ _ _ items =>
      rw [items] at typeOfName
      have typeOfItem : tag.type = types name := Option.some.inj typeOfName
      rw [typeOfItem] at fits
      exact writeAt_keeps fits
  misuses run error after _ misuse _ := by
    cases misuse with
    | assigned => exact consistent
    | indexed =>
      obtain ⟨name, impossible⟩ := consistent
      cases impossible

end Slots

/-- Without limits, a built tree that uses every slot at one type evaluates to a
well-formed value of its type, and leaves slots of the same types.

Proof: the machine of the plain context serves every node of the tree and admits
no failure, so the evaluation has a value. -/
theorem Built.evaluates_of_consistent {types : String → Signature} {expr : Expr}
    (built : Built expr) (consistent : ∀ node ∈ expr.nodes, node.Consistent types) {slots : Slots}
    (typed : slots.Typed types) :
    ∃ value final, expr.evaluate Slots.context .none slots = (.ok value, final) ∧
      value.Fits expr.type ∧ final.Typed types := by
  have served : ∀ node ∈ expr.nodes, Slots.machine.Serves
      (fun run => run.context.Typed types) (fun _ _ => False) node := by
    intro node member
    exact Slots.serves (built.wellTyped.of_mem_nodes node member) (consistent node member)
  have kept := built.wellTyped.keeps served ⟨fun _ held => held, fun _ _ failed => failed⟩
    (.start slots) typed
  rcases ran : Slots.machine.eval expr (.start slots) with ⟨error | value, after⟩
  · rw [ran] at kept
    exact kept.elim
  · rw [ran] at kept
    have evaluated : expr.evaluateIn Slots.context .none (.start slots) = (.ok value, after) := ran
    refine ⟨value, after.context, ?_, kept⟩
    simp only [Expr.evaluate, evaluated]

/-- A loop over two integers that copies each item to another slot. -/
def Expr.copyItems : Expr :=
  .loop ⟨⟨1, 1⟩, .integer⟩
    (Build.constant (.list .integer [.integer 1, .integer 2]) ⟨1, 10⟩)
    (Build.setSlot "last" (.named "last")
      (Build.slot "item" (.named "item") .integer ⟨2, 10⟩) ⟨2, 3⟩)
    none (.named "item")

/-- The loop that copies its items, where the other slot holds an integer already. -/
theorem Built.evaluates_copyItems :
    ∃ value final, Expr.copyItems.evaluate Slots.context .none
        (Slots.empty.insert "last" (.integer 0)) = (.ok value, final) ∧
      value.Fits .integer ∧ final.Typed fun _ => .integer := by
  have items : (Value.list .integer [.integer 1, .integer 2]).WellFormed :=
    .list _ _ (.cons _ _ _ (.integer 1) rfl (.cons _ _ _ (.integer 2) rfl (.nil _)))
  have copies : Built (Build.setSlot "last" (.named "last")
      (Build.slot "item" (.named "item") .integer ⟨2, 10⟩) ⟨2, 3⟩) :=
    .setSlot _ _ _ _ (.slot _ _ _ _)
  have built : Built Expr.copyItems :=
    .loop _ _ none (.named "item") ⟨1, 1⟩ _ (.constant _ ⟨1, 10⟩ items) copies
      (fun _ absent => nomatch absent) rfl
  have consistent : ∀ node ∈ Expr.copyItems.nodes, node.Consistent fun _ => .integer := by
    intro node member
    simp only [Expr.copyItems, Build.constant, Build.setSlot, Build.slot, Expr.nodes,
      Expr.nodesOptional, List.mem_cons, List.mem_append, List.not_mem_nil, or_false] at member
    rcases member with rfl | rfl | rfl | rfl
    · exact ⟨"item", rfl, rfl⟩
    · trivial
    · exact ⟨"last", rfl, rfl⟩
    · exact ⟨"item", rfl, rfl⟩
  have typed : (Slots.empty.insert "last" (.integer 0)).Typed fun _ => .integer :=
    (Slots.all_empty _).insert ⟨.integer 0, rfl⟩
  exact Built.evaluates_of_consistent built consistent typed

end RuleTree
