import RuleTree.Proofs.Outcome
import RuleTree.Proofs.Tree
import RuleTree.Proofs.TypedValue

/-!
# Trees that have been built

A tree can only be had from the functions that build nodes, applied to trees that
were had in the same way. What these functions check is stated here once, as a
relation between the types of a node and of its operands: a built tree is well
typed at every node. The relation says nothing about labels, keys and positions,
which are not checked.
-/

namespace RuleTree

/-- A tree that the building functions have accepted, from well-formed constants
up. -/
inductive Built : Expr → Prop
  | constant (value : Value) (position : Position) (formed : value.WellFormed) :
      Built (Build.constant value position)
  | slot (label : String) (key : Key) (type : Signature) (position : Position) :
      Built (Build.slot label key type position)
  | entry (label : String) (key : Key) (source : Expr) (position : Position) (expr : Expr)
      (ofSource : Built source) (accepted : Build.entry label key source position = .ok expr) :
      Built expr
  | setSlot (label : String) (key : Key) (value : Expr) (position : Position)
      (ofValue : Built value) : Built (Build.setSlot label key value position)
  | setEntry (label : String) (key : Key) (value target : Expr) (position : Position)
      (ofValue : Built value) (ofTarget : Built target) :
      Built (Build.setEntry label key value target position)
  | compare (comparison : Comparison) (left right : Expr) (position : Position) (expr : Expr)
      (ofLeft : Built left) (ofRight : Built right)
      (accepted : Build.compare comparison left right position = .ok expr) : Built expr
  | both (left right : Expr) (position : Position) (expr : Expr) (ofLeft : Built left)
      (ofRight : Built right) (accepted : Build.both left right position = .ok expr) : Built expr
  | either (left right : Expr) (position : Position) (expr : Expr) (ofLeft : Built left)
      (ofRight : Built right) (accepted : Build.either left right position = .ok expr) : Built expr
  | negation (operand : Expr) (position : Position) (expr : Expr) (ofOperand : Built operand)
      (accepted : Build.negation operand position = .ok expr) : Built expr
  | branch (check consequent : Expr) (alternative : Option Expr) (position : Position)
      (expr : Expr) (ofCheck : Built check) (ofConsequent : Built consequent)
      (ofAlternative : ∀ part, alternative = some part → Built part)
      (accepted : Build.branch check consequent alternative position = .ok expr) : Built expr
  | loop (list body : Expr) (stop : Option Expr) (key : Key) (position : Position) (expr : Expr)
      (ofList : Built list) (ofBody : Built body) (ofStop : ∀ part, stop = some part → Built part)
      (accepted : Build.loop list body stop key position = .ok expr) : Built expr
  | search (kind : SearchKind) (key collection : Expr) (fallback : Option Expr)
      (position : Position) (expr : Expr) (ofKey : Built key) (ofCollection : Built collection)
      (ofFallback : ∀ part, fallback = some part → Built part)
      (accepted : Build.search kind key collection fallback position = .ok expr) : Built expr
  | sequence (parts : List Expr) (position : Position) (expr : Expr)
      (ofParts : ∀ part ∈ parts, Built part)
      (accepted : Build.sequence parts position = .ok expr) : Built expr

/-- A tree in which the type of every node is that of what its operands make of
each other. -/
inductive WellTyped : Expr → Prop
  | constant (tag : Tag) (value : Value) (fits : value.Fits tag.type) :
      WellTyped (.constant tag value)
  | slot (tag : Tag) (label : String) (key : Key) : WellTyped (.slot tag label key)
  | entry (tag : Tag) (label : String) (key : Key) (source : Expr) (ofSource : WellTyped source)
      (map : source.type = .map tag.type) : WellTyped (.entry tag label key source)
  | setSlot (tag : Tag) (label : String) (key : Key) (value : Expr) (ofValue : WellTyped value)
      (same : value.type = tag.type) : WellTyped (.setSlot tag label key value)
  | setEntry (tag : Tag) (label : String) (key : Key) (value target : Expr)
      (ofValue : WellTyped value) (ofTarget : WellTyped target) (same : value.type = tag.type) :
      WellTyped (.setEntry tag label key value target)
  | compare (tag : Tag) (comparison : Comparison) (left right : Expr) (ofLeft : WellTyped left)
      (ofRight : WellTyped right) (accepts : comparison.Accepts left.type right.type)
      (boolean : tag.type = .boolean) : WellTyped (.compare tag comparison left right)
  | both (tag : Tag) (left right : Expr) (ofLeft : WellTyped left) (ofRight : WellTyped right)
      (leftBoolean : left.type = .boolean) (rightBoolean : right.type = .boolean)
      (boolean : tag.type = .boolean) : WellTyped (.both tag left right)
  | either (tag : Tag) (left right : Expr) (ofLeft : WellTyped left) (ofRight : WellTyped right)
      (leftBoolean : left.type = .boolean) (rightBoolean : right.type = .boolean)
      (boolean : tag.type = .boolean) : WellTyped (.either tag left right)
  | negation (tag : Tag) (operand : Expr) (ofOperand : WellTyped operand)
      (operandBoolean : operand.type = .boolean) (boolean : tag.type = .boolean) :
      WellTyped (.negation tag operand)
  | branch (tag : Tag) (check consequent : Expr) (alternative : Option Expr)
      (ofCheck : WellTyped check) (ofConsequent : WellTyped consequent)
      (ofAlternative : ∀ part, alternative = some part → WellTyped part)
      (checkBoolean : check.type = .boolean) (same : consequent.type = tag.type)
      (sameToo : ∀ part, alternative = some part → part.type = tag.type) :
      WellTyped (.branch tag check consequent alternative)
  | loop (tag : Tag) (list body : Expr) (stop : Option Expr) (key : Key)
      (ofList : WellTyped list) (ofBody : WellTyped body)
      (ofStop : ∀ part, stop = some part → WellTyped part) (items : list.type = .list tag.type)
      (same : body.type = tag.type) (sameToo : ∀ part, stop = some part → part.type = tag.type) :
      WellTyped (.loop tag list body stop key)
  | search (tag : Tag) (kind : SearchKind) (key collection : Expr) (fallback : Option Expr)
      (unit : Signature) (ofKey : WellTyped key) (ofCollection : WellTyped collection)
      (ofFallback : ∀ part, fallback = some part → WellTyped part)
      (searches : Value.Searches key.type collection.type unit)
      (promised : tag.type = Build.searchType kind unit)
      (sameToo : ∀ part, fallback = some part → part.type = tag.type) :
      WellTyped (.search tag kind key collection fallback)
  | sequence (tag : Tag) (parts : List Expr) (last : Expr)
      (ofParts : ∀ part ∈ parts, WellTyped part) (ends : parts.getLast? = some last)
      (same : last.type = tag.type) : WellTyped (.sequence tag parts)

/-- A well-typed tree is well typed at every node. -/
theorem WellTyped.of_mem_nodes {expr : Expr} (typed : WellTyped expr) :
    ∀ node ∈ expr.nodes, WellTyped node := by
  induction expr with
  | constant tag value => exact List.forall_mem_singleton.mpr typed
  | slot tag label key => exact List.forall_mem_singleton.mpr typed
  | entry tag label key source each =>
    refine List.forall_mem_cons.mpr ⟨typed, ?_⟩
    cases typed with
    | entry _ _ _ _ ofSource => exact each ofSource
  | setSlot tag label key value each =>
    refine List.forall_mem_cons.mpr ⟨typed, ?_⟩
    cases typed with
    | setSlot _ _ _ _ ofValue => exact each ofValue
  | setEntry tag label key value target eachValue eachTarget =>
    refine List.forall_mem_cons.mpr ⟨typed, ?_⟩
    cases typed with
    | setEntry _ _ _ _ _ ofValue ofTarget =>
      exact List.forall_mem_append.mpr ⟨eachValue ofValue, eachTarget ofTarget⟩
  | compare tag comparison left right eachLeft eachRight =>
    refine List.forall_mem_cons.mpr ⟨typed, ?_⟩
    cases typed with
    | compare _ _ _ _ ofLeft ofRight =>
      exact List.forall_mem_append.mpr ⟨eachLeft ofLeft, eachRight ofRight⟩
  | both tag left right eachLeft eachRight =>
    refine List.forall_mem_cons.mpr ⟨typed, ?_⟩
    cases typed with
    | both _ _ _ ofLeft ofRight =>
      exact List.forall_mem_append.mpr ⟨eachLeft ofLeft, eachRight ofRight⟩
  | either tag left right eachLeft eachRight =>
    refine List.forall_mem_cons.mpr ⟨typed, ?_⟩
    cases typed with
    | either _ _ _ ofLeft ofRight =>
      exact List.forall_mem_append.mpr ⟨eachLeft ofLeft, eachRight ofRight⟩
  | negation tag operand each =>
    refine List.forall_mem_cons.mpr ⟨typed, ?_⟩
    cases typed with
    | negation _ _ ofOperand => exact each ofOperand
  | branch tag check consequent alternative eachCheck eachConsequent eachAlternative =>
    refine List.forall_mem_cons.mpr ⟨typed, ?_⟩
    cases typed with
    | branch _ _ _ _ ofCheck ofConsequent ofAlternative =>
      simp only [List.forall_mem_append, Expr.forall_nodesOptional]
      exact ⟨eachCheck ofCheck, eachConsequent ofConsequent,
        fun part present => eachAlternative part present (ofAlternative part present)⟩
  | loop tag list body stop key eachList eachBody eachStop =>
    refine List.forall_mem_cons.mpr ⟨typed, ?_⟩
    cases typed with
    | loop _ _ _ _ _ ofList ofBody ofStop =>
      simp only [List.forall_mem_append, Expr.forall_nodesOptional]
      exact ⟨eachList ofList, eachBody ofBody,
        fun part present => eachStop part present (ofStop part present)⟩
  | search tag kind key collection fallback eachKey eachCollection eachFallback =>
    refine List.forall_mem_cons.mpr ⟨typed, ?_⟩
    cases typed with
    | search _ _ _ _ _ _ ofKey ofCollection ofFallback =>
      simp only [List.forall_mem_append, Expr.forall_nodesOptional]
      exact ⟨eachKey ofKey, eachCollection ofCollection,
        fun part present => eachFallback part present (ofFallback part present)⟩
  | sequence tag parts each =>
    refine List.forall_mem_cons.mpr ⟨typed, ?_⟩
    cases typed with
    | sequence _ _ _ ofParts =>
      exact Expr.forall_nodesAll.mpr fun part member => each part member (ofParts part member)

namespace Build

/-! ## What the checks establish -/

/-- An operand of the expected type. -/
theorem expectType_ok {operator : String} {expected : Signature} {operand : Expr} {done : Unit}
    (accepted : expectType operator expected operand = .ok done) : operand.type = expected := by
  unfold expectType at accepted
  split at accepted
  · assumption
  · cases accepted

/-- An operand with the expected capability. -/
theorem expectCapability_ok {operator : String} {capability : Capability} {operand : Expr}
    {done : Unit} (accepted : expectCapability operator capability operand = .ok done) :
    operand.type.base.supports [capability] = true := by
  unfold expectCapability at accepted
  split at accepted
  · assumption
  · cases accepted

/-- Two operands of one type. -/
theorem expectSame_ok {operator : String} {left right : Expr} {done : Unit}
    (accepted : expectSame operator left right = .ok done) : left.type = right.type := by
  unfold expectSame at accepted
  split at accepted
  · assumption
  · cases accepted

/-- An operand that is there has passed its check. -/
theorem expectOptional_ok {check : Expr → Except BuildError Unit} {optional : Option Expr}
    {done : Unit} (accepted : expectOptional check optional = .ok done) (part : Expr)
    (present : optional = some part) : check part = .ok () := by
  subst present
  exact accepted

/-- An operand with the expected capability and a unit type. -/
theorem expectUnit_ok {operator : String} {capability : Capability} {operand : Expr}
    {unit : Signature} (accepted : expectUnit operator capability operand = .ok unit) :
    operand.type.base.supports [capability] = true ∧ operand.type.unit? = some unit := by
  obtain ⟨_, capable, named⟩ := bind_ok accepted
  refine ⟨expectCapability_ok capable, ?_⟩
  split at named
  · rename_i found same
    cases named
    exact same
  · cases named

/-- Only integers have an order. -/
theorem eq_integer_of_comparable {type : Signature}
    (capable : type.base.supports [.comparable] = true) : type = .integer := by
  cases type with
  | integer => rfl
  | _ => cases capable

/-- Only maps have entries to refer to. -/
theorem eq_map_of_referable {type unit : Signature}
    (capable : type.base.supports [.referable] = true) (named : type.unit? = some unit) :
    type = .map unit := by
  cases type with
  | map other => exact congrArg Signature.map (Option.some.inj named)
  | _ => cases capable

/-- Only lists have items to go through. -/
theorem eq_list_of_iterable {type unit : Signature}
    (capable : type.base.supports [.iterable] = true) (named : type.unit? = some unit) :
    type = .list unit := by
  cases type with
  | list other => exact congrArg Signature.list (Option.some.inj named)
  | _ => cases capable

/-- Lists and maps can be searched. -/
theorem collection_of_searchable {type unit : Signature}
    (capable : type.base.supports [.searchable] = true) (named : type.unit? = some unit) :
    type = .list unit ∨ type = .map unit := by
  cases type with
  | list other => exact .inl (congrArg Signature.list (Option.some.inj named))
  | map other => exact .inr (congrArg Signature.map (Option.some.inj named))
  | _ => cases capable

/-- What is matched against is well typed if it was before it was compiled. -/
theorem pattern_wellTyped {right compiled : Expr} (typed : WellTyped right)
    (accepted : pattern right = .ok compiled) : WellTyped compiled := by
  unfold pattern at accepted
  split at accepted
  · split at accepted
    · cases accepted
      exact .constant _ _ ⟨.regexp _, rfl⟩
    · cases accepted
  · cases accepted
    exact .constant _ _ (Value.fits_nil _)
  · cases accepted
    exact typed

/-! ## What an accepted node is -/

/-- The operands of a comparison have types that it is made for, where the right one
is taken as it was given back. -/
theorem expectOperands_accepts {comparison : Comparison} {left right operand : Expr}
    (typed : WellTyped right) (accepted : expectOperands comparison left right = .ok operand) :
    WellTyped operand ∧ comparison.Accepts left.type operand.type := by
  -- The four orders make the same two checks.
  have ordered (orders : (do
      expectSame comparison.name left right
      expectCapability comparison.name .comparable left
      .ok right) = Except.ok operand) :
      WellTyped operand ∧ left.type = .integer ∧ operand.type = .integer := by
    obtain ⟨_, same, rest⟩ := bind_ok orders
    obtain ⟨_, capable, unchanged⟩ := bind_ok rest
    cases unchanged
    have integer : left.type = .integer := eq_integer_of_comparable (expectCapability_ok capable)
    exact ⟨typed, integer, (expectSame_ok same).symm.trans integer⟩
  cases comparison with
  | equal =>
    cases accepted
    exact ⟨typed, trivial⟩
  | notEqual =>
    cases accepted
    exact ⟨typed, trivial⟩
  | less => exact ordered accepted
  | lessEqual => exact ordered accepted
  | greater => exact ordered accepted
  | greaterEqual => exact ordered accepted
  | matching =>
    obtain ⟨_, string, rest⟩ := bind_ok accepted
    obtain ⟨compiled, patterned, rest⟩ := bind_ok rest
    obtain ⟨_, regexp, unchanged⟩ := bind_ok rest
    cases unchanged
    exact ⟨pattern_wellTyped typed patterned, expectType_ok string, expectType_ok regexp⟩

/-- A choice has a boolean to choose by, and parts of its own type. -/
theorem branch_wellTyped {check consequent expr : Expr} {alternative : Option Expr}
    {position : Position} (ofCheck : WellTyped check) (ofConsequent : WellTyped consequent)
    (ofAlternative : ∀ part, alternative = some part → WellTyped part)
    (accepted : branch check consequent alternative position = .ok expr) : WellTyped expr := by
  obtain ⟨_, boolean, rest⟩ := bind_ok accepted
  obtain ⟨_, parts, made⟩ := bind_ok rest
  cases made
  refine .branch _ _ _ _ ofCheck ofConsequent ofAlternative (expectType_ok boolean) rfl ?_
  intro part present
  exact (expectSame_ok (expectOptional_ok parts part present)).symm

/-- A loop goes through a list of its own type, which its body and what stops it
have as well. -/
theorem loop_wellTyped {list body expr : Expr} {stop : Option Expr} {key : Key}
    {position : Position} (ofList : WellTyped list) (ofBody : WellTyped body)
    (ofStop : ∀ part, stop = some part → WellTyped part)
    (accepted : loop list body stop key position = .ok expr) : WellTyped expr := by
  obtain ⟨unit, iterable, rest⟩ := bind_ok accepted
  obtain ⟨_, yields, rest⟩ := bind_ok rest
  obtain ⟨_, stops, made⟩ := bind_ok rest
  cases made
  obtain ⟨capable, named⟩ := expectUnit_ok iterable
  refine .loop _ _ _ _ _ ofList ofBody ofStop (eq_list_of_iterable capable named)
    (expectType_ok yields) ?_
  intro part present
  exact expectType_ok (expectOptional_ok stops part present)

/-- What is searched for is a scalar or the untyped nil. -/
theorem expectKey_ok {operator : String} {key : Expr} {done : Unit}
    (accepted : expectKey operator key = .ok done) :
    key.type = .nil ∨ key.type.isScalar = true := by
  unfold expectKey at accepted
  split at accepted
  · exact .inl (by assumption)
  · exact .inr (expectCapability_ok accepted)

/-- What is searched is a map, or a list of scalars. -/
theorem expectItems_ok {operator : String} {collection : Expr} {unit : Signature} {done : Unit}
    (kinds : collection.type = .list unit ∨ collection.type = .map unit)
    (accepted : expectItems operator collection unit = .ok done) :
    collection.type = .list unit ∧ unit.isScalar = true ∨ collection.type = .map unit := by
  rcases kinds with list | map
  · refine .inl ⟨list, ?_⟩
    unfold expectItems at accepted
    split at accepted
    · cases accepted
    · rename_i admitted
      rw [list] at admitted
      simpa [Signature.base] using admitted
  · exact .inr map

/-- A search that was accepted is for a key that can be searched for, in a collection that
can be searched, and its alternative is of its own type. -/
theorem search_ok {kind : SearchKind} {key collection expr : Expr} {fallback : Option Expr}
    {position : Position} (accepted : search kind key collection fallback position = .ok expr) :
    ∃ unit, collection.type.unit? = some unit ∧
      Value.Searches key.type collection.type unit ∧
      (∀ part, fallback = some part → part.type = searchType kind unit) ∧
      expr = .search ⟨position, searchType kind unit⟩ kind key collection fallback := by
  obtain ⟨_, keyed, rest⟩ := bind_ok accepted
  obtain ⟨unit, searchable, rest⟩ := bind_ok rest
  obtain ⟨_, scalars, rest⟩ := bind_ok rest
  obtain ⟨_, missed, made⟩ := bind_ok rest
  cases made
  obtain ⟨capable, named⟩ := expectUnit_ok searchable
  refine ⟨unit, named, ⟨expectKey_ok keyed, ?_⟩, ?_, rfl⟩
  · exact expectItems_ok (collection_of_searchable capable named) scalars
  · intro part present
    exact expectType_ok (expectOptional_ok missed part present)

/-- A search is of the type that its kind makes of what it searches. -/
theorem search_wellTyped {kind : SearchKind} {key collection expr : Expr} {fallback : Option Expr}
    {position : Position} (ofKey : WellTyped key) (ofCollection : WellTyped collection)
    (ofFallback : ∀ part, fallback = some part → WellTyped part)
    (accepted : search kind key collection fallback position = .ok expr) : WellTyped expr := by
  obtain ⟨unit, _, searches, missed, rfl⟩ := search_ok accepted
  exact .search _ _ _ _ _ unit ofKey ofCollection ofFallback searches rfl missed

/-- A sequence is of the type of its last part. -/
theorem sequence_wellTyped {parts : List Expr} {expr : Expr} {position : Position}
    (ofParts : ∀ part ∈ parts, WellTyped part) (accepted : sequence parts position = .ok expr) :
    WellTyped expr := by
  unfold sequence at accepted
  split at accepted
  · rename_i last ends
    cases accepted
    exact .sequence _ _ last ofParts ends rfl
  · cases accepted

end Build

/-- Built trees are well typed.

Proof: by induction on the building. Constants are of the type that they are
given, reads of the type that they ask for, and writes of the type of what they
write; every other node has passed the checks of its building function. -/
theorem Built.wellTyped {expr : Expr} (built : Built expr) : WellTyped expr := by
  induction built with
  | constant value position formed => exact .constant _ _ ⟨formed, rfl⟩
  | slot label key type position => exact .slot _ _ _
  | entry label key source position expr ofSource accepted typedSource =>
    obtain ⟨unit, referable, made⟩ := bind_ok accepted
    cases made
    obtain ⟨capable, named⟩ := Build.expectUnit_ok referable
    exact .entry _ _ _ _ typedSource (Build.eq_map_of_referable capable named)
  | setSlot label key value position ofValue typedValue => exact .setSlot _ _ _ _ typedValue rfl
  | setEntry label key value target position ofValue ofTarget typedValue typedTarget =>
    exact .setEntry _ _ _ _ _ typedValue typedTarget rfl
  | compare comparison left right position expr ofLeft ofRight accepted typedLeft typedRight =>
    obtain ⟨operand, checked, made⟩ := bind_ok accepted
    cases made
    obtain ⟨typedOperand, accepts⟩ := Build.expectOperands_accepts typedRight checked
    exact .compare _ _ _ _ typedLeft typedOperand accepts rfl
  | both left right position expr ofLeft ofRight accepted typedLeft typedRight =>
    obtain ⟨_, booleanLeft, rest⟩ := bind_ok accepted
    obtain ⟨_, booleanRight, made⟩ := bind_ok rest
    cases made
    exact .both _ _ _ typedLeft typedRight (Build.expectType_ok booleanLeft)
      (Build.expectType_ok booleanRight) rfl
  | either left right position expr ofLeft ofRight accepted typedLeft typedRight =>
    obtain ⟨_, booleanLeft, rest⟩ := bind_ok accepted
    obtain ⟨_, booleanRight, made⟩ := bind_ok rest
    cases made
    exact .either _ _ _ typedLeft typedRight (Build.expectType_ok booleanLeft)
      (Build.expectType_ok booleanRight) rfl
  | negation operand position expr ofOperand accepted typedOperand =>
    obtain ⟨_, boolean, made⟩ := bind_ok accepted
    cases made
    exact .negation _ _ typedOperand (Build.expectType_ok boolean) rfl
  | branch check consequent alternative position expr _ _ _ accepted typedCheck typedConsequent
      typedAlternative =>
    exact Build.branch_wellTyped typedCheck typedConsequent typedAlternative accepted
  | loop list body stop key position expr _ _ _ accepted typedList typedBody typedStop =>
    exact Build.loop_wellTyped typedList typedBody typedStop accepted
  | search kind key collection fallback position expr _ _ _ accepted typedKey typedCollection
      typedFallback =>
    exact Build.search_wellTyped typedKey typedCollection typedFallback accepted
  | sequence parts position expr _ accepted typedParts =>
    exact Build.sequence_wellTyped typedParts accepted

/-! ## Trees that can be built -/

namespace Build

/-- An operand of the expected type passes. -/
theorem expectType_eq_ok {operator : String} {expected : Signature} {operand : Expr}
    (same : operand.type = expected) : expectType operator expected operand = .ok () := by
  rw [expectType, if_pos same]

/-- An operand with the expected capability passes. -/
theorem expectCapability_eq_ok {operator : String} {capability : Capability} {operand : Expr}
    (capable : operand.type.base.supports [capability] = true) :
    expectCapability operator capability operand = .ok () := by
  rw [expectCapability, if_pos capable]

/-- Two operands of one type pass. -/
theorem expectSame_eq_ok {operator : String} {left right : Expr} (same : left.type = right.type) :
    expectSame operator left right = .ok () := by
  rw [expectSame, if_pos same]

/-- An operand that has a unit type passes, and its unit type is given back. -/
theorem expectUnit_eq_ok {operator : String} {capability : Capability} {operand : Expr}
    {unit : Signature} (capable : operand.type.base.supports [capability] = true)
    (named : operand.type.unit? = some unit) :
    expectUnit operator capability operand = .ok unit := by
  rw [expectUnit, expectCapability_eq_ok capable, named]
  rfl

/-- An operand that may be missing passes if it does where it is there. -/
theorem expectOptional_eq_ok {check : Expr → Except BuildError Unit} {optional : Option Expr}
    (passes : ∀ part, optional = some part → check part = .ok ()) :
    expectOptional check optional = .ok () := by
  cases optional with
  | none => rfl
  | some part => exact passes part rfl

/-- What is matched against stays as it is if it is a regular expression already. -/
theorem pattern_eq_ok {right : Expr} (typed : WellTyped right) (regexp : right.type = .regexp) :
    pattern right = .ok right := by
  unfold pattern
  split
  · cases typed with
    | constant tag _ fits => cases fits.typed.trans regexp
  · cases typed with
    | constant tag _ fits => cases fits.typed.trans regexp
  · rfl

/-- Operands that a comparison is made for pass, and the right one stays as it is. -/
theorem expectOperands_eq_ok {comparison : Comparison} {left right : Expr}
    (typed : WellTyped right) (accepts : comparison.Accepts left.type right.type) :
    expectOperands comparison left right = .ok right := by
  have ordered (integers : left.type = .integer ∧ right.type = .integer) : (do
      expectSame comparison.name left right
      expectCapability comparison.name .comparable left
      .ok right) = Except.ok right := by
    have capable : left.type.base.supports [.comparable] = true := by
      rw [integers.1]
      rfl
    rw [expectSame_eq_ok (integers.1.trans integers.2.symm), expectCapability_eq_ok capable]
    rfl
  cases comparison with
  | equal => rfl
  | notEqual => rfl
  | less => exact ordered accepts
  | lessEqual => exact ordered accepts
  | greater => exact ordered accepts
  | greaterEqual => exact ordered accepts
  | matching =>
    obtain ⟨string, regexp⟩ := accepts
    rw [expectOperands, expectType_eq_ok string, pattern_eq_ok typed regexp]
    simp only [bind, Except.bind, expectType_eq_ok regexp]

/-- A key that is a scalar or the untyped nil passes. -/
theorem expectKey_eq_ok {operator : String} {key : Expr}
    (keyed : key.type = .nil ∨ key.type.isScalar = true) : expectKey operator key = .ok () := by
  unfold expectKey
  split
  · rfl
  · rename_i present
    exact expectCapability_eq_ok (keyed.resolve_left present)

/-- A collection that is a list of scalars or a map passes. -/
theorem expectItems_eq_ok {operator : String} {collection : Expr} {unit : Signature}
    (searched : collection.type = .list unit ∧ unit.isScalar = true ∨
      collection.type = .map unit) : expectItems operator collection unit = .ok () := by
  unfold expectItems
  apply if_neg
  rintro ⟨isList, unfit⟩
  rcases searched with ⟨_, scalars⟩ | map
  · exact unfit scalars
  · rw [map] at isList
    cases isList

/-- A collection that can be searched passes, and its unit type is given back. -/
theorem expectUnit_searchable {operator : String} {key : Signature} {collection : Expr}
    {unit : Signature} (searches : Value.Searches key collection.type unit) :
    expectUnit operator .searchable collection = .ok unit := by
  rcases searches.collection with ⟨list, _⟩ | map
  · exact expectUnit_eq_ok (by rw [list]; rfl) (by rw [list]; rfl)
  · exact expectUnit_eq_ok (by rw [map]; rfl) (by rw [map]; rfl)

end Build

/-- A well-typed tree can be built: every node is what its building function makes of
its children at its position.

Proof: by induction on the tree. The checks of each building function pass for operands
of the types that the node asks for, and the type it computes is that of the node. -/
theorem WellTyped.built {expr : Expr} (typed : WellTyped expr) : Built expr := by
  induction typed with
  | constant tag value fits =>
    have made := Built.constant value tag.position fits.formed
    rwa [Build.constant, fits.typed] at made
  | slot tag label key => exact .slot label key tag.type tag.position
  | entry tag label key source _ map built =>
    refine .entry label key source tag.position _ built ?_
    have unit : Build.expectUnit "reference" .referable source = .ok tag.type :=
      Build.expectUnit_eq_ok (by rw [map]; rfl) (by rw [map]; rfl)
    rw [Build.entry, unit]
    rfl
  | setSlot tag label key value _ same built =>
    have made := Built.setSlot label key value tag.position built
    rwa [Build.setSlot, same] at made
  | setEntry tag label key value target _ _ same builtValue builtTarget =>
    have made := Built.setEntry label key value target tag.position builtValue builtTarget
    rwa [Build.setEntry, same] at made
  | compare tag comparison left right _ typedRight accepts boolean builtLeft builtRight =>
    refine .compare comparison left right tag.position _ builtLeft builtRight ?_
    rw [Build.compare, Build.expectOperands_eq_ok typedRight accepts, ← boolean]
    rfl
  | both tag left right _ _ leftBoolean rightBoolean boolean builtLeft builtRight =>
    refine .both left right tag.position _ builtLeft builtRight ?_
    rw [Build.both, Build.expectType_eq_ok leftBoolean, Build.expectType_eq_ok rightBoolean,
      ← boolean]
    rfl
  | either tag left right _ _ leftBoolean rightBoolean boolean builtLeft builtRight =>
    refine .either left right tag.position _ builtLeft builtRight ?_
    rw [Build.either, Build.expectType_eq_ok leftBoolean, Build.expectType_eq_ok rightBoolean,
      ← boolean]
    rfl
  | negation tag operand _ operandBoolean boolean builtOperand =>
    refine .negation operand tag.position _ builtOperand ?_
    rw [Build.negation, Build.expectType_eq_ok operandBoolean, ← boolean]
    rfl
  | branch tag check consequent alternative _ _ _ checkBoolean same sameToo builtCheck
      builtConsequent builtAlternative =>
    refine .branch check consequent alternative tag.position _ builtCheck builtConsequent
      builtAlternative ?_
    have alternatives :
        Build.expectOptional (Build.expectSame "if" consequent) alternative = .ok () :=
      Build.expectOptional_eq_ok fun part present =>
        Build.expectSame_eq_ok (same.trans (sameToo part present).symm)
    rw [Build.branch, Build.expectType_eq_ok checkBoolean, alternatives, same]
    rfl
  | loop tag list body stop key _ _ _ items same sameToo builtList builtBody builtStop =>
    refine .loop list body stop key tag.position _ builtList builtBody builtStop ?_
    have unit : Build.expectUnit "for" .iterable list = .ok tag.type :=
      Build.expectUnit_eq_ok (by rw [items]; rfl) (by rw [items]; rfl)
    have stops : Build.expectOptional (Build.expectType "for" tag.type) stop = .ok () :=
      Build.expectOptional_eq_ok fun part present => Build.expectType_eq_ok (sameToo part present)
    rw [Build.loop, unit]
    simp only [bind, Except.bind, Build.expectType_eq_ok same, stops]
  | search tag kind key collection fallback unit _ _ _ searches promised sameToo builtKey
      builtCollection builtFallback =>
    refine .search kind key collection fallback tag.position _ builtKey builtCollection
      builtFallback ?_
    have misses : Build.expectOptional
        (Build.expectType kind.name tag.type) fallback = .ok () :=
      Build.expectOptional_eq_ok fun part present => Build.expectType_eq_ok (sameToo part present)
    rw [Build.search, Build.expectKey_eq_ok searches.key, Build.expectUnit_searchable searches]
    simp only [bind, Except.bind, Build.expectItems_eq_ok searches.collection, ← promised, misses]
  | sequence tag parts last _ ends same builtParts =>
    refine .sequence parts tag.position _ builtParts ?_
    simp only [Build.sequence, ends, same]

/-- The trees that can be built are the well-typed ones. -/
theorem built_iff_wellTyped {expr : Expr} : Built expr ↔ WellTyped expr :=
  ⟨Built.wellTyped, WellTyped.built⟩

end RuleTree
