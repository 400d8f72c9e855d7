import RuleTree.Proofs.TypeGrammar

/-!
# Chains of levels and the types they make

A chain of levels makes a type if each of its levels is as its base type asks: lists and maps
have a further level for their unit type, and nothing else has one. Whether a level is so
does not depend on the others; a rung is a level by itself. The chain of a type makes the
type, and a chain that makes a type is the chain of it, so the two directions are inverse.

Several levels may be at fault at once. A chain is turned into a type from the inside: a
level is looked at once all below it have made a type, and the first fault ends the work.
The fault that is reported is therefore that of the innermost rung at fault, and says
nothing of those further out.
-/

namespace RuleTree.Wire

/-- A level by itself: its base type, and whether a level for a unit type is below it. -/
structure Rung where
  base : BaseType
  hasUnit : Bool

namespace Rung

/-- Lists and maps have a unit type, and nothing else has one. -/
def Sound (rung : Rung) : Prop := rung.hasUnit = true ↔ rung.base = .list ∨ rung.base = .map

/-- What is wrong with a rung that is not sound: its unit type is unexpected where it has one,
and missing where it has none. -/
def fault (rung : Rung) : UnitFault :=
  if rung.hasUnit then .unexpected rung.base else .missing rung.base

end Rung

/-- The levels of a chain one by one, from the outermost inwards. -/
def Level.rungs : Level → List Rung
  | .last base => [⟨base, false⟩]
  | .over base unit => ⟨base, true⟩ :: unit.rungs

/-- A rung is the innermost at fault: it is not sound, and all further inwards are. -/
def InnermostFaulty (rungs : List Rung) (rung : Rung) : Prop :=
  ∃ outer inner, rungs = outer ++ rung :: inner ∧ ¬rung.Sound ∧ ∀ deeper ∈ inner, deeper.Sound

/-! ## One level -/

section OneLevel

variable {base : BaseType} {unit : Option Signature}

/-- A base type and a unit type make a type if their rung is sound. -/
theorem exists_ofParts_iff :
    (∃ type, Signature.ofParts base unit = .ok type) ↔ (Rung.mk base unit.isSome).Sound := by
  cases base <;> cases unit <;> simp [Signature.ofParts, Rung.Sound]

/-- A base type and a unit type whose rung is not sound are refused for its fault. -/
theorem ofParts_error_iff {fault : UnitFault} :
    Signature.ofParts base unit = .error fault ↔
      ¬(Rung.mk base unit.isSome).Sound ∧ fault = (Rung.mk base unit.isSome).fault := by
  cases base <;> cases unit <;> simp [Signature.ofParts, Rung.Sound, Rung.fault, eq_comm]

end OneLevel

/-- The innermost rung at fault is the first, if all others are sound, or lies further in. -/
theorem innermostFaulty_cons {first rung : Rung} {rest : List Rung} :
    InnermostFaulty (first :: rest) rung ↔
      (¬first.Sound ∧ (∀ deeper ∈ rest, deeper.Sound) ∧ rung = first) ∨
        InnermostFaulty rest rung := by
  constructor
  · rintro ⟨outer, inner, order, unsound, deeper⟩
    cases outer with
    | nil =>
      cases order
      exact .inl ⟨unsound, deeper, rfl⟩
    | cons _ outer =>
      cases order
      exact .inr ⟨outer, inner, rfl, unsound, deeper⟩
  · rintro (⟨unsound, deeper, rfl⟩ | ⟨outer, inner, rfl, unsound, deeper⟩)
    · exact ⟨[], rest, rfl, unsound, deeper⟩
    · exact ⟨first :: outer, inner, rfl, unsound, deeper⟩

/-! ## Whole chains -/

section WholeChain

variable {level : Level}

/-- A chain makes a type if all its rungs are sound. -/
theorem exists_signature_iff :
    (∃ type, level.signature = .ok type) ↔ ∀ rung ∈ level.rungs, rung.Sound := by
  induction level with
  | last base =>
    rw [Level.rungs, List.forall_mem_singleton]
    exact exists_ofParts_iff
  | «over» base unit inductionHypothesis =>
    rw [Level.rungs, List.forall_mem_cons, ← inductionHypothesis]
    constructor
    · rintro ⟨type, made⟩
      obtain ⟨inner, ofUnit, made⟩ := bind_ok made
      exact ⟨exists_ofParts_iff.mp ⟨type, made⟩, inner, ofUnit⟩
    · rintro ⟨sound, inner, ofUnit⟩
      have made : ∃ type, Signature.ofParts base (some inner) = .ok type :=
        exists_ofParts_iff.mpr sound
      simpa only [Level.signature, ofUnit, bind, Except.bind] using made

/-- A chain that makes no type is refused for the fault of its innermost rung at fault.

Proof: by induction on the chain. The level below is turned into a type first. If that is
refused the fault lies further in, and otherwise everything below is sound and it is the
level itself that may be refused. -/
theorem signature_error_iff {fault : UnitFault} :
    level.signature = .error fault ↔
      ∃ rung, InnermostFaulty level.rungs rung ∧ fault = rung.fault := by
  induction level generalizing fault with
  | last base =>
    rw [Level.rungs, Level.signature, ofParts_error_iff]
    constructor
    · rintro ⟨unsound, rfl⟩
      exact ⟨_, innermostFaulty_cons.mpr (.inl ⟨unsound, List.forall_mem_nil _, rfl⟩), rfl⟩
    · rintro ⟨rung, innermost, rfl⟩
      rcases innermostFaulty_cons.mp innermost with ⟨unsound, _, rfl⟩ | ⟨outer, inner, order, _⟩
      · exact ⟨unsound, rfl⟩
      · exact absurd order.symm (by simp)
  | «over» base unit inductionHypothesis =>
    rw [Level.rungs, Level.signature]
    rcases below : unit.signature with refused | inner
    · have unsound : ¬∀ rung ∈ unit.rungs, rung.Sound := by
        intro sound
        obtain ⟨inner, made⟩ := exists_signature_iff.mpr sound
        cases below.symm.trans made
      simp only [innermostFaulty_cons, unsound, false_and, and_false, false_or]
      rw [← inductionHypothesis, below]
      rfl
    · have sound : ∀ rung ∈ unit.rungs, rung.Sound := exists_signature_iff.mp ⟨inner, below⟩
      simp only [bind, Except.bind, ofParts_error_iff]
      constructor
      · rintro ⟨unsound, rfl⟩
        exact ⟨_, innermostFaulty_cons.mpr (.inl ⟨unsound, sound, rfl⟩), rfl⟩
      · rintro ⟨rung, innermost, rfl⟩
        rcases innermostFaulty_cons.mp innermost with ⟨unsound, _, rfl⟩ | further
        · exact ⟨unsound, rfl⟩
        · cases below.symm.trans (inductionHypothesis.mpr ⟨rung, further, rfl⟩)

end WholeChain

/-- Types and chains of levels are inverse, and a chain that makes no type is blamed from the
inside. The chain of a type makes the type. A chain makes a type if every list and map in it
has a unit type and nothing else has one, and it is then the chain of what it makes. If it
makes none, the fault is that of its innermost rung at fault: the unit type of its base type
is missing or unexpected. -/
theorem conversion_exact :
    (∀ type, (Level.ofSignature type).signature = .ok type) ∧
    ∀ level : Level,
      ((∃ type, level.signature = .ok type) ↔ ∀ rung ∈ level.rungs, rung.Sound) ∧
      (∀ type, level.signature = .ok type → Level.ofSignature type = level) ∧
      ∀ fault, level.signature = .error fault ↔
        ∃ rung, InnermostFaulty level.rungs rung ∧ fault = rung.fault := by
  refine ⟨signature_ofSignature, fun level => ⟨exists_signature_iff, ?_, ?_⟩⟩
  · intro type made
    exact (signature_ok_iff.mp made).symm
  · intro fault
    exact signature_error_iff

/-- An integer over a boolean over a list of maps, all with a unit type, and the maps of
integers. -/
def twoFaults : Level := .over .integer (.over .boolean (.over .list (.over .map (.last .integer))))

/-- Of two scalars with a unit type the inner one is blamed, although two sound levels and
another scalar are further in. The part that is sound makes its type, and is its chain. -/
theorem conversion_exact_twoFaults :
    twoFaults.signature = .error (.unexpected .boolean) ∧
      InnermostFaulty twoFaults.rungs ⟨.boolean, true⟩ ∧
      (¬∀ rung ∈ twoFaults.rungs, rung.Sound) ∧
      Level.ofSignature (.list (.map .integer)) =
        .over .list (.over .map (.last .integer)) := by
  have innermost : InnermostFaulty twoFaults.rungs ⟨.boolean, true⟩ :=
    ⟨[⟨.integer, true⟩], [⟨.list, true⟩, ⟨.map, true⟩, ⟨.integer, false⟩], rfl,
      by simp [Rung.Sound], by simp [Rung.Sound]⟩
  obtain ⟨sound, _, blamed⟩ := conversion_exact.2 twoFaults
  have refused := (blamed (.unexpected .boolean)).mpr ⟨_, innermost, rfl⟩
  refine ⟨refused, innermost, ?_, ?_⟩
  · intro each
    obtain ⟨type, made⟩ := sound.mpr each
    cases refused.symm.trans made
  · exact (conversion_exact.2 (.over .list (.over .map (.last .integer)))).2.1 _ rfl

end RuleTree.Wire
