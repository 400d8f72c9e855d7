import RuleTree.Proofs.TypeSafety
import RuleTree.Proofs.UnlimitedEvaluation

/-!
# Evaluation against faithful contexts

Most laws of operators hold of operands that yield values of their types, and no others.
Against a faithful context a built tree does so from every state that holds, and it leaves
a state that holds, so that what is evaluated next may rely on it as well. Without limits
this is all there is to say of a tree whose inside is not known.

Two built trees are interchangeable if no faithful context can tell them apart. The context
that logs is as faithful as the one whose requests it logs. Trees that come out alike
against every faithful context therefore make the same requests too, and this need not be
shown for each law.
-/

namespace RuleTree

variable {σ : Type} {context : Context σ} {Holds : σ → Prop} {expr first second : Expr}
  {state : σ}

/-- The machine that counts nothing serves every node of a tree if its context is
faithful. Whatever fails is admitted. -/
theorem Context.Faithful.serves_free (faithful : context.Faithful Holds) (node : Expr) :
    context.free.Serves Holds (fun _ _ => True) node := by
  have answers : context.Answers context.free id := ⟨fun _ _ _ => ⟨rfl, rfl⟩, fun _ _ _ => rfl⟩
  refine ⟨?enters, fun _ _ _ _ _ => trivial,
    fun tag _ key _ => faithful.readAt_keeps answers (fun _ _ _ => trivial) tag key,
    fun tag _ key _ _ _ fits =>
      faithful.writeAt_keeps answers (fun _ _ _ => trivial) tag key fits.formed,
    fun tag _ _ _ key _ _ fits =>
      faithful.writeAt_keeps answers (fun _ _ _ => trivial) tag key fits.formed,
    fun _ _ _ _ _ _ => trivial⟩
  case enters =>
    intro state entered held entering
    obtain rfl := congrArg Prod.snd entering
    exact held

/-- A built tree yields values that fit its type, and leaves states that hold. -/
theorem Built.free_keeps (built : Built expr) (faithful : context.Faithful Holds) :
    (context.free.eval expr).Keeps Holds (fun _ _ => True) (·.Fits expr.type) :=
  built.wellTyped.keeps (fun node _ => faithful.serves_free node)
    ⟨fun _ held => held, fun _ _ _ => trivial⟩

/-- From a state that holds, a built tree fails or yields a value that fits its type in a
state that holds. -/
theorem Built.free_cases (built : Built expr) (faithful : context.Faithful Holds)
    (held : Holds state) :
    (∃ error after, context.free.eval expr state = (.error error, after)) ∨
    ∃ value after, context.free.eval expr state = (.ok value, after) ∧
      value.Fits expr.type ∧ Holds after := by
  have kept := built.free_keeps faithful state held
  rcases ran : context.free.eval expr state with ⟨error | value, after⟩
  · exact .inl ⟨error, after, rfl⟩
  · rw [ran] at kept
    exact .inr ⟨value, after, rfl, kept.1, kept.2⟩

/-- The context that logs is as faithful as the context whose requests it logs. -/
theorem Context.Faithful.logging (faithful : context.Faithful Holds) :
    context.logging.Faithful fun logged => Holds logged.state where
  reads key type logged value after held answer := by
    have given : (context.read key type logged.state).1 = .ok value := congrArg Prod.fst answer
    exact faithful.reads key type logged.state value _ held (Prod.ext given rfl)
  readsHold key type logged held := faithful.readsHold key type logged.state held
  writesHold key value logged held formed :=
    faithful.writesHold key value logged.state held formed

/-- A built tree of a type. -/
structure Expr.BuiltAs (expr : Expr) (type : Signature) : Prop where
  built : Built expr
  typed : expr.type = type

namespace Expr

/-- Trees that leave one log have made the same requests. -/
theorem calls_congr (context : Context σ) (state : σ)
    (logs : (context.logging.free.eval first ⟨state, []⟩).2 =
      (context.logging.free.eval second ⟨state, []⟩).2) :
    first.calls context .none state = second.calls context .none state := by
  rw [calls_eq_log, calls_eq_log, evaluate_eq_free, evaluate_eq_free, logs]

/-- Two built trees of one type that no faithful context can tell apart without limits:
from every state that holds they have one result, be it a value or an error with its
position, leave one state and make the same requests in the same order. -/
structure Interchangeable (first second : Expr) : Prop where
  builtFirst : Built first
  builtSecond : Built second
  sameType : first.type = second.type
  sameOutcome : ∀ {σ : Type} (context : Context σ) (Holds : σ → Prop), context.Faithful Holds →
    ∀ state, Holds state →
      first.evaluate context .none state = second.evaluate context .none state
  sameCalls : ∀ {σ : Type} (context : Context σ) (Holds : σ → Prop), context.Faithful Holds →
    ∀ state, Holds state →
      first.calls context .none state = second.calls context .none state

/-- Built trees of one type are interchangeable if they come out alike on the machines that
count nothing. -/
theorem Interchangeable.of_free (builtFirst : Built first) (builtSecond : Built second)
    (sameType : first.type = second.type)
    (alike : ∀ {σ : Type} (context : Context σ) (Holds : σ → Prop), context.Faithful Holds →
      ∀ state, Holds state →
        context.free.eval first state = context.free.eval second state) :
    first.Interchangeable second where
  builtFirst := builtFirst
  builtSecond := builtSecond
  sameType := sameType
  sameOutcome context Holds faithful state held := by
    rw [evaluate_eq_free, evaluate_eq_free]
    exact alike context Holds faithful state held
  sameCalls context Holds faithful state held := by
    apply calls_congr
    rw [alike context.logging _ faithful.logging ⟨state, []⟩ held]

end Expr

end RuleTree
