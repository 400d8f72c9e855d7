import RuleTree.Proofs.Place
import RuleTree.Proofs.Recording

/-!
# Arrivals at a place

An evaluation arrives at a place of its tree whenever it is about to evaluate the subtree
that stands there, be it let into the subtree or refused. A place may be arrived at many
times, as the body of a loop is, or never. The evaluation is watched: whenever it arrives,
the state of the machine is noted.

To watch an evaluation does not change it. What is noted below a place is what would be
noted by evaluations of the subtree at the place, each from the state in which it was
arrived at. And every arrival is an attempt to enter the subtree, as a record of the
evaluation has it.
-/

namespace RuleTree

variable {ρ ρ' : Type}

/-- The state of a machine, and the states in which its evaluation has arrived at a
place. -/
structure Watched (ρ : Type) where
  state : ρ
  arrivals : List ρ

namespace Machine

/-- The machine that does what a machine does and keeps what has been noted. -/
def watching (machine : Machine ρ) : Machine (Watched ρ) where
  enter node watched :=
    match machine.enter node watched.state with
    | (result, state) => (result, { watched with state })
  leave watched := { watched with state := machine.leave watched.state }
  read key type watched :=
    match machine.read key type watched.state with
    | (result, state) => (result, { watched with state })
  write key value watched :=
    match machine.write key value watched.state with
    | (result, state) => (result, { watched with state })

/-- Note the state, and evaluate. -/
def noting (machine : Machine ρ) (expr : Expr) : Action (Watched ρ) Value :=
  fun watched =>
    machine.watching.eval expr { watched with arrivals := watched.arrivals ++ [watched.state] }

/-- Evaluate a tree and note whenever the evaluation arrives at a place. -/
def evalNoting (machine : Machine ρ) (place : List Nat) (expr : Expr) :
    Action (Watched ρ) Value :=
  machine.watching.evalWith machine.noting place expr

/-- The states in which the evaluation of a tree from a state arrives at a place. -/
def arrivals (machine : Machine ρ) (place : List Nat) (expr : Expr) (state : ρ) : List ρ :=
  (machine.evalNoting place expr ⟨state, []⟩).2.arrivals

end Machine

/-! ## Watching changes nothing -/

namespace Lockstep

variable {machine : Machine ρ} {other : Machine ρ'} {Inside : Expr → Prop}
  {Match : ρ → ρ' → Prop}

/-- A machine is in lockstep with itself. -/
theorem refl (machine : Machine ρ) : Lockstep machine machine (fun _ => True) (· = ·) where
  enters := by
    rintro node _ state _ rfl
    exact ⟨rfl, rfl⟩
  leaves := by
    rintro state _ rfl
    rfl
  reads := by
    rintro node key _ _ state _ rfl
    exact ⟨rfl, rfl⟩
  writes := by
    rintro node key _ _ value state _ rfl
    exact ⟨rfl, rfl⟩

/-- Machines in lockstep stay so if both are watched, whatever has been noted of each. -/
theorem watching (lockstep : Lockstep machine other Inside Match)
    (Noted : List ρ → List ρ' → Prop) :
    Lockstep machine.watching other.watching Inside fun watched watched' =>
      Match watched.state watched'.state ∧ Noted watched.arrivals watched'.arrivals where
  enters node inside watched watched' := by
    rintro ⟨matched, noted⟩
    obtain ⟨same, reached⟩ := lockstep.enters node inside _ _ matched
    exact ⟨same, reached, noted⟩
  leaves watched watched' := by
    rintro ⟨matched, noted⟩
    exact ⟨lockstep.leaves _ _ matched, noted⟩
  reads node key inside reads watched watched' := by
    rintro ⟨matched, noted⟩
    obtain ⟨same, reached⟩ := lockstep.reads node key inside reads _ _ matched
    exact ⟨same, reached, noted⟩
  writes node key inside writes value watched watched' := by
    rintro ⟨matched, noted⟩
    obtain ⟨same, reached⟩ := lockstep.writes node key inside writes value _ _ matched
    exact ⟨same, reached, noted⟩

/-- Machines in lockstep stay so if the first is watched. -/
theorem watchingFirst (lockstep : Lockstep machine other Inside Match) :
    Lockstep machine.watching other Inside fun watched state => Match watched.state state where
  enters node inside _ _ matched := lockstep.enters node inside _ _ matched
  leaves _ _ matched := lockstep.leaves _ _ matched
  reads node key inside reads _ _ matched := lockstep.reads node key inside reads _ _ matched
  writes node key inside writes value _ _ matched :=
    lockstep.writes node key inside writes value _ _ matched

end Lockstep

namespace Machine

/-- An evaluation that is watched is the evaluation itself, and nothing is noted. -/
theorem watching_eval (machine : Machine ρ) (expr : Expr) (watched : Watched ρ) :
    machine.watching.eval expr watched =
      ((machine.eval expr watched.state).1,
        ⟨(machine.eval expr watched.state).2, watched.arrivals⟩) := by
  have alike : Alike (fun after after' => after.state = after')
      (machine.watching.eval expr watched) (machine.eval expr watched.state) :=
    (Lockstep.refl machine).watchingFirst.congruence.eval expr _ _ rfl
  have kept : (machine.watching.eval expr watched).2.arrivals = watched.arrivals :=
    (((Lockstep.refl machine).watching fun noted _ => noted = watched.arrivals).congruence.eval
      expr watched watched ⟨rfl, rfl⟩).2.2
  exact Prod.ext alike.1 (congrArg₂ Watched.mk alike.2 kept)

/-- A loop whose body is only watched arrives nowhere. -/
theorem watching_repeatBody (machine : Machine ρ) (tag : Tag) (body : Expr) (key : Key)
    (stop result : Value) (items : List Value) (watched : Watched ρ) :
    (repeatBody (machine.watching.writeAt tag key) (machine.watching.eval body) stop result items
      watched).2.arrivals = watched.arrivals := by
  let congruence := ((Lockstep.refl machine).watching
    fun noted _ => noted = watched.arrivals).congruence
  have kept := (congruence.steps tag (.loop key)).paired.repeatBody rfl (congruence.eval body)
    stop result items watched watched ⟨rfl, rfl⟩
  exact kept.2.2

/-- Where an evaluation is noted to arrive, it goes on as it would. -/
theorem noting_eq (machine : Machine ρ) (expr : Expr) (watched : Watched ρ) :
    machine.noting expr watched =
      ((machine.eval expr watched.state).1,
        ⟨(machine.eval expr watched.state).2, watched.arrivals ++ [watched.state]⟩) :=
  machine.watching_eval expr _

end Machine

/-- Evaluations of one tree on machines in lockstep arrive at a place alike. -/
theorem Lockstep.evalNoting {machine : Machine ρ} {other : Machine ρ'} {Match : ρ → ρ' → Prop}
    (lockstep : Lockstep machine other (fun _ => True) Match) (Noted : List ρ → List ρ' → Prop)
    (notes : ∀ noted noted' state state', Noted noted noted' → Match state state' →
      Noted (noted ++ [state]) (noted' ++ [state']))
    (place : List Nat) (expr : Expr) (watched : Watched ρ) (watched' : Watched ρ')
    (matched : Match watched.state watched'.state)
    (noted : Noted watched.arrivals watched'.arrivals) :
    Noted (machine.evalNoting place expr watched).2.arrivals
      (other.evalNoting place expr watched').2.arrivals := by
  have congruence := (lockstep.watching Noted).congruence
  refine (congruence.evalWith (fun part _ => ?_) watched watched' ⟨matched, noted⟩).2.2
  rintro before before' ⟨matchedThere, notedThere⟩
  exact congruence.eval part _ _ ⟨matchedThere, notes _ _ _ _ notedThere matchedThere⟩

namespace Machine

/-- An evaluation that is watched for arriving at a place is the evaluation itself, and
adds to what has been noted before what is noted from its state. -/
theorem evalNoting_eq (machine : Machine ρ) (place : List Nat) (expr : Expr)
    (watched : Watched ρ) :
    machine.evalNoting place expr watched =
      ((machine.eval expr watched.state).1,
        ⟨(machine.eval expr watched.state).2,
          watched.arrivals ++ machine.arrivals place expr watched.state⟩) := by
  have congruence := (Lockstep.refl machine).watchingFirst.congruence
  have alike : Alike (fun after after' => after.state = after')
      (machine.evalNoting place expr watched)
      (machine.evalWith machine.eval place expr watched.state) := by
    refine congruence.evalWith (fun part _ before before' same => ?_) _ _ rfl
    exact congruence.eval part _ before' same
  rw [machine.evalWith_eval] at alike
  have added : (machine.evalNoting place expr watched).2.arrivals =
      watched.arrivals ++ machine.arrivals place expr watched.state := by
    refine (Lockstep.refl machine).evalNoting
      (fun noted noted' => noted = watched.arrivals ++ noted') ?_ place expr watched
      ⟨watched.state, []⟩ rfl (List.append_nil _).symm
    rintro _ noted' here _ rfl rfl
    exact List.append_assoc _ _ _
  exact Prod.ext alike.1 (congrArg₂ Watched.mk alike.2 added)

/-- The evaluation of a tree arrives below a place when the evaluations of the subtree at
the place do, each from a state in which the place was arrived at.

Proof: both watch the same evaluation. At the place one notes the state, and the other
what is noted below from that state. -/
theorem arrivals_append (machine : Machine ρ) {place : List Nat} {expr part : Expr}
    (found : expr.subtree? place = some part) (below : List Nat) (state : ρ) :
    machine.arrivals (place ++ below) expr state =
      (machine.arrivals place expr state).flatMap (machine.arrivals below part) := by
  have congruence := ((Lockstep.refl machine).watching fun noted noted' =>
    noted' = noted.flatMap (machine.arrivals below part)).congruence
  have there : ∀ reached, expr.subtree? place = some reached →
      ∀ watched watched' : Watched ρ, watched.state = watched'.state ∧
        watched'.arrivals = watched.arrivals.flatMap (machine.arrivals below part) →
      Alike (fun after after' => after.state = after'.state ∧
          after'.arrivals = after.arrivals.flatMap (machine.arrivals below part))
        (machine.noting reached watched) (machine.evalNoting below reached watched') := by
    rintro reached same watched watched' ⟨states, noted⟩
    obtain rfl : part = reached := Option.some.inj (found.symm.trans same)
    rw [machine.noting_eq, machine.evalNoting_eq, states, noted]
    refine ⟨rfl, rfl, ?_⟩
    simp only [List.flatMap_append, List.flatMap_cons, List.flatMap_nil, List.append_nil]
  rw [arrivals, evalNoting, machine.watching.evalWith_append]
  exact (congruence.evalWith there ⟨state, []⟩ ⟨state, []⟩ ⟨rfl, rfl⟩).2.2

/-! ## Arrivals and attempts -/

/-- An evaluation that is recorded arrives where the evaluation itself does. -/
theorem recording_arrivals (machine : Machine ρ) (place : List Nat) (expr : Expr)
    (recorded : Recorded ρ) :
    (machine.recording.arrivals place expr recorded).map (·.state) =
      machine.arrivals place expr recorded.state := by
  refine machine.recording_lockstep.evalNoting
    (fun noted noted' => noted.map (·.state) = noted') ?_ place expr ⟨recorded, []⟩
    ⟨recorded.state, []⟩ rfl rfl
  rintro noted _ here _ rfl rfl
  exact List.map_append

/-- Every arrival has been recorded as an attempt to enter a tree. -/
def Accounted (part : Expr) (watched : Watched (Recorded ρ)) : Prop :=
  ∀ arrival ∈ watched.arrivals, arrival.visit part ∈ watched.state.visits

/-- What has been accounted for stays so, since a record is only added to. -/
theorem accounted_preserves (machine : Machine ρ) (part : Expr) :
    machine.recording.watching.Preserves (fun _ => True) (Accounted part) where
  enters node _ watched accounted arrival arrived := by
    have recorded : (machine.recording.watching.enter node watched).2.state.visits =
        watched.state.visits ++ [watched.state.visit node] :=
      machine.recording_enter_visits node watched.state
    rw [recorded]
    exact List.mem_append_left _ (accounted arrival arrived)
  leaves _ accounted := accounted
  reads _ _ _ _ _ accounted := accounted
  writes _ _ _ _ _ _ accounted := accounted

/-- Where an evaluation arrives at a tree, the attempt to enter it is recorded. -/
theorem noting_accounted (machine : Machine ρ) (part : Expr) {watched : Watched (Recorded ρ)}
    (accounted : Accounted part watched) :
    Accounted part (machine.recording.noting part watched).2 := by
  have added := machine.recording_root part watched.state
  intro arrival noted
  rw [noting_eq] at noted ⊢
  rcases List.mem_append.mp noted with earlier | here
  · exact added.subset (List.mem_append_left _ (accounted arrival earlier))
  · obtain rfl := List.mem_singleton.mp here
    exact added.subset (List.mem_append_right _ List.mem_cons_self)

/-- An evaluation arrives at a place only to attempt to enter what stands there: every
arrival is an attempt to enter the subtree, from the same state.

Proof: recorded and watched at once, an evaluation has no arrival noted whose attempt is
not recorded, but for the moment between the two. -/
theorem visit_of_arrival (machine : Machine ρ) {place : List Nat} {expr part : Expr}
    (found : expr.subtree? place = some part) {state arrival : ρ}
    (arrived : arrival ∈ machine.arrivals place expr state) :
    ∃ visit ∈ machine.visits expr state, visit.node = part ∧ visit.state = arrival := by
  have accounted : Accounted part
      (machine.recording.evalNoting place expr ⟨.start state, []⟩).2 := by
    have there : ∀ reached, expr.subtree? place = some reached → ∀ watched watched',
        watched = watched' ∧ Accounted part watched →
        Alike (fun after after' => after = after' ∧ Accounted part after)
          (machine.recording.noting reached watched)
          (machine.recording.noting reached watched') := by
      rintro reached same watched _ ⟨rfl, accounted⟩
      obtain rfl : part = reached := Option.some.inj (found.symm.trans same)
      exact ⟨rfl, rfl, machine.noting_accounted part accounted⟩
    have congruence := (machine.accounted_preserves part).lockstep.congruence
    exact (congruence.evalWith there ⟨.start state, []⟩ _
      ⟨rfl, fun _ impossible => absurd impossible List.not_mem_nil⟩).2.2
  rw [evalNoting_eq] at accounted
  have start : (Recorded.start state).state = state := rfl
  rw [← start, ← machine.recording_arrivals] at arrived
  obtain ⟨recorded, noted, same⟩ := List.mem_map.mp arrived
  exact ⟨recorded.visit part, accounted recorded (List.mem_append_right _ noted), rfl, same⟩

end Machine

end RuleTree
