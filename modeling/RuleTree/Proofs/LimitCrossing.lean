import RuleTree.Eval.Limits
import RuleTree.Proofs.Recording

/-!
# Where limits are crossed

The attempts to enter a node, numbered from one and each with its nesting, say
whether limits suffice and, if they do not, which attempt is the first that
crosses one of them. Nothing else about an evaluation matters for this. The
counters of a run arrive at the same answer one attempt at a time, as long as
they have not come to their greatest value.
-/

namespace RuleTree

variable {ρ : Type}

/-- How deep the attempts are nested at most; zero if there are none. -/
def Visit.deepest (visits : List (Visit ρ)) : Nat :=
  (visits.map fun visit => visit.nesting).foldr max 0

/-- A bound of the deepest nesting is a bound of each nesting. -/
theorem Visit.deepest_le_iff {visits : List (Visit ρ)} {bound : Nat} :
    deepest visits ≤ bound ↔ ∀ visit ∈ visits, visit.nesting ≤ bound := by
  induction visits with
  | nil => simp [deepest]
  | cons first rest inductionHypothesis =>
    have unfolded : deepest (first :: rest) = max first.nesting (deepest rest) := rfl
    rw [unfolded, Nat.max_le, List.forall_mem_cons, inductionHypothesis]

namespace Limits

/-- Each limit that is set allows for the number of nodes and for their depth. -/
structure Suffice (limits : Limits) (nodes depth : Nat) : Prop where
  budget : ∀ budget, limits.nodeBudget = some budget → nodes ≤ budget
  depth : ∀ limit, limits.maxDepth = some limit → depth ≤ limit

/-- Which limit is crossed by a node, given its number and its nesting. Where both
are, it is the budget. -/
inductive Crossed (limits : Limits) (number nesting : Nat) : Failure → Prop
  | budget (budget : Nat) (set : limits.nodeBudget = some budget) (exceeded : budget < number) :
      Crossed limits number nesting (.budgetExceeded budget)
  | depth (limit : Nat) (set : limits.maxDepth = some limit)
      (afforded : ∀ budget, limits.nodeBudget = some budget → number ≤ budget)
      (exceeded : limit < nesting) : Crossed limits number nesting (.depthExceeded limit)

/-- Where there are no limits none is crossed. -/
theorem not_crossed_none {number nesting : Nat} {failure : Failure} :
    ¬ Limits.none.Crossed number nesting failure := by
  intro crossed
  cases crossed with
  | budget budget set => cases set
  | depth limit set => cases set

/-- Where no limit is crossed, the budget allows for the number. -/
theorem afforded {limits : Limits} {number nesting : Nat}
    (within : ∀ failure, ¬ limits.Crossed number nesting failure) :
    ∀ budget, limits.nodeBudget = some budget → number ≤ budget := by
  intro budget set
  exact Nat.le_of_not_lt fun exceeded => within _ (.budget budget set exceeded)

/-- Where no limit is crossed, none is crossed by lower numbers. -/
theorem not_crossed_of_le {limits : Limits} {number number' nesting nesting' : Nat}
    (within : ∀ failure, ¬ limits.Crossed number nesting failure) (numbers : number' ≤ number)
    (nestings : nesting' ≤ nesting) {failure : Failure} :
    ¬ limits.Crossed number' nesting' failure := by
  intro crossed
  cases crossed with
  | budget budget set exceeded =>
    exact within _ (.budget budget set (Nat.lt_of_lt_of_le exceeded numbers))
  | depth limit set _ exceeded =>
    exact within _ (.depth limit set (afforded within) (Nat.lt_of_lt_of_le exceeded nestings))

/-- No attempt crosses a limit. -/
def Uncrossed (limits : Limits) (visits : List (Visit ρ)) : Prop :=
  ∀ index visit, visits[index]? = some visit →
    ∀ failure, ¬ limits.Crossed (index + 1) visit.nesting failure

/-- The first attempt that crosses a limit, by its index, and what it fails with. -/
structure FirstCrossing (limits : Limits) (visits : List (Visit ρ)) (index : Nat)
    (visit : Visit ρ) (failure : Failure) : Prop where
  reached : visits[index]? = some visit
  crossed : limits.Crossed (index + 1) visit.nesting failure
  earlier : ∀ before other, before < index → visits[before]? = some other →
    ∀ reason, ¬ limits.Crossed (before + 1) other.nesting reason

variable {limits : Limits} {visits : List (Visit ρ)}

/-- Limits suffice for what was entered exactly if no attempt crosses one.

Proof: an attempt is neither later than the last nor deeper than the deepest. If
there are more attempts than the budget allows, the one after the last that is
allowed crosses it; if one is too deep and the budget suffices, it crosses the
limit of the depth. -/
theorem suffice_iff_uncrossed :
    limits.Suffice visits.length (Visit.deepest visits) ↔ limits.Uncrossed visits := by
  constructor
  · intro suffice index visit reached failure crossed
    obtain ⟨inside, found⟩ := List.getElem?_eq_some_iff.mp reached
    have member : visit ∈ visits := found ▸ List.getElem_mem inside
    cases crossed with
    | budget budget set exceeded =>
      have allowed := suffice.budget budget set
      omega
    | depth limit set afforded exceeded =>
      have allowed := Visit.deepest_le_iff.mp (suffice.depth limit set) visit member
      omega
  · intro uncrossed
    have afforded : ∀ budget, limits.nodeBudget = some budget → visits.length ≤ budget := by
      intro budget set
      refine Nat.le_of_not_lt fun inside => ?_
      exact uncrossed budget visits[budget] (List.getElem?_eq_getElem inside) _
        (.budget budget set (Nat.lt_succ_self budget))
    refine ⟨afforded, fun limit set => Visit.deepest_le_iff.mpr fun visit member => ?_⟩
    refine Nat.le_of_not_lt fun exceeded => ?_
    obtain ⟨index, inside, found⟩ := List.getElem_of_mem member
    have reached : visits[index]? = some visit := List.getElem?_eq_some_iff.mpr ⟨inside, found⟩
    refine uncrossed index visit reached _ (.depth limit set ?_ exceeded)
    intro budget allowed
    exact Nat.le_trans inside (afforded budget allowed)

/-- One more attempt that crosses no limit. -/
theorem Uncrossed.concat (uncrossed : limits.Uncrossed visits) {visit : Visit ρ}
    (within : ∀ failure, ¬ limits.Crossed (visits.length + 1) visit.nesting failure) :
    limits.Uncrossed (visits ++ [visit]) := by
  intro index other reached
  rcases Nat.lt_trichotomy index visits.length with before | here | beyond
  · rw [List.getElem?_append_left before] at reached
    exact uncrossed index other reached
  · subst here
    rw [List.getElem?_concat_length] at reached
    cases reached
    exact within
  · have inside := (List.getElem?_eq_some_iff.mp reached).1
    rw [List.length_append, List.length_singleton] at inside
    omega

/-- The first attempt that crosses a limit, after any number of attempts that do
not. -/
theorem Uncrossed.firstCrossing (uncrossed : limits.Uncrossed visits) {visit : Visit ρ}
    {failure : Failure} (crossed : limits.Crossed (visits.length + 1) visit.nesting failure) :
    limits.FirstCrossing (visits ++ [visit]) visits.length visit failure := by
  refine ⟨List.getElem?_concat_length, crossed, fun before other inside reached => ?_⟩
  rw [List.getElem?_append_left inside] at reached
  exact uncrossed before other reached

/-- The first attempt that crosses a limit remains the first when more follow. -/
theorem FirstCrossing.extend {index : Nat} {visit : Visit ρ} {failure : Failure}
    (first : limits.FirstCrossing visits index visit failure) {more : List (Visit ρ)}
    (extended : visits <+: more) : limits.FirstCrossing more index visit failure := by
  obtain ⟨rest, rfl⟩ := extended
  have inside := (List.getElem?_eq_some_iff.mp first.reached).1
  refine ⟨?_, first.crossed, fun before other earlier reached => ?_⟩
  · rw [List.getElem?_append_left inside]
    exact first.reached
  · rw [List.getElem?_append_left (Nat.lt_trans earlier inside)] at reached
    exact first.earlier before other earlier reached

/-- Who crosses a limit has not stayed within all of them. -/
theorem FirstCrossing.not_suffice {index : Nat} {visit : Visit ρ} {failure : Failure}
    (first : limits.FirstCrossing visits index visit failure) :
    ¬ limits.Suffice visits.length (Visit.deepest visits) := by
  intro suffice
  exact suffice_iff_uncrossed.mp suffice index visit first.reached failure first.crossed

end Limits

namespace Counters

variable {limits : Limits} {counters : Counters}

/-- A counter that has not come to its greatest value goes up by one. -/
theorem next_eq {counter : Nat} (below : counter < greatest) : next counter = counter + 1 :=
  Nat.min_eq_left below

/-- Counters do not come down when they count. -/
theorem next_mono {lower counter : Nat} (below : lower ≤ counter) : next lower ≤ next counter := by
  unfold next
  omega

/-- A counter that is no greater than it can be does not come down when it counts. -/
theorem le_next {counter : Nat} (within : counter ≤ greatest) : counter ≤ next counter :=
  Nat.le_min.mpr ⟨Nat.le_succ counter, within⟩

/-- A limit that is not set or allows for a number does not stop it. -/
theorem filter_eq_none {limit : Option Nat} {number : Nat}
    (allowed : ∀ bound, limit = some bound → number ≤ bound) :
    limit.filter (· < number) = none := by
  rw [Option.filter_eq_none_iff]
  intro bound set
  simpa using allowed bound set

/-- A limit that is set and lower than a number stops it. -/
theorem filter_eq_some {limit : Option Nat} {number bound : Nat} (set : limit = some bound)
    (exceeded : bound < number) : limit.filter (· < number) = some bound := by
  rw [Option.filter_eq_some_iff]
  exact ⟨set, decide_eq_true exceeded⟩

/-- A node that crosses a limit, as the counters would count it, is refused for it. It
has been counted. -/
theorem enter_refuses {failure : Failure}
    (crossed : limits.Crossed (next counters.nodes) (next counters.depth) failure) :
    counters.enter limits = (.error failure, { counters with nodes := next counters.nodes }) := by
  unfold enter
  cases crossed with
  | budget budget set exceeded => simp only [filter_eq_some set exceeded]
  | depth limit set afforded exceeded =>
    simp only [filter_eq_none afforded, filter_eq_some set exceeded]

/-- A node that crosses no limit, as the counters would count it, is entered. -/
theorem enter_admits
    (within : ∀ failure, ¬ limits.Crossed (next counters.nodes) (next counters.depth) failure) :
    counters.enter limits = (.ok (), ⟨next counters.depth, next counters.nodes⟩) := by
  have afforded := Limits.afforded within
  have shallow : ∀ limit, limits.maxDepth = some limit → next counters.depth ≤ limit := by
    intro limit set
    exact Nat.le_of_not_lt fun exceeded => within _ (.depth limit set afforded exceeded)
  unfold enter
  simp only [filter_eq_none afforded, filter_eq_none shallow]

/-- All that entering can come to: a limit is crossed and the node is refused for it,
or none is and the node is entered. It is counted in either case. -/
theorem enter_cases (limits : Limits) (counters : Counters) :
    (∃ failure, limits.Crossed (next counters.nodes) (next counters.depth) failure ∧
      counters.enter limits =
        (.error failure, { counters with nodes := next counters.nodes })) ∨
    ((∀ failure, ¬ limits.Crossed (next counters.nodes) (next counters.depth) failure) ∧
      counters.enter limits = (.ok (), ⟨next counters.depth, next counters.nodes⟩)) := by
  by_cases crossing : ∃ failure, limits.Crossed (next counters.nodes) (next counters.depth) failure
  · obtain ⟨failure, crossed⟩ := crossing
    exact .inl ⟨failure, crossed, enter_refuses crossed⟩
  · have within := not_exists.mp crossing
    exact .inr ⟨within, enter_admits within⟩

/-- A node that crosses a limit is refused for it, by counters that can still count. -/
theorem enter_crossed {failure : Failure} (nodes : counters.nodes < greatest)
    (depth : counters.depth < greatest)
    (crossed : limits.Crossed (counters.nodes + 1) (counters.depth + 1) failure) :
    counters.enter limits = (.error failure, { counters with nodes := counters.nodes + 1 }) := by
  rw [← next_eq nodes, ← next_eq depth] at crossed
  rw [← next_eq nodes]
  exact enter_refuses crossed

/-- A node that crosses no limit is entered, by counters that can still count. -/
theorem enter_uncrossed (nodes : counters.nodes < greatest) (depth : counters.depth < greatest)
    (within : ∀ failure, ¬ limits.Crossed (counters.nodes + 1) (counters.depth + 1) failure) :
    counters.enter limits = (.ok (), ⟨counters.depth + 1, counters.nodes + 1⟩) := by
  rw [← next_eq nodes, ← next_eq depth] at within ⊢
  exact enter_admits within

end Counters

end RuleTree
