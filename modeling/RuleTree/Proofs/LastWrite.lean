import Mathlib.Data.Finset.Card
import RuleTree.Proofs.SlotFlow

/-!
# The last write wins

The plain context is a store of values under names. What it answers depends on the requests
that it has had in one way only: a name stands for the value that was written under it last,
whatever its type, and for what it held to begin with if nothing was written under it. Reads
and requests with an index leave no trace.

The statements are about any number of requests from any slots. That slots hold one value
under each name is the order of their names; it is kept by every request, and is needed
only where the names are counted.
-/

namespace RuleTree

namespace Context

variable {σ : Type}

/-- The state of a context after a request, whatever the answer. -/
def next (context : Context σ) : Call → σ → σ
  | .read key type, state => (context.read key type state).2
  | .write key value, state => (context.write key value state).2

/-- The state of a context after requests in order. -/
def after (context : Context σ) (calls : List Call) (state : σ) : σ :=
  calls.foldl (fun state call => context.next call state) state

end Context

namespace Slots

/-- The names of the occupied slots are in strictly ascending order, so each has one value. -/
def Ordered (slots : Slots) : Prop := Entries.Ascending (slots.entries.map (·.1))

/-- The value was written under the name, and nothing after it. -/
def LastWritten (calls : List Call) (name : String) (value : Value) : Prop :=
  ∃ earlier later, calls = earlier ++ .write (.named name) value :: later ∧ ¬Written later name

/-- After requests, a name stands for the value that was written under it last, or for what
it held before them. -/
def StandsFor (slots : Slots) (calls : List Call) (name : String) (value : Value) : Prop :=
  LastWritten calls name value ∨ ¬Written calls name ∧ slots.get? name = some value

variable {slots : Slots} {calls : List Call} {call : Call} {name : String} {value : Value}

/-- Among requests there is a write under a name if the first is one or a later one. -/
theorem written_cons : Written (call :: calls) name ↔ Written [call] name ∨ Written calls name := by
  simp only [Written, List.mem_cons, List.not_mem_nil, or_false, exists_or]

/-- What was written last was written by the first request, with no write after it, or later. -/
theorem lastWritten_cons : LastWritten (call :: calls) name value ↔
    call = .write (.named name) value ∧ ¬Written calls name ∨ LastWritten calls name value := by
  constructor
  · rintro ⟨earlier, later, order, last⟩
    cases earlier with
    | nil =>
      cases order
      exact .inl ⟨rfl, last⟩
    | cons _ earlier =>
      cases order
      exact .inr ⟨earlier, later, rfl, last⟩
  · rintro (⟨rfl, last⟩ | ⟨earlier, later, rfl, last⟩)
    · exact ⟨[], calls, rfl, last⟩
    · exact ⟨call :: earlier, later, rfl, last⟩

/-- What was written last was written. -/
theorem LastWritten.written (last : LastWritten calls name value) : Written calls name := by
  obtain ⟨earlier, later, rfl, _⟩ := last
  exact ⟨value, List.mem_append_right _ List.mem_cons_self⟩

/-- Of the values that were written under a name, one was written last. -/
theorem exists_lastWritten (written : Written calls name) :
    ∃ value, LastWritten calls name value := by
  induction calls with
  | nil =>
    obtain ⟨value, impossible⟩ := written
    cases impossible
  | cons call calls inductionHypothesis =>
    by_cases again : Written calls name
    · obtain ⟨value, last⟩ := inductionHypothesis again
      exact ⟨value, lastWritten_cons.mpr (.inr last)⟩
    · obtain ⟨value, first⟩ := (written_cons.mp written).resolve_right again
      exact ⟨value, lastWritten_cons.mpr (.inl ⟨(List.mem_singleton.mp first).symm, again⟩)⟩

/-- After a request, a slot holds what the request wrote to it, or what it held if the
request did not write to it. -/
theorem get?_next : (context.next call slots).get? name = some value ↔
    call = .write (.named name) value ∨ ¬Written [call] name ∧ slots.get? name = some value := by
  cases call with
  | read key type =>
    have unwritten : ¬Written [.read key type] name := by simp [Written]
    simp [unwritten, Context.next, context]
  | write key written =>
    rw [Context.next, get?_write]
    by_cases here : key = .named name
    · subst here
      have now : Written [.write (.named name) written] name := ⟨written, by simp⟩
      simp [now]
    · have unwritten : ¬Written [.write key written] name := by
        rintro ⟨_, member⟩
        cases List.mem_singleton.mp member
        exact here rfl
      rw [if_neg here]
      simp [unwritten, here]

/-- After requests, a slot holds what its name stands for.

Proof: by induction on the requests. The rest of them go on from what the first has left,
so what the first wrote stands unless a later one writes under the same name. -/
theorem get?_after :
    (context.after calls slots).get? name = some value ↔ StandsFor slots calls name value := by
  induction calls generalizing slots with
  | nil => simp [Context.after, StandsFor, LastWritten, Written]
  | cons call calls inductionHypothesis =>
    have first : Written (call :: calls) name ↔ Written [call] name ∨ Written calls name :=
      written_cons
    have held : (context.after (call :: calls) slots).get? name = some value ↔
        StandsFor (context.next call slots) calls name value := inductionHypothesis
    rw [held, StandsFor, StandsFor, get?_next, lastWritten_cons, first]
    tauto

/-- A slot is occupied after requests if one of them wrote to it or if it was before. -/
theorem occupied_after_iff : (∃ value, (context.after calls slots).get? name = some value) ↔
    Written calls name ∨ ∃ value, slots.get? name = some value := by
  constructor
  · rintro ⟨value, held⟩
    rcases get?_after.mp held with last | ⟨_, initial⟩
    · exact .inl last.written
    · exact .inr ⟨value, initial⟩
  · intro either
    by_cases written : Written calls name
    · obtain ⟨value, last⟩ := exists_lastWritten written
      exact ⟨value, get?_after.mpr (.inl last)⟩
    · obtain ⟨value, initial⟩ := either.resolve_left written
      exact ⟨value, get?_after.mpr (.inr ⟨written, initial⟩)⟩

/-! ## Counting names -/

/-- A request keeps the names in order. -/
theorem Ordered.next (ordered : slots.Ordered) (call : Call) :
    (context.next call slots).Ordered := by
  cases call with
  | read key type => exact ordered
  | write key value =>
    cases key with
    | indexed index => exact ordered
    | named name => exact Entries.Ascending.insert ordered name value

/-- Requests keep the names in order. -/
theorem Ordered.after (ordered : slots.Ordered) (calls : List Call) :
    (context.after calls slots).Ordered := by
  induction calls generalizing slots with
  | nil => exact ordered
  | cons call calls inductionHypothesis => exact inductionHypothesis (ordered.next call)

/-- A slot is occupied if its name is among the names. -/
theorem occupied_iff : (∃ value, slots.get? name = some value) ↔
    name ∈ slots.entries.map (·.1) := by
  rw [get?, ← Option.isSome_iff_exists, List.lookup_isSome_iff, List.mem_map]
  constructor
  · rintro ⟨entry, member, same⟩
    exact ⟨entry, member, (beq_iff_eq.mp same).symm⟩
  · rintro ⟨entry, member, rfl⟩
    exact ⟨entry, member, beq_self_eq_true _⟩

/-- Slots in order are as many as there are names that are occupied. -/
theorem Ordered.size_eq (ordered : slots.Ordered) :
    ∃ present : Finset String, slots.size = present.card ∧
      ∀ name, name ∈ present ↔ ∃ value, slots.get? name = some value := by
  have distinct : (slots.entries.map (·.1)).Nodup :=
    (Entries.ascending_iff_pairwise.mp ordered).imp fun less => String.ne_of_lt less
  refine ⟨(slots.entries.map (·.1)).toFinset, ?_, fun name => ?_⟩
  · rw [List.toFinset_card_of_nodup distinct, List.length_map, size]
  · rw [List.mem_toFinset, occupied_iff]

/-! ## Reading -/

/-- A read under a name gives the value that the name stands for, if it has the type that is
asked for, and is refused with the type that it has instead. -/
theorem read_of_standsFor (stands : StandsFor slots calls name value) (type : Signature) :
    (context.after calls slots).read (.named name) type =
      if value.signature = type then .ok value
      else .error (.typeMismatch (.named name) type value.signature) := by
  simp only [read, get?_after.mpr stands, Value.hasSignature_eq, beq_iff_eq]

/-- A read under a name that was never written and held nothing gives nil. -/
theorem read_of_vacant (unwritten : ¬Written calls name) (vacant : slots.get? name = none)
    (type : Signature) : (context.after calls slots).read (.named name) type = .ok (.nil type) := by
  have absent : (context.after calls slots).get? name = none := by
    by_contra present
    rcases occupied_after_iff.mp (Option.ne_none_iff_exists'.mp present) with
      written | ⟨value, found⟩
    · exact unwritten written
    · cases found.symm.trans vacant
  simp only [read, absent]

/-- The plain context is a store in which the last write wins, after any requests and from
any slots. A read under a name gives the value that was written under it last, or the one
from the beginning, if it has the type that is asked for, and otherwise is refused with the
key and both types, be the value nil or not; the check compares base types and unit types,
and that is enough to tell types apart in full. A name that was never written and held
nothing reads as nil. Reads leave the slots as they are, and so does every request with an
index, which is refused. A write under a name is done and concerns no other name. The size
is the number of the names that hold a value, which are those that were written and those
that held one to begin with. -/
theorem last_write_wins {slots : Slots} (ordered : slots.Ordered) (calls : List Call) :
    let held := context.after calls slots
    (∀ name value type, StandsFor slots calls name value →
      context.read (.named name) type held =
        (if value.signature = type then .ok value
          else .error (.typeMismatch (.named name) type value.signature), held)) ∧
    (∀ (value : Value) type,
      (value.hasSignature type = true ↔ value.base = type.base ∧ value.unit? = type.unit?) ∧
      (value.base = type.base ∧ value.unit? = type.unit? ↔ value.signature = type)) ∧
    (∀ name type, ¬Written calls name → slots.get? name = none →
      context.read (.named name) type held = (.ok (.nil type), held)) ∧
    (∀ index type value,
      context.read (.indexed index) type held =
        (.error (.unsupportedKey (.indexed index)), held) ∧
      context.write (.indexed index) value held =
        (.error (.unsupportedKey (.indexed index)), held)) ∧
    (∀ name value, ∃ later, context.write (.named name) value held = (.ok (), later) ∧
      later.get? name = some value ∧
      ∀ other, other ≠ name → later.get? other = held.get? other) ∧
    ∃ present : Finset String, held.size = present.card ∧
      (∀ name, name ∈ present ↔ ∃ value, held.get? name = some value) ∧
      ∀ name, name ∈ present ↔ Written calls name ∨ ∃ value, slots.get? name = some value := by
  intro held
  obtain ⟨present, counted, occupied⟩ := (ordered.after calls).size_eq
  refine ⟨?named, ?check, ?vacant, ?indexed, ?written, present, counted, occupied, ?history⟩
  case named =>
    intro name value type stands
    exact Prod.ext (read_of_standsFor stands type) rfl
  case check =>
    intro value type
    refine ⟨?_, Value.parts_eq_iff⟩
    rw [Value.hasSignature, Bool.and_eq_true, beq_iff_eq, beq_iff_eq]
  case vacant =>
    intro name type unwritten vacant
    exact Prod.ext (read_of_vacant unwritten vacant type) rfl
  case indexed => exact fun index type value => ⟨rfl, rfl⟩
  case written =>
    intro name value
    refine ⟨held.insert name value, rfl, ?_, fun other apart => ?_⟩
    · rw [get?_insert, if_pos rfl]
    · rw [get?_insert, if_neg apart]
  case history => exact fun name => (occupied name).trans occupied_after_iff

/-- Requests that write a text under a name and then the nil of a type, with a write under an
index and a write under another name in between. -/
def textThenNil : List Call :=
  [.read (.named "x") .string, .write (.named "x") (.string "set"),
    .write (.indexed 1) (.boolean true), .write (.named "y") (.integer 2),
    .write (.named "x") (.nil (.list .string))]

/-- The nil that was stored is told from an empty slot: as the type that it has both read as
nil, as another type it is refused. What was there to begin with is there still, and three
names hold a value. -/
theorem last_write_wins_textThenNil :
    let slots := Slots.empty.insert "kept" (.string "old")
    let held := context.after textThenNil slots
    slots.Ordered ∧ StandsFor slots textThenNil "x" (.nil (.list .string)) ∧
      StandsFor slots textThenNil "kept" (.string "old") ∧ ¬Written textThenNil "z" ∧
      context.read (.named "x") (.list .string) held = (.ok (.nil (.list .string)), held) ∧
      context.read (.named "x") (.list .integer) held =
        (.error (.typeMismatch (.named "x") (.list .integer) (.list .string)), held) ∧
      context.read (.named "kept") .string held = (.ok (.string "old"), held) ∧
      context.read (.named "z") (.list .integer) held = (.ok (.nil (.list .integer)), held) ∧
      ∃ present : Finset String, held.size = present.card ∧ present.card = 3 ∧ "x" ∈ present := by
  intro slots held
  have ordered : slots.Ordered := trivial
  have last : StandsFor slots textThenNil "x" (.nil (.list .string)) :=
    .inl ⟨textThenNil.dropLast, [], rfl, by simp [Written]⟩
  have initial : StandsFor slots textThenNil "kept" (.string "old") :=
    .inr ⟨by simp [Written, textThenNil], rfl⟩
  have unwritten : ¬Written textThenNil "z" := by simp [Written, textThenNil]
  obtain ⟨named, _, vacant, _, _, present, counted, _, history⟩ :=
    last_write_wins ordered textThenNil
  refine ⟨ordered, last, initial, unwritten, named _ _ (.list .string) last,
    named _ _ (.list .integer) last, named _ _ .string initial, vacant _ _ unwritten rfl,
    present, counted, counted.symm.trans rfl, (history "x").mpr (.inl ⟨.string "set", ?_⟩)⟩
  simp [textThenNil]

end Slots

end RuleTree
