import RuleTree.Expr.Build
import RuleTree.Proofs.LimitedEvaluation
import RuleTree.Proofs.Lockstep
import RuleTree.Proofs.SlotContents

/-!
# How values flow through slots

Against the plain context a tree changes the slots that its nodes write to and no
others, and it looks at the slots that its nodes read and no others. The first is
an invariant of each slot by itself. The second compares two evaluations from
slots that differ: as long as they agree under the names that the tree reads they
run in lockstep, and what one writes the other writes too.

Which slots are read and written is seen from the tree. An assignment to an entry
bears a key as well, but this addresses no slot. A loop writes: it binds its key,
and the binding stays when the loop has ended or has failed.
-/

namespace RuleTree

namespace Slots

variable {limits : Limits} {Inside : Expr → Prop}

/-- A write concerns the slot of its key, and none if the key is an index. -/
theorem get?_write (key : Key) (value : Value) (slots : Slots) (name : String) :
    (context.write key value slots).2.get? name =
      if key = .named name then some value else slots.get? name := by
  cases key with
  | indexed index => rfl
  | named other =>
    have written : (context.write (.named other) value slots).2 = slots.insert other value := rfl
    rw [written, get?_insert]
    by_cases same : name = other
    · rw [if_pos same, if_pos (congrArg Key.named same.symm)]
    · rw [if_neg same, if_neg fun equal => same (Key.named.inj equal).symm]

/-- What a read gives depends on the slot that is read. -/
theorem read_congr {slots slots' : Slots} {name : String}
    (same : slots.get? name = slots'.get? name) (type : Signature) :
    slots.read (.named name) type = slots'.read (.named name) type := by
  simp only [read, same]

/-- What the writes of the nodes inside keep of the slots, a run keeps: entering,
leaving and reading leave the slots alone. -/
theorem preserves (Holds : Slots → Prop)
    (writes : ∀ node key, Inside node → node.writtenKey? = some key → ∀ value slots,
      Holds slots → Holds (context.write key value slots).2) :
    (context.machine limits).Preserves Inside fun run => Holds run.context where
  enters _ _ _ held := held
  leaves _ held := held
  reads _ _ _ _ _ held := held
  writes node key inside written value run held :=
    writes node key inside written value run.context held

end Slots

/-! ## The frame -/

namespace Slots

variable {expr : Expr} (limits : Limits) (run : RunState Slots)

/-- A slot that no node of a tree writes to holds what it held. -/
theorem get?_of_unwritten {name : String}
    (unwritten : ∀ node ∈ expr.nodes, node.writtenKey? ≠ some (.named name)) :
    (expr.evaluateIn context limits run).2.context.get? name = run.context.get? name := by
  have kept : (context.machine limits).Preserves
      (fun node => node.writtenKey? ≠ some (.named name))
      fun after => after.context.get? name = run.context.get? name := by
    apply preserves (·.get? name = run.context.get? name)
    intro node key elsewhere written value held same
    have apart : key ≠ .named name := by
      rintro rfl
      exact elsewhere written
    rw [get?_write, if_neg apart]
    exact same
  exact kept.eval expr unwritten rfl

/-- A slot that is occupied stays so. -/
theorem occupied_after {name : String} (occupied : ∃ value, run.context.get? name = some value) :
    ∃ later, (expr.evaluateIn context limits run).2.context.get? name = some later := by
  have kept : (context.machine limits).Preserves (fun _ => True)
      fun after => ∃ later, after.context.get? name = some later := by
    apply preserves fun held => ∃ later, held.get? name = some later
    rintro node key - written value held ⟨later, found⟩
    rw [get?_write]
    by_cases here : key = .named name
    · exact ⟨value, if_pos here⟩
    · exact ⟨later, (if_neg here).trans found⟩
  exact kept.eval expr (fun _ _ => trivial) occupied

/-- A tree of which no node writes leaves the slots as they were. -/
theorem eq_of_silent (silent : ∀ node ∈ expr.nodes, node.writtenKey? = none) :
    (expr.evaluateIn context limits run).2.context = run.context := by
  have kept : (context.machine limits).Preserves (fun node => node.writtenKey? = none)
      fun after => after.context = run.context := by
    apply preserves (· = run.context)
    intro node key unwritten written
    cases unwritten.symm.trans written
  exact kept.eval expr silent rfl

end Slots

namespace Expr

/-- The frame of an evaluation against the plain context, under any limits, however
many nodes were counted before and whatever it comes to. A slot that no node
writes to holds what it held, no slot is vacated, and if no node writes at all
the slots are what they were, so that the same evaluation comes to the same.

Proof: each of the three is kept by the writes of the nodes of the tree. -/
theorem evaluation_frame (expr : Expr) (limits : Limits) (counters : Counters) (slots : Slots) :
    let final := (expr.evaluateIn Slots.context limits ⟨counters, slots⟩).2.context
    (∀ name, (∀ node ∈ expr.nodes, node.writtenKey? ≠ some (.named name)) →
      final.get? name = slots.get? name) ∧
    (∀ name value, slots.get? name = some value → ∃ kept, final.get? name = some kept) ∧
    ((∀ node ∈ expr.nodes, node.writtenKey? = none) →
      final = slots ∧
      expr.evaluate Slots.context limits (expr.evaluate Slots.context limits slots).2 =
        expr.evaluate Slots.context limits slots) := by
  refine ⟨fun name => Slots.get?_of_unwritten limits _, ?_, ?_⟩
  · intro name value occupied
    exact Slots.occupied_after limits ⟨counters, slots⟩ ⟨value, occupied⟩
  · intro silent
    have ended : (expr.evaluate Slots.context limits slots).2 = slots :=
      Slots.eq_of_silent limits (.start slots) silent
    constructor
    · exact Slots.eq_of_silent limits ⟨counters, slots⟩ silent
    · rw [ended]

/-- A tree that writes one slot, assigns to an entry of a map that is not there, and
then reads a slot. -/
def writeThenRead : Expr :=
  .sequence ⟨⟨1, 1⟩, .integer⟩
    [Build.setSlot "x" (.named "x") (Build.constant (.integer 1) ⟨1, 5⟩) ⟨1, 1⟩,
      Build.setEntry "y" (.named "y") (Build.constant (.integer 2) ⟨2, 5⟩)
        (Build.constant (.nil (.map .integer)) ⟨2, 9⟩) ⟨2, 1⟩,
      Build.slot "z" (.named "z") .integer ⟨3, 1⟩]

/-- The read fails, since the slot holds a string. The slot with the name of the
entry and the slot that is read hold what they held; and reading alone, which fails
as well, changes nothing. -/
theorem evaluation_frame_writeThenRead :
    let slots := (Slots.empty.insert "y" (.boolean true)).insert "z" (.string "text")
    let run := writeThenRead.evaluateIn Slots.context .none (.start slots)
    let read := Build.slot "z" (.named "z") .integer ⟨3, 1⟩
    run.1 = .error ⟨.context (.typeMismatch (.named "z") .integer .string), some ⟨3, 1⟩⟩ ∧
      run.2.context.get? "y" = some (.boolean true) ∧
      (∃ kept, run.2.context.get? "z" = some kept) ∧
      (read.evaluateIn Slots.context .none (.start slots)).2.context = slots := by
  intro slots run read
  obtain ⟨kept, occupied, _⟩ := writeThenRead.evaluation_frame .none {} slots
  obtain ⟨_, _, silent⟩ := read.evaluation_frame .none {} slots
  refine ⟨rfl, ?_, occupied "z" (.string "text") rfl, (silent ?_).1⟩
  · refine kept "y" ?_
    simp [writeThenRead, Build.setSlot, Build.setEntry, Build.constant, Build.slot, nodes, nodesAll,
      writtenKey?]
  · simp [read, Build.slot, nodes, writtenKey?]

end Expr

/-! ## Slots that are not read -/

namespace Slots

/-- Among the requests there is a write under a name. The plain context refuses
none of these. -/
def Written (calls : List Call) (name : String) : Prop :=
  ∃ value, Call.write (.named name) value ∈ calls

variable {calls : List Call} {name : String}

/-- A read is no write. -/
theorem written_concat_read (key : Key) (type : Signature) :
    Written (calls ++ [.read key type]) name ↔ Written calls name := by
  simp [Written]

/-- A write is one under the name of its key. -/
theorem written_concat_write (key : Key) (value : Value) :
    Written (calls ++ [.write key value]) name ↔ Written calls name ∨ key = .named name := by
  constructor
  · rintro ⟨found, member⟩
    rcases List.mem_append.mp member with before | now
    · exact .inl ⟨found, before⟩
    · cases List.mem_singleton.mp now
      exact .inr rfl
  · rintro (⟨found, before⟩ | rfl)
    · exact ⟨found, List.mem_append_left _ before⟩
    · exact ⟨value, List.mem_concat_self⟩

/-- What two evaluations have come to that began from two stores: they have counted
the same and asked for the same. Under a name that they have written both hold one
value, and under any other name each holds what it held to begin with. -/
structure Agree (initial initial' : Slots) (recorded recorded' : Recorded (RunState Slots)) :
    Prop where
  counters : recorded.state.counters = recorded'.state.counters
  calls : recorded.calls = recorded'.calls
  held : ∀ name,
    (Written recorded.calls name ∧ ∃ value, recorded.state.context.get? name = some value ∧
      recorded'.state.context.get? name = some value) ∨
    (¬ Written recorded.calls name ∧
      recorded.state.context.get? name = initial.get? name ∧
      recorded'.state.context.get? name = initial'.get? name)

namespace Agree

variable {initial initial' : Slots} {recorded recorded' : Recorded (RunState Slots)}
  {limits : Limits}

/-- Two evaluations that have not begun. -/
theorem start (initial initial' : Slots) (counters : Counters) :
    Agree initial initial' (.start ⟨counters, initial⟩) (.start ⟨counters, initial'⟩) where
  counters := rfl
  calls := rfl
  held name := by
    refine .inr ⟨?_, rfl, rfl⟩
    rintro ⟨value, impossible⟩
    cases impossible

/-- A name holds the same in both if it did so to begin with. -/
theorem get?_eq (agree : Agree initial initial' recorded recorded') {name : String}
    (same : initial.get? name = initial'.get? name) :
    recorded.state.context.get? name = recorded'.state.context.get? name := by
  rcases agree.held name with ⟨_, value, found, found'⟩ | ⟨_, kept, kept'⟩
  · rw [found, found']
  · rw [kept, kept', same]

/-- A read of a key that is no name, or of a name that held the same to begin with,
is answered alike. -/
theorem read (agree : Agree initial initial' recorded recorded') {key : Key}
    (same : ∀ name, key = .named name → initial.get? name = initial'.get? name)
    (type : Signature) :
    Alike (Agree initial initial') ((context.machine limits).recording.read key type recorded)
      ((context.machine limits).recording.read key type recorded') := by
  have answer : recorded.state.context.read key type = recorded'.state.context.read key type := by
    cases key with
    | indexed index => rfl
    | named name => exact read_congr (agree.get?_eq (same name rfl)) type
  refine ⟨answer, agree.counters, congrArg (· ++ [Call.read key type]) agree.calls, ?_⟩
  intro name
  have before := agree.held name
  rw [← written_concat_read key type] at before
  exact before

/-- A write is answered alike, and written in both. -/
theorem write (agree : Agree initial initial' recorded recorded') (key : Key) (value : Value) :
    Alike (Agree initial initial') ((context.machine limits).recording.write key value recorded)
      ((context.machine limits).recording.write key value recorded') := by
  have answer : (context.write key value recorded.state.context).1 =
      (context.write key value recorded'.state.context).1 := by
    cases key <;> rfl
  refine ⟨answer, agree.counters, congrArg (· ++ [Call.write key value]) agree.calls, ?_⟩
  intro name
  have found := get?_write key value recorded.state.context name
  have found' := get?_write key value recorded'.state.context name
  have spelled : Written (recorded.calls ++ [.write key value]) name ↔
      Written recorded.calls name ∨ key = .named name := written_concat_write key value
  by_cases here : key = .named name
  · rw [if_pos here] at found found'
    exact .inl ⟨spelled.mpr (.inr here), value, found, found'⟩
  · rw [if_neg here] at found found'
    rcases agree.held name with ⟨written, other, same, same'⟩ | ⟨unwritten, kept, kept'⟩
    · exact .inl ⟨spelled.mpr (.inl written), other, found.trans same, found'.trans same'⟩
    · refine .inr ⟨fun written => ?_, found.trans kept, found'.trans kept'⟩
      rcases spelled.mp written with before | now
      · exact unwritten before
      · exact here now

/-- A node is entered alike, since entering depends on the counters alone. -/
theorem enter (agree : Agree initial initial' recorded recorded') (node : Expr) :
    Alike (Agree initial initial') ((context.machine limits).recording.enter node recorded)
      ((context.machine limits).recording.enter node recorded') := by
  rcases entering : recorded.state.counters.enter limits with ⟨outcome, counters⟩
  have attempt : (context.machine limits).enter node recorded.state = (outcome, _) :=
    Context.machine_enter entering node
  rw [agree.counters] at entering
  have attempt' : (context.machine limits).enter node recorded'.state = (outcome, _) :=
    Context.machine_enter entering node
  rcases outcome with failure | done
  · rw [Machine.recording_enter_error attempt, Machine.recording_enter_error attempt']
    exact ⟨rfl, rfl, agree.calls, agree.held⟩
  · rw [Machine.recording_enter_ok attempt, Machine.recording_enter_ok attempt']
    exact ⟨rfl, rfl, agree.calls, agree.held⟩

/-- From two stores that hold the same under the names that are read, evaluations run
in lockstep. -/
theorem lockstep (limits : Limits) (initial initial' : Slots) :
    Lockstep (context.machine limits).recording (context.machine limits).recording
      (fun node => ∀ name, node.readKey? = some (.named name) →
        initial.get? name = initial'.get? name)
      (Agree initial initial') where
  enters node _ _ _ agree := agree.enter node
  leaves _ _ agree := ⟨congrArg Counters.leave agree.counters, agree.calls, agree.held⟩
  reads node _ same reads _ _ agree :=
    agree.read (fun name named => same name (named ▸ reads)) node.type
  writes _ key _ _ value _ _ agree := agree.write key value

end Agree

end Slots

namespace Expr

/-- An evaluation depends only on the slots that the nodes of the tree read by name.
From two stores that hold the same under these names, under any limits and however
many nodes were counted before, it has one result, be it a value or an error with
its position, counts the same and makes the same requests. A name that it writes
holds one value afterwards; under a name that it does not write each store keeps
what it held. -/
theorem evaluation_depends_on_slots_read (expr : Expr) (limits : Limits) (counters : Counters)
    {slots slots' : Slots}
    (same : ∀ node ∈ expr.nodes, ∀ name, node.readKey? = some (.named name) →
      slots.get? name = slots'.get? name) :
    let machine := Slots.context.machine limits
    let outcome := expr.evaluateIn Slots.context limits ⟨counters, slots⟩
    let outcome' := expr.evaluateIn Slots.context limits ⟨counters, slots'⟩
    outcome.1 = outcome'.1 ∧ outcome.2.counters = outcome'.2.counters ∧
    machine.calls expr ⟨counters, slots⟩ = machine.calls expr ⟨counters, slots'⟩ ∧
    ∀ name,
      (Slots.Written (machine.calls expr ⟨counters, slots⟩) name ∧
        Slots.Written (machine.calls expr ⟨counters, slots'⟩) name ∧
        ∃ value, outcome.2.context.get? name = some value ∧
          outcome'.2.context.get? name = some value) ∨
      (¬ Slots.Written (machine.calls expr ⟨counters, slots⟩) name ∧
        ¬ Slots.Written (machine.calls expr ⟨counters, slots'⟩) name ∧
        outcome.2.context.get? name = slots.get? name ∧
        outcome'.2.context.get? name = slots'.get? name) := by
  intro machine outcome outcome'
  obtain ⟨sameResult, agree⟩ := (Slots.Agree.lockstep limits slots slots').eval expr same
    (.start slots slots' counters)
  obtain ⟨result, state⟩ := machine.recording_eval expr (.start ⟨counters, slots⟩)
  obtain ⟨result', state'⟩ := machine.recording_eval expr (.start ⟨counters, slots'⟩)
  obtain ⟨sameCounters, sameCalls, held⟩ := agree
  rw [state, state'] at sameCounters
  refine ⟨result.symm.trans (sameResult.trans result'), sameCounters, sameCalls, ?_⟩
  intro name
  have calls : machine.calls expr ⟨counters, slots⟩ = machine.calls expr ⟨counters, slots'⟩ :=
    sameCalls
  have settled := held name
  rw [state, state'] at settled
  rw [← calls]
  rcases settled with ⟨written, value, found, found'⟩ | ⟨unwritten, kept, kept'⟩
  · exact .inl ⟨written, written, value, found, found'⟩
  · exact .inr ⟨unwritten, unwritten, kept, kept'⟩

/-- A tree that copies one slot to another. -/
def copySlot : Expr :=
  Build.setSlot "to" (.named "to") (Build.slot "from" (.named "from") .integer ⟨1, 6⟩) ⟨1, 1⟩

/-- The copy from two stores, of which one holds a value under the name that is copied
to and the other a value under a name that does not occur. -/
theorem evaluation_depends_copySlot :
    let slots := (Slots.empty.insert "from" (.integer 2)).insert "to" (.string "text")
    let slots' := (Slots.empty.insert "from" (.integer 2)).insert "more" (.boolean true)
    let run := copySlot.evaluateIn Slots.context .none (.start slots)
    let run' := copySlot.evaluateIn Slots.context .none (.start slots')
    run.1 = .ok (.integer 2) ∧ run'.1 = .ok (.integer 2) ∧
      (∃ value, run.2.context.get? "to" = some value ∧ run'.2.context.get? "to" = some value) ∧
      run.2.context.get? "more" = none ∧ run'.2.context.get? "more" = some (.boolean true) := by
  intro slots slots' run run'
  have same : ∀ node ∈ copySlot.nodes, ∀ name, node.readKey? = some (.named name) →
      slots.get? name = slots'.get? name := by
    intro node member name reads
    simp only [copySlot, Build.setSlot, Build.slot, nodes, List.mem_cons, List.not_mem_nil,
      or_false] at member
    rcases member with rfl | rfl <;> cases reads
    rfl
  obtain ⟨sameResult, _, _, held⟩ := copySlot.evaluation_depends_on_slots_read .none {} same
  have result : run.1 = .ok (.integer 2) := rfl
  have calls : (Slots.context.machine .none).calls copySlot ⟨{}, slots⟩ =
      [.read (.named "from") .integer, .write (.named "to") (.integer 2)] := rfl
  have written : Slots.Written ((Slots.context.machine .none).calls copySlot ⟨{}, slots⟩) "to" := by
    rw [calls]
    exact ⟨.integer 2, by simp⟩
  have unwritten :
      ¬ Slots.Written ((Slots.context.machine .none).calls copySlot ⟨{}, slots⟩) "more" := by
    rw [calls]
    simp [Slots.Written]
  obtain ⟨_, _, copied⟩ := (held "to").resolve_right fun apart => apart.1 written
  obtain ⟨_, _, kept, kept'⟩ := (held "more").resolve_left fun here => unwritten here.1
  exact ⟨result, sameResult.symm.trans result, copied, kept, kept'⟩

end Expr

end RuleTree
