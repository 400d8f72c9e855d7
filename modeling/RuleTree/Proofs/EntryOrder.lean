import Mathlib.Data.List.Forall2
import RuleTree.Entries
import RuleTree.Proofs.Outcome

/-!
# Entries under names and their order

What is found under a name, before and after an insertion, and what the strict
order of names gives: every name is less than all that come after it, a part of
the entries is in order too, and an insertion keeps the order. Entries that come
in ascending order are therefore inserted at the end, one after another, and
entries that are made of the members of an object are in the order of these.
-/

namespace RuleTree.Entries

variable {α : Type} {entries : List (String × α)}

/-- The first entry is found under its name, and hides no other name. -/
theorem lookup_cons (name first : String) (held : α) (rest : List (String × α)) :
    ((first, held) :: rest).lookup name = if name = first then some held else rest.lookup name := by
  rw [List.lookup_cons]
  by_cases same : name = first
  · simp [same]
  · simp [beq_false_of_ne same, same]

/-- Inserting changes what is found under one name.

Proof: by induction on the entries. The datum is put in front, takes the place of
the first entry, or is inserted behind it; in the last case the first entry has
another name. -/
theorem lookup_insert (name other : String) (datum : α) (entries : List (String × α)) :
    (insert name datum entries).lookup other =
      if other = name then some datum else entries.lookup other := by
  induction entries with
  | nil => exact lookup_cons other name datum []
  | cons entry rest inductionHypothesis =>
    obtain ⟨first, held⟩ := entry
    unfold insert
    split
    · exact lookup_cons other name datum ((first, held) :: rest)
    split
    · rename_i replaced
      rw [lookup_cons, lookup_cons, ← replaced]
      split <;> rfl
    · rename_i different
      rw [lookup_cons, lookup_cons, inductionHypothesis]
      by_cases found : other = first
      · have apart : first ≠ name := fun same => different same.symm
        simp [found, apart]
      · simp [found]

/-- What is found under a name is one of the entries. -/
theorem mem_of_lookup {name : String} {datum : α} (found : entries.lookup name = some datum) :
    (name, datum) ∈ entries := by
  induction entries with
  | nil => cases found
  | cons entry rest inductionHypothesis =>
    obtain ⟨first, held⟩ := entry
    rw [lookup_cons] at found
    split at found
    · rename_i same
      obtain rfl : held = datum := Option.some.inj found
      rw [same]
      exact List.mem_cons_self
    · exact List.mem_cons_of_mem _ (inductionHypothesis found)

/-- Nothing is found under a name that no entry has. -/
theorem lookup_eq_none {name : String} (absent : name ∉ entries.map (·.1)) :
    entries.lookup name = none := by
  rcases found : entries.lookup name with _ | datum
  · rfl
  · exact absurd (List.mem_map_of_mem (f := (·.1)) (mem_of_lookup found)) absent

/-! ## Ascending names -/

/-- Names ascend when each is less than every later one. -/
theorem ascending_iff_pairwise {names : List String} :
    Ascending names ↔ names.Pairwise (· < ·) := by
  induction names with
  | nil => exact ⟨fun _ => .nil, fun _ => trivial⟩
  | cons first rest inductionHypothesis =>
    cases rest with
    | nil => simp [Ascending]
    | cons second others =>
      rw [Ascending, inductionHypothesis, List.pairwise_cons (a := first)]
      constructor
      · rintro ⟨less, ascending⟩
        refine ⟨fun name member => ?_, ascending⟩
        rcases List.mem_cons.mp member with rfl | later
        · exact less
        · exact String.lt_trans less (List.rel_of_pairwise_cons ascending later)
      · rintro ⟨least, ascending⟩
        exact ⟨least second List.mem_cons_self, ascending⟩

/-- Entries that are left out do not disturb the order of the others. -/
theorem Ascending.filter (ascending : Ascending (entries.map (·.1)))
    (kept : String × α → Bool) : Ascending ((entries.filter kept).map (·.1)) := by
  rw [ascending_iff_pairwise] at ascending ⊢
  exact ascending.sublist (List.filter_sublist.map _)

/-- The first name of ascending entries is less than the others, and those ascend. -/
theorem ascending_cons {first : String} {names : List String} :
    Ascending (first :: names) ↔ (∀ name ∈ names, first < name) ∧ Ascending names := by
  rw [ascending_iff_pairwise, ascending_iff_pairwise, List.pairwise_cons]

/-- What is there after an insertion was inserted or was there before. -/
theorem mem_insert {name : String} {datum : α} {entry : String × α}
    (member : entry ∈ insert name datum entries) : entry = (name, datum) ∨ entry ∈ entries := by
  induction entries with
  | nil => exact .inl (List.mem_singleton.mp member)
  | cons held rest inductionHypothesis =>
    obtain ⟨first, old⟩ := held
    unfold insert at member
    split at member
    · exact (List.mem_cons.mp member)
    split at member
    · rcases List.mem_cons.mp member with same | later
      · exact .inl same
      · exact .inr (List.mem_cons_of_mem _ later)
    · rcases List.mem_cons.mp member with same | later
      · exact .inr (same ▸ List.mem_cons_self)
      · rcases inductionHypothesis later with same | held
        · exact .inl same
        · exact .inr (List.mem_cons_of_mem _ held)

/-- An insertion keeps the order. -/
theorem Ascending.insert (ascending : Ascending (entries.map (·.1))) (name : String) (datum : α) :
    Ascending ((Entries.insert name datum entries).map (·.1)) := by
  induction entries with
  | nil => exact trivial
  | cons entry rest inductionHypothesis =>
    obtain ⟨first, held⟩ := entry
    obtain ⟨least, others⟩ := ascending_cons.mp ascending
    unfold Entries.insert
    split
    · rename_i less
      refine ascending_cons.mpr ⟨fun other member => ?_, ascending⟩
      rcases List.mem_cons.mp member with rfl | later
      · exact less
      · exact String.lt_trans less (least other later)
    split
    · rename_i same
      rw [same]
      exact ascending
    · rename_i notLess different
      have greater : first < name := by
        by_cases less : first < name
        · exact less
        · have same := String.le_antisymm (String.not_lt.mp less) (String.not_lt.mp notLess)
          exact absurd same different
      refine ascending_cons.mpr ⟨fun other member => ?_, inductionHypothesis others⟩
      obtain ⟨entry, inserted, rfl⟩ := List.mem_map.mp member
      rcases mem_insert inserted with rfl | old
      · exact greater
      · exact least entry.1 (List.mem_map_of_mem old)

/-- An entry whose name is greater than all is inserted at the end. -/
theorem insert_greatest {name : String} {datum : α}
    (greatest : ∀ other ∈ entries.map (·.1), other < name) :
    insert name datum entries = entries ++ [(name, datum)] := by
  induction entries with
  | nil => rfl
  | cons entry rest inductionHypothesis =>
    obtain ⟨first, held⟩ := entry
    obtain ⟨less, others⟩ := List.forall_mem_cons.mp greatest
    have notLess : ¬name < first := fun reverse =>
      String.lt_irrefl _ (String.lt_trans less reverse)
    have different : name ≠ first := fun same => String.lt_irrefl _ (same ▸ less)
    simp only [insert, notLess, different, if_false, inductionHypothesis others, List.cons_append]

/-! ## Entries made of members -/

section Members

variable {β ε : Type} {read : String → α → Except ε β}

/-- The entries of members in their order, each with what is read of the member. -/
def inOrder (read : String → α → Except ε β) :
    List (String × α) → Except ε (List (String × β))
  | [] => .ok []
  | (name, datum) :: rest => do
    let result ← read name datum
    let entries ← inOrder read rest
    .ok ((name, result) :: entries)

/-- The entries there are, among which what is read of each member is inserted, one after
another. -/
def insertAll (read : String → α → Except ε β) (held : List (String × β)) :
    List (String × α) → Except ε (List (String × β))
  | [] => .ok held
  | (name, datum) :: rest => do
    let result ← read name datum
    insertAll read (insert name result held) rest

/-- Members that come in order, and after all entries there are, are inserted at the end: no
entry is replaced and none changes its place.

Proof: by induction on the members. The first has a name greater than those of all entries
there are, and after its insertion the others still come after all. -/
theorem insertAll_inOrder {held : List (String × β)} {members : List (String × α)}
    (ascending : Ascending (held.map (·.1) ++ members.map (·.1))) :
    insertAll read held members = (inOrder read members).map (held ++ ·) := by
  induction members generalizing held with
  | nil => simp [insertAll, inOrder, Except.map]
  | cons member rest inductionHypothesis =>
    obtain ⟨name, datum⟩ := member
    have less := (List.pairwise_append.mp (ascending_iff_pairwise.mp ascending)).2.2
    have greatest : ∀ other ∈ held.map (·.1), other < name := fun other member =>
      less other member name List.mem_cons_self
    rw [insertAll, inOrder]
    cases read name datum with
    | error error => rfl
    | ok result =>
      have extended : Ascending ((held ++ [(name, result)]).map (·.1) ++ rest.map (·.1)) := by
        simpa using ascending
      have later := inductionHypothesis extended
      rw [← insert_greatest greatest] at later
      change insertAll read (insert name result held) rest = _
      rw [later, insert_greatest greatest]
      cases inOrder read rest with
      | error error => rfl
      | ok entries => simp [Except.map, bind, Except.bind]

/-- Inserted among no entries, members that come in order stay as they come. -/
theorem insertAll_nil {members : List (String × α)}
    (ascending : Ascending (members.map (·.1))) :
    insertAll read [] members = inOrder read members := by
  have atEnd : insertAll read [] members = (inOrder read members).map ([] ++ ·) :=
    insertAll_inOrder ascending
  rw [atEnd]
  cases inOrder read members <;> rfl

/-- Entries are made of members in order, each of what is read of its own. -/
theorem inOrder_ok_iff {members : List (String × α)} {entries : List (String × β)} :
    inOrder read members = .ok entries ↔
      List.Forall₂ (fun member entry => member.1 = entry.1 ∧ read member.1 member.2 = .ok entry.2)
        members entries := by
  induction members generalizing entries with
  | nil =>
    rw [List.forall₂_nil_left_iff]
    constructor
    · intro made
      cases made
      rfl
    · rintro rfl
      rfl
  | cons member rest inductionHypothesis =>
    rw [List.forall₂_cons_left_iff]
    constructor
    · intro made
      obtain ⟨result, first, made⟩ := bind_ok made
      obtain ⟨others, later, made⟩ := bind_ok made
      cases made
      exact ⟨(member.1, result), others, ⟨rfl, first⟩, inductionHypothesis.mp later, rfl⟩
    · rintro ⟨⟨name, result⟩, others, ⟨rfl, first⟩, later, rfl⟩
      simp only [inOrder, first, inductionHypothesis.mpr later, bind, Except.bind]

end Members

end RuleTree.Entries
