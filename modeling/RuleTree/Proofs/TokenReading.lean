import Mathlib.Logic.Basic
import RuleTree.Json.Reader
import RuleTree.Proofs.PrintedTokens

/-!
# Reading the tokens of a value

A plain value is read back from its tokens exactly if it nests no deeper than
there is room for. The reader keeps what is open on a stack,
so the law is about a reader inside of any number of arrays and objects: these and
what the value opens have to fit together. If they do not, the text is malformed,
for the reader stops at the bracket or brace that is one too many.
-/

namespace RuleTree.Json

/-! ## Depth -/

mutual
/-- How many arrays and objects are open at once within a value, at most. -/
def depth : Json → Nat
  | .array items => depthOfAll items + 1
  | .object members => depthOfMembers members + 1
  | _ => 0

/-- The greatest depth among items. -/
def depthOfAll : List Json → Nat
  | [] => 0
  | item :: rest => max (depth item) (depthOfAll rest)

/-- The greatest depth among the values of members. -/
def depthOfMembers : List (String × Json) → Nat
  | [] => 0
  | (_, value) :: rest => max (depth value) (depthOfMembers rest)
end

/-! ## Reading -/

/-- The tokens of a value are read where a value is looked for: the reader goes on
after the value if there is room for it. -/
def ReadBack (room : Nat) (json : Json) : Prop :=
  ∀ isFirst frames rest, frames.length ≤ room →
    (Reading.item isFirst frames).run room (tokensOf json ++ rest) =
      if frames.length + json.depth ≤ room then (Reading.finish json frames).run room rest
      else .error .malformed

variable {room : Nat} {frames : List Frame}

/-- Further items are read one after the other, up to the bracket.

Proof: by induction on the items. An item that is read becomes the last of those
already read, so the law is about any number of them. -/
theorem run_items {items : List Json} (each : ∀ item ∈ items, ReadBack room item) (value : Json)
    (before : List Json) (rest : List Token) (fits : frames.length + 1 ≤ room) :
    (Reading.after value (.array before) frames).run room
        (itemTokens items ++ .closeArray :: rest) =
      if frames.length + 1 + depthOfAll items ≤ room then
        (Reading.finish (.array ((value :: before).reverse ++ items)) frames).run room rest
      else .error .malformed := by
  induction items generalizing value before with
  | nil =>
    rw [if_pos (show frames.length + 1 + depthOfAll [] ≤ room from fits), List.append_nil]
    rfl
  | cons item more inductionHypothesis =>
    obtain ⟨here, others⟩ := List.forall_mem_cons.mp each
    have next := here false (.array (value :: before) :: frames)
      (itemTokens more ++ .closeArray :: rest) fits
    rw [List.length_cons] at next
    calc (Reading.after value (.array before) frames).run room
          (itemTokens (item :: more) ++ .closeArray :: rest)
        = (Reading.item false (.array (value :: before) :: frames)).run room
            (tokensOf item ++ (itemTokens more ++ .closeArray :: rest)) := by
          simp only [itemTokens, List.cons_append, List.append_assoc]
          rfl
      _ = if frames.length + 1 + item.depth ≤ room then
            (Reading.after item (.array (value :: before)) frames).run room
              (itemTokens more ++ .closeArray :: rest)
          else .error .malformed := next
      _ = _ := by
          rw [inductionHypothesis others item (value :: before), ← ite_and]
          refine if_congr ?_ ?_ rfl
          · rw [depthOfAll]
            omega
          · simp

/-- Further members are read one after the other, up to the brace, if all come in
the order of their names.

Proof: by induction on the members. The name of each is greater than those of all
before it, so inserting it puts it at the end. -/
theorem run_members {members : List (String × Json)}
    (each : ∀ member ∈ members, ReadBack room member.2) {label : String} {value : Json}
    {before held : List (String × Json)} (inserted : Entries.insert label value before = held)
    (ascending : Entries.Ascending ((held ++ members).map (·.1))) (rest : List Token)
    (fits : frames.length + 1 ≤ room) :
    (Reading.after value (.object before label) frames).run room
        (memberTokens members ++ .closeObject :: rest) =
      if frames.length + 1 + depthOfMembers members ≤ room then
        (Reading.finish (.object (held ++ members)) frames).run room rest
      else .error .malformed := by
  induction members generalizing label value before held with
  | nil =>
    rw [if_pos (show frames.length + 1 + depthOfMembers [] ≤ room from fits), List.append_nil,
      ← inserted]
    rfl
  | cons member more inductionHypothesis =>
    obtain ⟨name, item⟩ := member
    obtain ⟨here, others⟩ := List.forall_mem_cons.mp each
    have greatest : ∀ other ∈ held.map (·.1), other < name := by
      intro other member
      rw [Entries.ascending_iff_pairwise, List.map_append, List.pairwise_append] at ascending
      exact ascending.2.2 other member name List.mem_cons_self
    have next := here false (.object held name :: frames)
      (memberTokens more ++ .closeObject :: rest) fits
    rw [List.length_cons] at next
    have shape : held ++ (name, item) :: more = held ++ [(name, item)] ++ more := by simp
    calc (Reading.after value (.object before label) frames).run room
          (memberTokens ((name, item) :: more) ++ .closeObject :: rest)
        = (Reading.item false (.object held name :: frames)).run room
            (tokensOf item ++ (memberTokens more ++ .closeObject :: rest)) := by
          simp only [memberTokens, List.cons_append, List.append_assoc, ← inserted]
          rfl
      _ = if frames.length + 1 + item.depth ≤ room then
            (Reading.after item (.object held name) frames).run room
              (memberTokens more ++ .closeObject :: rest)
          else .error .malformed := next
      _ = _ := by
          rw [shape] at ascending ⊢
          rw [inductionHypothesis others (Entries.insert_greatest greatest) ascending, ← ite_and]
          refine if_congr ?_ rfl rfl
          rw [depthOfMembers]
          omega

/-- A value of one token is read back. -/
theorem ReadBack.ofToken {json : Json} {token : Token} (alone : tokensOf json = [token])
    (flat : json.depth = 0) (step : ∀ isFirst frames,
      Reading.stepItem room isFirst frames token = .ok (Reading.finish json frames)) :
    ReadBack room json := by
  intro isFirst frames rest fits
  rw [alone, flat, Nat.add_zero, if_pos fits]
  simp only [List.cons_append, List.nil_append, Reading.run, Reading.step, step]

/-- An array is read back if its items are. The bracket that opens it is refused if
the stack is full. -/
theorem ReadBack.array {items : List Json} (each : ∀ item ∈ items, ReadBack room item) :
    ReadBack room (.array items) := by
  intro isFirst frames rest fits
  by_cases space : frames.length < room
  · cases items with
    | nil =>
      have room : frames.length + depth (.array []) ≤ room := space
      simp [tokensOf, Reading.run, Reading.step, Reading.stepItem, space, room]
    | cons item more =>
      obtain ⟨here, others⟩ := List.forall_mem_cons.mp each
      have first := here true (.array [] :: frames) (itemTokens more ++ .closeArray :: rest) space
      rw [List.length_cons] at first
      calc (Reading.item isFirst frames).run room (tokensOf (.array (item :: more)) ++ rest)
          = (Reading.item true (.array [] :: frames)).run room
              (tokensOf item ++ (itemTokens more ++ .closeArray :: rest)) := by
            simp [tokensOf, Reading.run, Reading.step, Reading.stepItem, space]
        _ = if frames.length + 1 + item.depth ≤ room then
              (Reading.after item (.array []) frames).run room
                (itemTokens more ++ .closeArray :: rest)
            else .error .malformed := first
        _ = _ := by
            rw [run_items others item [] rest space, ← ite_and]
            refine if_congr ?_ rfl rfl
            rw [depth, depthOfAll]
            omega
  · have full : ¬frames.length + depth (.array items) ≤ room := by
      rw [depth]
      omega
    rw [if_neg full]
    cases items <;> simp [tokensOf, Reading.run, Reading.step, Reading.stepItem, space]

/-- An object is read back if the values of its members are and its names ascend. -/
theorem ReadBack.object {members : List (String × Json)}
    (each : ∀ member ∈ members, ReadBack room member.2)
    (ascending : Entries.Ascending (members.map (·.1))) : ReadBack room (.object members) := by
  intro isFirst frames rest fits
  by_cases space : frames.length < room
  · rcases members with _ | ⟨⟨name, value⟩, more⟩
    · have room : frames.length + depth (.object []) ≤ room := space
      simp [tokensOf, Reading.run, Reading.step, Reading.stepItem, space, room]
    · obtain ⟨here, others⟩ := List.forall_mem_cons.mp each
      have first := here false (.object [] name :: frames)
        (memberTokens more ++ .closeObject :: rest) space
      rw [List.length_cons] at first
      have alone : Entries.insert name value [] = [(name, value)] := rfl
      calc (Reading.item isFirst frames).run room
            (tokensOf (.object ((name, value) :: more)) ++ rest)
          = (Reading.item false (.object [] name :: frames)).run room
              (tokensOf value ++ (memberTokens more ++ .closeObject :: rest)) := by
            simp [tokensOf, Reading.run, Reading.step, Reading.stepItem, space]
        _ = if frames.length + 1 + value.depth ≤ room then
              (Reading.after value (.object [] name) frames).run room
                (memberTokens more ++ .closeObject :: rest)
            else .error .malformed := first
        _ = _ := by
            rw [run_members others alone ascending rest space, ← ite_and]
            refine if_congr ?_ rfl rfl
            rw [depth, depthOfMembers]
            omega
  · have full : ¬frames.length + depth (.object members) ≤ room := by
      rw [depth]
      omega
    rw [if_neg full]
    rcases members with _ | ⟨⟨name, value⟩, more⟩ <;>
      simp [tokensOf, Reading.run, Reading.step, Reading.stepItem, space]

/-- A plain value is read back where there is room for it. -/
theorem readBack {json : Json} (plain : Plain json) : ReadBack room json := by
  induction json with
  | null => exact .ofToken rfl rfl fun _ _ => rfl
  | bool value => exact .ofToken rfl rfl fun _ _ => rfl
  | string text => exact .ofToken rfl rfl fun _ _ => rfl
  | number value =>
    cases plain with
    | integer n fits =>
      refine .ofToken rfl rfl fun _ _ => ?_
      simp only [Reading.stepItem, number?_ofInteger fits]
  | array items inductionHypothesis =>
    cases plain with
    | array _ inside =>
      exact .array fun item member => inductionHypothesis item member (inside item member)
  | object members inductionHypothesis =>
    cases plain with
    | object _ inside ascending =>
      exact .object (fun entry member => inductionHypothesis entry member (inside entry member))
        ascending

/-- A plain value that is not inside of anything is read back if it fits. -/
theorem readValue_tokensOf {json : Json} (plain : Plain json) (room : Nat) (rest : List Token) :
    readValue room (tokensOf json ++ rest) =
      if json.depth ≤ room then .ok (json, rest) else .error .malformed := by
  have read := readBack plain false [] rest (Nat.zero_le room)
  rw [List.length_nil, Nat.zero_add] at read
  rw [readValue, read]
  refine if_congr Iff.rfl ?_ rfl
  simp only [Reading.finish, Reading.run]

end RuleTree.Json
