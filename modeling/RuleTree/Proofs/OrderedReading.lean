import RuleTree.Wire.Text
import RuleTree.Proofs.OrderedJson
import RuleTree.Proofs.Outcome

/-!
# JSON values that are read are in order

A reader puts every member where its name belongs, so a value that is read has its
members in ascending order at every depth, whatever the order in the text. What
the reader holds while it is inside of something is in order all the time; this is
what a single step preserves, and a run ends with a value that is in order.

The same goes for the payload of an encoded value, which is read in between other
things. Every reader leaves tokens over that are no worse than those it was given.
-/

namespace RuleTree.Json

/-! ## Tokens -/

/-- A word stands for a value that is in order. -/
def Token.InOrder : Token → Prop
  | .word value => value.Ordered
  | _ => True

/-- All of the tokens are in order. -/
abbrev AllInOrder (tokens : List Token) : Prop := ∀ token ∈ tokens, token.InOrder

/-- Tokens after the first are in order if all are. -/
theorem inOrder_tail {token : Token} {rest : List Token} (sound : AllInOrder (token :: rest)) :
    AllInOrder rest :=
  (List.forall_mem_cons.mp sound).2

/-- Words stand for values with nothing in them. -/
theorem ordered_of_word? {c : Char} {value : Json} {letters : List Char}
    (known : word? c = some (value, letters)) : value.Ordered := by
  unfold word? at known
  split at known
  · cases known
    exact .null
  · cases known
    exact .bool true
  · cases known
    exact .bool false
  · cases known

/-- A sign is no word. -/
theorem inOrder_of_sign? {c : Char} {sign : Token} (known : sign? c = some sign) :
    sign.InOrder := by
  unfold sign? at known
  split at known
  case h_7 => cases known
  all_goals
    cases known
    exact trivial

/-- A cut adds tokens that are in order to those found so far.

Proof: by induction on the fuel. Each branch of the cut puts at most one token
to those already found, and of these only words say anything. -/
theorem inOrder_tokensFrom (fuel : Nat) (text : List Char) {found : List Token}
    (before : AllInOrder found) : AllInOrder (tokensFrom found fuel text) := by
  have ends : ∀ {all : List Token}, AllInOrder all → AllInOrder all.reverse :=
    fun holds token member => holds token (List.mem_reverse.mp member)
  induction fuel generalizing text found with
  | zero => exact ends before
  | succ fuel inductionHypothesis =>
    have adds : ∀ {token : Token}, token.InOrder → AllInOrder (token :: found) :=
      fun holds => List.forall_mem_cons.mpr ⟨holds, before⟩
    cases text with
    | nil => exact ends before
    | cons c rest =>
      unfold tokensFrom
      split
      · exact inductionHypothesis _ before
      split
      · rename_i sign known
        exact inductionHypothesis _ (adds (inOrder_of_sign? known))
      · rename_i value letters known
        split
        · exact inductionHypothesis _ (adds (ordered_of_word? known))
        · exact ends (adds trivial)
      split
      · dsimp only
        split
        · exact inductionHypothesis _ (adds trivial)
        · exact ends (adds trivial)
      split
      · split
        · exact inductionHypothesis _ (adds trivial)
        · exact ends (adds trivial)
      · exact ends (adds trivial)

/-- The tokens of a text are in order. -/
theorem inOrder_tokens (text : String) : AllInOrder (tokens text) :=
  inOrder_tokensFrom _ _ (List.forall_mem_nil _)

/-! ## The reader -/

/-- Members that are in ascending order of their names and have values in order. -/
structure MembersInOrder (members : List (String × Json)) : Prop where
  inside : ∀ member ∈ members, member.2.Ordered
  ascending : Entries.Ascending (members.map (·.1))

/-- No members are in order. -/
theorem membersInOrder_nil : MembersInOrder [] :=
  ⟨List.forall_mem_nil _, trivial⟩

/-- A member put where its name belongs leaves members in order. -/
theorem MembersInOrder.insert {members : List (String × Json)} (holds : MembersInOrder members)
    (name : String) {value : Json} (ordered : value.Ordered) :
    MembersInOrder (Entries.insert name value members) where
  inside member inserted := by
    rcases Entries.mem_insert inserted with rfl | held
    · exact ordered
    · exact holds.inside member held
  ascending := holds.ascending.insert name value

/-- What is read so far of something open is in order. -/
def Frame.InOrder : Frame → Prop
  | .array items => ∀ item ∈ items, item.Ordered
  | .object members _ => MembersInOrder members

/-- Everything a reader holds is in order. -/
def Reading.InOrder : Reading → Prop
  | .item _ frames => ∀ frame ∈ frames, frame.InOrder
  | .name _ members frames | .colon _ members frames =>
    MembersInOrder members ∧ ∀ frame ∈ frames, frame.InOrder
  | .after value frame frames =>
    value.Ordered ∧ frame.InOrder ∧ ∀ frame ∈ frames, frame.InOrder
  | .done value => value.Ordered

/-- After a value in order the reader holds it and what it held before. -/
theorem Reading.inOrder_finish {value : Json} (ordered : value.Ordered) {frames : List Frame}
    (around : ∀ frame ∈ frames, frame.InOrder) : (Reading.finish value frames).InOrder := by
  cases frames with
  | nil => exact ordered
  | cons frame frames =>
    obtain ⟨here, others⟩ := List.forall_mem_cons.mp around
    exact ⟨ordered, here, others⟩

section Steps

variable {room : Nat} {token : Token} {next : Reading} {frames : List Frame}

/-- A token where a value is looked for keeps the order. -/
theorem Reading.inOrder_stepItem {isFirst : Bool} (around : ∀ frame ∈ frames, frame.InOrder)
    (sound : token.InOrder) (stepped : stepItem room isFirst frames token = .ok next) :
    next.InOrder := by
  cases token with
  | word value =>
    cases stepped
    exact inOrder_finish sound around
  | number digits =>
    simp only [stepItem] at stepped
    split at stepped
    · cases stepped
      exact inOrder_finish (.number _) around
    · cases stepped
  | string text passed =>
    cases text with
    | error fault => cases stepped
    | ok text =>
      cases stepped
      exact inOrder_finish (.string text) around
  | openArray =>
    simp only [stepItem] at stepped
    split at stepped
    · cases stepped
      exact List.forall_mem_cons.mpr
        ⟨List.forall_mem_nil _, around⟩
    · cases stepped
  | openObject =>
    simp only [stepItem] at stepped
    split at stepped
    · cases stepped
      exact ⟨membersInOrder_nil, around⟩
    · cases stepped
  | closeArray =>
    simp only [stepItem] at stepped
    split at stepped
    · cases stepped
      refine inOrder_finish (.array [] (List.forall_mem_nil _)) ?_
      exact (List.forall_mem_cons.mp around).2
    · cases stepped
  | _ => cases stepped

/-- A token after a value in something open keeps the order. -/
theorem Reading.inOrder_stepAfter {value : Json} (ordered : value.Ordered) {frame : Frame}
    (here : frame.InOrder) (around : ∀ frame ∈ frames, frame.InOrder)
    (stepped : stepAfter value frame frames token = .ok next) : next.InOrder := by
  cases frame with
  | array items =>
    have items := List.forall_mem_cons.mpr ⟨ordered, here⟩
    cases token with
    | comma =>
      cases stepped
      exact List.forall_mem_cons.mpr ⟨items, around⟩
    | closeArray =>
      cases stepped
      exact inOrder_finish (.array _ fun item member => items item (List.mem_reverse.mp member))
        around
    | _ => cases stepped
  | object members label =>
    have inserted := MembersInOrder.insert here label ordered
    cases token with
    | comma =>
      cases stepped
      exact ⟨inserted, around⟩
    | closeObject =>
      cases stepped
      exact inOrder_finish (.object _ inserted.inside inserted.ascending) around
    | _ => cases stepped

/-- A step of the reader keeps the order. -/
theorem Reading.inOrder_step {reading : Reading} (holds : reading.InOrder) (sound : token.InOrder)
    (stepped : reading.step room token = .ok next) : next.InOrder := by
  cases reading with
  | item isFirst frames => exact inOrder_stepItem holds sound stepped
  | name isFirst members frames =>
    obtain ⟨inside, around⟩ := holds
    simp only [step] at stepped
    split at stepped
    · cases stepped
      exact ⟨inside, around⟩
    · cases stepped
    · split at stepped
      · cases stepped
        have nothing := membersInOrder_nil
        exact inOrder_finish (.object [] nothing.inside nothing.ascending) around
      · cases stepped
    · cases stepped
  | colon label members frames =>
    obtain ⟨inside, around⟩ := holds
    simp only [step] at stepped
    split at stepped
    · cases stepped
      exact List.forall_mem_cons.mpr ⟨inside, around⟩
    · cases stepped
  | after value frame frames =>
    obtain ⟨ordered, here, around⟩ := holds
    exact inOrder_stepAfter ordered here around stepped
  | done value =>
    cases stepped
    exact holds

end Steps

/-- A run of the reader ends with a value in order, and leaves tokens in order. -/
theorem Reading.inOrder_run {room : Nat} {reading : Reading} (holds : reading.InOrder)
    {tokens : List Token} (sound : AllInOrder tokens) {value : Json} {rest : List Token}
    (ran : reading.run room tokens = .ok (value, rest)) : value.Ordered ∧ AllInOrder rest := by
  induction tokens generalizing reading with
  | nil =>
    cases reading with
    | done value =>
      cases ran
      exact ⟨holds, sound⟩
    | _ => cases ran
  | cons token others inductionHypothesis =>
    obtain ⟨first, later⟩ := List.forall_mem_cons.mp sound
    unfold run at ran
    split at ran
    · cases ran
      exact ⟨holds, sound⟩
    · rename_i impossible
      cases impossible
    · rename_i same
      cases same
      split at ran
      · rename_i next stepped
        exact inductionHypothesis (inOrder_step holds first stepped) later ran
      · cases ran

/-- Passing over a value leaves tokens in order. -/
theorem Passing.inOrder_run {passing : Passing} {tokens rest : List Token}
    (sound : AllInOrder tokens) (ran : passing.run tokens = .ok rest) : AllInOrder rest := by
  induction tokens generalizing passing with
  | nil =>
    cases passing with
    | done =>
      cases ran
      exact sound
    | _ => cases ran
  | cons token others inductionHypothesis =>
    obtain ⟨_, later⟩ := List.forall_mem_cons.mp sound
    unfold run at ran
    split at ran
    · cases ran
      exact sound
    · rename_i impossible
      cases impossible
    · rename_i same
      cases same
      split at ran
      · exact inductionHypothesis later ran
      · cases ran

end RuleTree.Json

namespace RuleTree.Wire

open Json (Token AllInOrder inOrder_tail)

/-! ## Payloads -/

/-- Whatever a reader succeeds with is as said, and leaves tokens in order. -/
def Yields {ε α : Type} (outcome : Except ε (α × List Token)) (said : α → Prop) : Prop :=
  ∀ result rest, outcome = .ok (result, rest) → said result ∧ AllInOrder rest

section Outcomes

variable {ε α β γ : Type} {said : α → Prop} {saidNext : β → Prop}

/-- A failure yields nothing. -/
theorem yields_error (error : ε) : Yields (.error error) said := by
  intro result rest impossible
  cases impossible

/-- A result that is as said, with tokens in order. -/
theorem yields_ok {result : α} (holds : said result) {rest : List Token}
    (sound : AllInOrder rest) : Yields (.ok (result, rest) : Except ε (α × List Token)) said := by
  intro result rest same
  cases same
  exact ⟨holds, sound⟩

/-- A reader after a reader. -/
theorem Yields.bind {outcome : Except ε (α × List Token)} (first : Yields outcome said)
    {next : α × List Token → Except ε (β × List Token)}
    (continues : ∀ result rest, said result → AllInOrder rest →
      Yields (next (result, rest)) saidNext) :
    Yields (outcome >>= next) saidNext := by
  intro result rest both
  obtain ⟨⟨middle, left⟩, firstRead, secondRead⟩ := bind_ok both
  obtain ⟨holds, sound⟩ := first middle left firstRead
  exact continues middle left holds sound result rest secondRead

/-- A reader after something else that may fail. -/
theorem yields_after {outcome : Except ε γ} {next : γ → Except ε (β × List Token)}
    (continues : ∀ value, outcome = .ok value → Yields (next value) saidNext) :
    Yields (outcome >>= next) saidNext := by
  intro result rest both
  obtain ⟨middle, before, secondRead⟩ := bind_ok both
  exact continues middle before result rest secondRead

end Outcomes

/-- Tokens that are not what is looked for yield nothing. -/
theorem yields_failType {α : Type} {said : α → Prop} (expected : String) (tokens : List Token) :
    Yields (failType expected tokens) said := by
  intro result rest read
  unfold failType at read
  split at read
  · cases read
  · dsimp only at read
    split at read
    case h_2 =>
      split at read
      · cases read
      · cases read
    all_goals cases read

/-- After a comma the tokens are in order. -/
theorem inOrder_readComma {tokens rest : List Token} (sound : AllInOrder tokens)
    (read : readComma tokens = .ok rest) : AllInOrder rest := by
  unfold readComma at read
  split at read
  · cases read
    exact inOrder_tail sound
  · cases read

/-- After a colon the tokens are in order. -/
theorem inOrder_readColon {tokens rest : List Token} (sound : AllInOrder tokens)
    (read : readColon tokens = .ok rest) : AllInOrder rest := by
  unfold readColon at read
  split at read
  · cases read
    exact inOrder_tail sound
  · cases read

/-- A success in other terms is a success. -/
theorem ofText_ok {α : Type} {outcome : Except TextFault α} {value : α}
    (told : ofText outcome = .ok value) : outcome = .ok value := by
  cases outcome with
  | ok value =>
    cases told
    rfl
  | error fault => cases told

/-- A success in other terms is a success. -/
theorem ofData_ok {α : Type} {outcome : Except DecodeError α} {value : α}
    (told : ofData outcome = .ok value) : outcome = .ok value := by
  cases outcome with
  | ok value =>
    cases told
    rfl
  | error error => cases told

/-- A reader yields what is said from any tokens in order. -/
def Reads {α : Type} (read : List Token → Except ReadError (α × List Token)) (said : α → Prop) :
    Prop :=
  ∀ tokens, AllInOrder tokens → Yields (read tokens) said

section Structures

variable {α β : Type} {struct : Struct α β} {ofFirst : α → Prop} {ofSecond : β → Prop}

/-- Each field that is there is as said. -/
structure FieldsHold (ofFirst : α → Prop) (ofSecond : β → Prop) (fields : Fields α β) : Prop where
  first : ∀ value ∈ fields.first, ofFirst value
  second : ∀ value ∈ fields.second, ofSecond value

/-- A member that is read leaves fields as said. -/
theorem yields_readMember (readFirst : Reads struct.readFirst ofFirst)
    (readSecond : Reads struct.readSecond ofSecond) {fields : Fields α β}
    (hold : FieldsHold ofFirst ofSecond fields) (name : String) :
    Reads (struct.readMember fields name) (FieldsHold ofFirst ofSecond) := by
  intro tokens sound
  unfold Struct.readMember
  split
  · split
    · exact yields_error _
    · refine yields_after fun left colon => ?_
      refine (readFirst left (inOrder_readColon sound colon)).bind fun value rest said sound => ?_
      refine yields_ok ⟨fun held same => ?_, hold.second⟩ sound
      obtain rfl : value = held := Option.some.inj same
      exact said
  split
  · split
    · exact yields_error _
    · refine yields_after fun left colon => ?_
      refine (readSecond left (inOrder_readColon sound colon)).bind fun value rest said sound => ?_
      refine yields_ok ⟨hold.first, fun held same => ?_⟩ sound
      obtain rfl : value = held := Option.some.inj same
      exact said
  · refine yields_after fun left colon => yields_after fun rest passed => ?_
    exact yields_ok hold
      (Json.Passing.inOrder_run (inOrder_readColon sound colon) (ofText_ok passed))

/-- Members that are read leave fields as said. -/
theorem yields_readMembers (readFirst : Reads struct.readFirst ofFirst)
    (readSecond : Reads struct.readSecond ofSecond) (isFirst : Bool) (fuel : Nat)
    {fields : Fields α β} (hold : FieldsHold ofFirst ofSecond fields) :
    Reads (struct.readMembers isFirst fuel fields) (FieldsHold ofFirst ofSecond) := by
  induction fuel generalizing isFirst fields with
  | zero => exact fun tokens sound => yields_error _
  | succ fuel inductionHypothesis =>
    intro tokens sound
    unfold Struct.readMembers
    split
    · rename_i impossible
      cases impossible
    · exact yields_error _
    · exact yields_ok hold (inOrder_tail sound)
    · rename_i fields tokens _ _ _ fuelLeft sameFuel _ _
      obtain rfl : fuel = fuelLeft := Nat.succ.inj sameFuel
      have member (name : String) {rest : List Token} (sound : AllInOrder rest) :
          Yields (struct.readMember fields name rest >>= fun read =>
            struct.readMembers false fuel read.1 read.2) (FieldsHold ofFirst ofSecond) :=
        (yields_readMember readFirst readSecond hold name rest sound).bind
          fun fields rest hold sound => inductionHypothesis false hold rest sound
      -- A comma comes first unless this is the first member; then comes the name.
      dsimp only
      split
      · refine yields_after fun left begun => ?_
        obtain rfl : tokens = left := Except.ok.inj begun
        split
        · exact yields_after fun name _ => member name (inOrder_tail sound)
        · exact yields_error _
      · refine yields_after fun left begun => ?_
        have soundLeft := inOrder_readComma sound begun
        split
        · exact yields_after fun name _ => member name (inOrder_tail soundLeft)
        · exact yields_error _

/-- The items of an array that is read are as said of the fields. -/
theorem yields_readItems (readFirst : Reads struct.readFirst ofFirst)
    (readSecond : Reads struct.readSecond ofSecond) :
    Reads struct.readItems fun fields => ofFirst fields.1 ∧ ∀ value ∈ fields.2, ofSecond value := by
  intro tokens sound
  unfold Struct.readItems
  split
  · exact fun result rest impossible => nomatch impossible
  · exact yields_error _
  · refine (readFirst _ sound).bind fun first rest saidFirst sound => ?_
    dsimp only
    split
    · refine yields_ok ⟨saidFirst, ?_⟩ (inOrder_tail sound)
      exact fun _ impossible => nomatch impossible
    · refine yields_after fun left comma => ?_
      have soundLeft := inOrder_readComma sound comma
      split
      · exact yields_error _
      · refine (readSecond _ soundLeft).bind fun second rest saidSecond sound => ?_
        dsimp only
        split
        · refine yields_ok ⟨saidFirst, fun held same => ?_⟩ (inOrder_tail sound)
          obtain rfl : second = held := Option.some.inj same
          exact saidSecond
        · exact yields_error _

/-- The fields of a structure that is read are as said of them. -/
theorem yields_read (struct : Struct α β) (readFirst : Reads struct.readFirst ofFirst)
    (readSecond : Reads struct.readSecond ofSecond) (room : Nat) :
    Reads (struct.read room) fun fields =>
      ofFirst fields.1 ∧ ∀ value ∈ fields.2, ofSecond value := by
  intro tokens sound
  unfold Struct.read
  split
  · split
    · exact yields_error _
    · have nothing : FieldsHold ofFirst ofSecond (⟨none, none⟩ : Fields α β) :=
        ⟨fun _ impossible => (nomatch impossible), fun _ impossible => (nomatch impossible)⟩
      have members := yields_readMembers readFirst readSecond true
      refine (members _ nothing _ (inOrder_tail sound)).bind
        fun fields rest hold sound => yields_after fun first found => ?_
      have there : fields.first = some first := by
        cases held : fields.first with
        | some value =>
          rw [held] at found
          cases found
          rfl
        | none =>
          rw [held] at found
          cases found
      exact yields_ok ⟨hold.first first there, hold.second⟩ sound
  · split
    · exact yields_error _
    · exact yields_readItems readFirst readSecond _ (inOrder_tail sound)
  · exact yields_failType _ _

end Structures

/-- Reading the name of a base type leaves tokens in order. -/
theorem yields_readBaseName : Reads readBaseName fun _ => True := by
  intro tokens sound
  unfold readBaseName
  split
  · refine yields_after fun name _ => yields_after fun base _ => ?_
    exact yields_ok trivial (inOrder_tail sound)
  · exact yields_failType _ _

/-- Reading a base type leaves tokens in order. -/
theorem yields_readBase (room : Nat) : Reads (readBase room) fun _ => True := by
  intro tokens sound
  unfold readBase
  split
  · exact yields_readBaseName _ sound
  · split
    · exact yields_error _
    · refine (yields_readBaseName _ (inOrder_tail sound)).bind
        fun base rest _ sound => yields_after fun left colon => ?_
      have soundLeft := inOrder_readColon sound colon
      split
      · have past := inOrder_tail soundLeft
        exact yields_ok trivial (inOrder_tail past)
      · exact yields_error _
      · exact yields_failType _ _
  · exact yields_error _

/-- What is read unless it is null is as said of it. -/
theorem yields_readOptional {α : Type} {read : List Token → Except ReadError (α × List Token)}
    {said : α → Prop} (reads : Reads read said) :
    Reads (readOptional read) fun result => ∀ value ∈ result, said value := by
  intro tokens sound
  unfold readOptional
  split
  · exact yields_ok nofun (inOrder_tail sound)
  · refine (reads _ sound).bind fun value rest said sound => yields_ok (fun held same => ?_) sound
    obtain rfl : value = held := Option.some.inj same
    exact said

/-- Reading a chain of levels leaves tokens in order. -/
theorem yields_readLevel (room : Nat) : Reads (readLevel room) fun _ => True := by
  induction room with
  | zero =>
    intro tokens sound
    unfold readLevel readLevel.failLevel
    split
    · exact yields_error _
    · exact yields_error _
    · exact yields_failType _ _
  | succ room inductionHypothesis =>
    intro tokens sound
    unfold readLevel
    have fields := yields_read (levelStruct (readLevel room) room)
      (yields_readBase room) (yields_readOptional inductionHypothesis) (room + 1)
    exact (fields _ sound).bind fun level rest _ sound => yields_ok trivial sound

/-- Reading a type leaves tokens in order. -/
theorem yields_readSignature (room : Nat) : Reads (readSignature room) fun _ => True := by
  intro tokens sound
  exact (yields_readLevel room tokens sound).bind fun level rest _ sound =>
    yields_after fun type _ => yields_ok trivial sound

/-- A payload that is read is in order. -/
theorem yields_readPayload (room : Nat) : Reads (readPayload room) Json.Ordered := by
  intro tokens sound json rest read
  have start : (Json.Reading.item false []).InOrder :=
    List.forall_mem_nil _
  exact Json.Reading.inOrder_run start sound (ofText_ok read)

/-- The value of a text is one that a payload in order stands for under a type. -/
theorem decodeText_ok {text : String} {value : Value} (decoded : decodeText text = .ok value) :
    ∃ (type : Signature) (payload : Json), payload.Ordered ∧ decode type payload = .ok value := by
  obtain ⟨⟨⟨type, payload⟩, rest⟩, read, afterwards⟩ := bind_ok decoded
  obtain ⟨made, ofPayload, ended⟩ := bind_ok afterwards
  have fields := yields_read encodedStruct (yields_readSignature _)
    (yields_readOptional (yields_readPayload _)) Json.maxOpen
  obtain ⟨⟨_, ordered⟩, _⟩ := fields _ (Json.inOrder_tokens text) _ _ read
  refine ⟨type, (payload.getD none).getD .null, ?_, ?_⟩
  · cases payload with
    | none => exact .null
    | some present =>
      cases present with
      | none => exact .null
      | some json => exact ordered _ rfl json rfl
  · split at ended
    · cases ended
      exact ofData_ok ofPayload
    · cases ended

end RuleTree.Wire
