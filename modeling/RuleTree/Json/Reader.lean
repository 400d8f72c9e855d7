import RuleTree.Json.Token

/-!
# Reading JSON values

The reader keeps the arrays and objects it is inside of on a stack and goes once
through the tokens. No more than 127 may be open at once; callers that are
inside some already say how many more there may be.

A value that is only passed over may nest as deep as it likes and may repeat
names.
-/

namespace RuleTree.Json

/-- How many arrays and objects may be open at once. -/
def maxOpen : Nat := 127

/-- An array or object that is open: its items so far, last first, or its members
so far and the name of the one being read. -/
inductive Frame
  | array (items : List Json)
  | object (members : List (String × Json)) (label : String)

/-- Where the reader stands: before a value, before the name of a member, before
the colon after a name, after a value in something open, or at the end. Before
the first item or member the array or object may also be closed. -/
inductive Reading
  | item (isFirst : Bool) (frames : List Frame)
  | name (isFirst : Bool) (members : List (String × Json)) (frames : List Frame)
  | colon (label : String) (members : List (String × Json)) (frames : List Frame)
  | after (value : Json) (frame : Frame) (frames : List Frame)
  | done (value : Json)

/-- After a value: within the innermost that is open, or at the end. -/
def Reading.finish (value : Json) : List Frame → Reading
  | [] => .done value
  | frame :: frames => .after value frame frames

/-- Go on with a token where a value is looked for. -/
def Reading.stepItem (room : Nat) (isFirst : Bool) (frames : List Frame) :
    Token → Except TextFault Reading
  | .word value => .ok (finish value frames)
  | .number digits =>
    match digits.number? with
    | some found => .ok (finish (.number found) frames)
    | none => .error .malformed
  | .string (.ok text) _ => .ok (finish (.string text) frames)
  | .string (.error fault) _ => .error fault
  | .openArray =>
    if frames.length < room then .ok (.item true (.array [] :: frames)) else .error .malformed
  | .openObject =>
    if frames.length < room then .ok (.name true [] frames) else .error .malformed
  | .closeArray =>
    match isFirst, frames with
    | true, .array _ :: frames => .ok (finish (.array []) frames)
    | _, _ => .error .malformed
  | .brokenWord fault | .brokenNumber fault => .error fault
  | .closeObject | .comma | .colon | .stray => .error .malformed

/-- Go on with a token after a value in something open. -/
def Reading.stepAfter (value : Json) (frame : Frame) (frames : List Frame) :
    Token → Except TextFault Reading
  | token =>
    match frame, token with
    | .array items, .comma => .ok (.item false (.array (value :: items) :: frames))
    | .array items, .closeArray => .ok (finish (.array (value :: items).reverse) frames)
    | .object members label, .comma => .ok (.name false (Entries.insert label value members) frames)
    | .object members label, .closeObject =>
      .ok (finish (.object (Entries.insert label value members)) frames)
    | _, _ => .error .malformed

/-- Go on with a token. -/
def Reading.step (room : Nat) : Reading → Token → Except TextFault Reading
  | .item isFirst frames, token => stepItem room isFirst frames token
  | .name isFirst members frames, token =>
    match token with
    | .string (.ok label) _ => .ok (.colon label members frames)
    | .string (.error fault) _ => .error fault
    | .closeObject => if isFirst then .ok (finish (.object []) frames) else .error .malformed
    | _ => .error .malformed
  | .colon label members frames, token =>
    match token with
    | .colon => .ok (.item false (.object members label :: frames))
    | _ => .error .malformed
  | .after value frame frames, token => stepAfter value frame frames token
  | .done value, _ => .ok (.done value)

/-- Read on to the end of the outermost value; with it go the tokens after it. -/
def Reading.run (room : Nat) : Reading → List Token → Except TextFault (Json × List Token)
  | .done value, rest => .ok (value, rest)
  | _, [] => .error .ended
  | reading, token :: rest =>
    match reading.step room token with
    | .ok reading => run room reading rest
    | .error fault => .error fault

/-- Read one value that may open so many arrays and objects. -/
def readValue (room : Nat) (tokens : List Token) : Except TextFault (Json × List Token) :=
  (Reading.item false []).run room tokens

/-- The value of a whole text. -/
def ofText (text : String) : Except TextFault Json := do
  let (value, rest) ← readValue maxOpen (tokens text)
  if rest.isEmpty then .ok value else .error .malformed

/-! ## Passing over a value -/

/-- Where one stands in a value that is passed over, with the arrays (`true`) and
objects (`false`) that are open. -/
inductive Passing
  | item (isFirst : Bool) (open_ : List Bool)
  | name (isFirst : Bool) (open_ : List Bool)
  | colon (open_ : List Bool)
  | after (isArray : Bool) (open_ : List Bool)
  | done

/-- After a value that is passed over. -/
def Passing.finish : List Bool → Passing
  | [] => .done
  | isArray :: open_ => .after isArray open_

/-- Pass over a token where a value is looked for. A broken number is malformed
here even where the text ends in it. -/
def Passing.stepItem (isFirst : Bool) (open_ : List Bool) : Token → Except TextFault Passing
  | .word _ | .number _ | .string _ (.ok ()) => .ok (finish open_)
  | .string _ (.error fault) | .brokenWord fault => .error fault
  | .openArray => .ok (.item true (true :: open_))
  | .openObject => .ok (.name true (false :: open_))
  | .closeArray =>
    match isFirst, open_ with
    | true, true :: open_ => .ok (finish open_)
    | _, _ => .error .malformed
  | .brokenNumber _ | .closeObject | .comma | .colon | .stray => .error .malformed

/-- Pass over a token. -/
def Passing.step : Passing → Token → Except TextFault Passing
  | .item isFirst open_, token => stepItem isFirst open_ token
  | .name isFirst open_, token =>
    match token with
    | .string _ (.ok ()) => .ok (.colon open_)
    | .string _ (.error fault) => .error fault
    | .closeObject => if isFirst then .ok (finish open_.tail) else .error .malformed
    | _ => .error .malformed
  | .colon open_, token =>
    match token with
    | .colon => .ok (.item false open_)
    | _ => .error .malformed
  | .after isArray open_, token =>
    match isArray, token with
    | true, .comma => .ok (.item false (true :: open_))
    | false, .comma => .ok (.name false (false :: open_))
    | true, .closeArray | false, .closeObject => .ok (finish open_)
    | _, _ => .error .malformed
  | .done, _ => .ok .done

/-- Pass over the rest of the outermost value. -/
def Passing.run : Passing → List Token → Except TextFault (List Token)
  | .done, rest => .ok rest
  | _, [] => .error .ended
  | passing, token :: rest =>
    match passing.step token with
    | .ok passing => run passing rest
    | .error fault => .error fault

/-- Pass over one value. -/
def passValue (tokens : List Token) : Except TextFault (List Token) :=
  (Passing.item false []).run tokens

end RuleTree.Json
