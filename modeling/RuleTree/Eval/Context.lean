import RuleTree.Value.Basic

/-!
# Contexts

A tree reads and writes slots through its context and knows nothing else of it.
A context is whatever can answer these two requests from a state; reading may
change the state too, so that a context can count or record what is asked of it.

The slots of the plain context hold one value under each name. It takes no
indexed keys, and it refuses to give a value of a type other than the one asked
for.
-/

namespace RuleTree

/-- Why a context refused a request. -/
inductive ContextError
  | unsupportedKey (key : Key)
  | typeMismatch (key : Key) (expected found : Signature)
  | store (message : String)
  deriving DecidableEq

/-- The text of an error. -/
def ContextError.message : ContextError → String
  | .unsupportedKey key => "unsupported key " ++ key.toText
  | .typeMismatch key expected found =>
    s!"slot {key.toText} holds a {found.toText} value, expected {expected.toText}"
  | .store message => message

/-- A context with states of a type. `read` gives the value of a slot, or the nil
of the type where there is none; `write` puts a value into a slot. -/
structure Context (σ : Type) where
  read : Key → Signature → σ → Except ContextError Value × σ
  write : Key → Value → σ → Except ContextError Unit × σ

/-- Values under names, in the order of the names. -/
structure Slots where
  entries : List (String × Value)

namespace Slots

/-- No slot is occupied. -/
def empty : Slots := ⟨[]⟩

/-- The value under a name. -/
def get? (slots : Slots) (name : String) : Option Value := slots.entries.lookup name

/-- Put a value under a name. -/
def insert (slots : Slots) (name : String) (value : Value) : Slots :=
  ⟨Entries.insert name value slots.entries⟩

/-- The number of names with a value. -/
def size (slots : Slots) : Nat := slots.entries.length

/-- The value of a slot for a reader that expects a type. An empty slot reads as
nil; a value of another type is refused, be it nil or not. -/
def read (slots : Slots) (key : Key) (type : Signature) : Except ContextError Value :=
  match key with
  | .indexed _ => .error (.unsupportedKey key)
  | .named name =>
    match slots.get? name with
    | none => .ok (.nil type)
    | some value =>
      if value.hasSignature type then .ok value
      else .error (.typeMismatch key type value.signature)

/-- The slots after a write. -/
def write (slots : Slots) (key : Key) (value : Value) : Except ContextError Slots :=
  match key with
  | .indexed _ => .error (.unsupportedKey key)
  | .named name => .ok (slots.insert name value)

/-- The plain context. -/
def context : Context Slots where
  read key type slots := (slots.read key type, slots)
  write key value slots :=
    match slots.write key value with
    | .ok slots => (.ok (), slots)
    | .error error => (.error error, slots)

end Slots

end RuleTree
