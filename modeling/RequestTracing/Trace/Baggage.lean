import RequestTracing.Text.Split
import RequestTracing.Text.Description
import RequestTracing.Text.Lowercase
import RequestTracing.Trace.Error

/-!
This module contains the named values that travel alongside a trace. A field is a name, compared
without regard to the case of `A` to `Z`; the baggage of a context lists fields in the order in
which they were registered, each with a value or without.
-/

namespace RequestTracing

structure BaggageField where
  name : String
  deriving DecidableEq

namespace BaggageField

def key (field : BaggageField) : String :=
  Text.asciiLowercase field.name

def same (a b : BaggageField) : Bool :=
  a.key == b.key

def create (name : String) : Except TraceError BaggageField :=
  let trimmed := Text.trim name
  if trimmed = "" then .error .emptyFieldName else .ok ⟨trimmed⟩

def describe (field : BaggageField) : String :=
  "BaggageField\x7b" ++ field.name ++ "\x7d"

end BaggageField

structure BaggageFields where
  entries : List (BaggageField × Option String)
  deriving DecidableEq

namespace BaggageFields

instance : Inhabited BaggageFields :=
  ⟨⟨[]⟩⟩

def register (fields : BaggageFields) (field : BaggageField) : BaggageFields :=
  if fields.entries.any fun entry => entry.1.same field then
    fields
  else
    ⟨fields.entries ++ [(field, none)]⟩

def ofFields (fields : List BaggageField) : BaggageFields :=
  fields.foldl register ⟨[]⟩

def allFields (fields : BaggageFields) : List BaggageField :=
  fields.entries.map (·.1)

def toList (fields : BaggageFields) : List (BaggageField × String) :=
  fields.entries.filterMap fun (field, value) => value.map (field, ·)

def find? (fields : BaggageFields) (field : BaggageField) : Option (BaggageField × Option String) :=
  fields.entries.find? fun entry => entry.1.same field

def get? (fields : BaggageFields) (field : BaggageField) : Option String :=
  (fields.find? field).bind (·.2)

/--
Gives a field a value or takes it away. A field that is not known is added at the end when it gets a
value.
-/
def update (fields : BaggageFields) (field : BaggageField) (value : Option String) :
    BaggageFields :=
  match fields.find? field with
  | some _ =>
    ⟨fields.entries.map fun entry => if entry.1.same field then (entry.1, value) else entry⟩
  | none =>
    match value with
    | some value => ⟨fields.entries ++ [(field, some value)]⟩
    | none => fields

def changes (fields : BaggageFields) (field : BaggageField) (value : Option String) : Bool :=
  match fields.find? field with
  | some entry => entry.2 != value
  | none => value.isSome

def byName (fields : BaggageFields) (name : String) : Except TraceError (Option BaggageField) := do
  let field ← BaggageField.create name
  return fields.allFields.find? fun known => Text.sameIgnoringCase known.key field.name

def describe (fields : BaggageFields) : String :=
  Description.map (fields.toList.map fun (field, value) => (field.describe, Text.quoted value))

end BaggageFields

end RequestTracing
