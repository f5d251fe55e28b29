import RequestTracing.Log
import RequestTracing.Trace.Extraction

/-!
This module contains the named values that log lines of a thread carry, and the fields of a context
that are copied there while a scope is open. Opening a scope writes the values that differ and says
what to put back when it closes.
-/

namespace RequestTracing

structure CorrelationValues where
  entries : List (String × String)
  deriving DecidableEq

namespace CorrelationValues

def empty : CorrelationValues :=
  ⟨[]⟩

instance : Inhabited CorrelationValues :=
  ⟨empty⟩

def get? (values : CorrelationValues) (name : String) : Option String :=
  values.entries.lookup name

def update (values : CorrelationValues) (name : String) (value : Option String) :
    CorrelationValues :=
  let others := values.entries.filter fun entry => entry.1 ≠ name
  match value with
  | some value => ⟨(name, value) :: others⟩
  | none => ⟨others⟩

def toSortedList (values : CorrelationValues) : List (String × String) :=
  values.entries.mergeSort fun a b => decide (a.1 ≤ b.1)

theorem get?_filter_ne (entries : List (String × String)) (name other : String) :
    (entries.filter fun entry => entry.1 ≠ name).lookup other =
      if other = name then none else entries.lookup other := by
  induction entries with
  | nil => simp
  | cons entry rest ih =>
    obtain ⟨key, value⟩ := entry
    by_cases hk : key = name
    . subst hk
      by_cases ho : other = key
      . simpa [ho] using ih
      . have : (other == key) = false := by simpa using ho
        simpa [ho, List.lookup_cons, this] using ih
    . by_cases ho : other = key
      . subst ho
        simp [hk]
      . have : (other == key) = false := by simpa using ho
        simpa [hk, List.lookup_cons, this] using ih

theorem get?_update (values : CorrelationValues) (name other : String) (value : Option String) :
    (values.update name value).get? other = if other = name then value else values.get? other := by
  cases value with
  | none => exact get?_filter_ne values.entries name other
  | some value =>
    by_cases h : other = name
    . simp [update, get?, h]
    . have hb : (other == name) = false := by simpa using h
      have hf := get?_filter_ne values.entries name other
      simp only [h, if_false] at hf
      simp [update, get?, List.lookup_cons, hb, h, ← hf]

end CorrelationValues

inductive CorrelationSource where
  | traceId
  | spanId
  | baggage (field : BaggageField)
  deriving DecidableEq

structure CorrelationField where
  source : CorrelationSource
  name : String
  dirty : Bool
  deriving DecidableEq

namespace CorrelationField

def traceIdName : String := "traceId"

def spanIdName : String := "spanId"

def ofSource : CorrelationSource → CorrelationField
  | .traceId => ⟨.traceId, traceIdName, false⟩
  | .spanId => ⟨.spanId, spanIdName, false⟩
  | .baggage field => ⟨.baggage field, field.name, false⟩

def withName (field : CorrelationField) (name : String) : Except TraceError CorrelationField :=
  let trimmed := Text.trim name
  if trimmed = "" then .error .emptyCorrelationName else .ok { field with name := trimmed }

def asDirty (field : CorrelationField) : CorrelationField :=
  { field with dirty := true }

def value (field : CorrelationField) (context : Snapshot) : Option String :=
  match field.source with
  | .traceId => some context.traceId.toText
  | .spanId => some context.spanId.toText
  | .baggage baggageField => context.baggage?.bind fun baggage => baggage.get? baggageField

def describe (field : CorrelationField) : String :=
  let shown :=
    match field.source with
    | .baggage baggageField =>
      if baggageField.name = field.name then field.name else baggageField.name ++ "->" ++ field.name
    | _ => field.name
  "CorrelationField\x7b" ++ shown ++ "\x7d"

def defaults : List CorrelationField :=
  [ofSource .traceId, ofSource .spanId]

def duplicateNote (field : CorrelationField) : LogRecord :=
  .event .warn LogRecord.coreTarget "CorrelationScopeDecorator.DuplicateName"
    [("correlation_name", field.name)]

def addTo (fields : List CorrelationField) (field : CorrelationField) :
    Logged (List CorrelationField) := do
  if fields.any fun existing => existing.name == field.name then
    Logged.write field.duplicateNote
    return fields
  else
    return fields ++ [field]

def target (field : CorrelationField) (context : Option Snapshot) : Option String :=
  context.bind field.value

/--
Copies fields for a scope. The result is what to put back, in the order of the fields.
-/
def apply (context : Option Snapshot) (values : CorrelationValues) :
    List CorrelationField → List (String × Option String) × CorrelationValues
  | [] => ([], values)
  | field :: rest =>
    let before := values.get? field.name
    let value := field.target context
    let changed := before != value
    let values := if changed then values.update field.name value else values
    let (kept, values) := apply context values rest
    (if changed || field.dirty then (field.name, before) :: kept else kept, values)

def restore (values : CorrelationValues) : List (String × Option String) → CorrelationValues
  | [] => values
  | (name, before) :: rest => (restore values rest).update name before

end CorrelationField

end RequestTracing
