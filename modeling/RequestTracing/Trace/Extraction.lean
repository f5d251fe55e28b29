import RequestTracing.Trace.Context

/-!
This module contains the result of reading a carrier: a complete context, or only the sampling flags
that the carrier held, with the extra state that was read along with them.
-/

namespace RequestTracing

inductive Extracted (κ : Type) where
  | context (context : κ)
  | flags (flags : SamplingFlags)
  deriving DecidableEq

/--
The result of reading a carrier. Extra state of a context is kept in that context; `extra` is the
state next to flags.
-/
structure Extraction (κ β : Type) where
  found : Extracted κ
  extra : List (Extra β) := []
  deriving DecidableEq

namespace Extraction

variable {κ β : Type}

def ofContext (context : κ) : Extraction κ β :=
  ⟨.context context, []⟩

def ofFlags (flags : SamplingFlags) : Extraction κ β :=
  ⟨.flags flags, []⟩

def empty : Extraction κ β :=
  ofFlags .empty

instance : Inhabited (Extraction κ β) :=
  ⟨empty⟩

def context? (e : Extraction κ β) : Option κ :=
  match e.found with
  | .context context => some context
  | .flags _ => none

def samplingFlags (e : Extraction (TraceContext β) β) : SamplingFlags :=
  match e.found with
  | .context context => context.flags
  | .flags flags => flags

def sampled (e : Extraction (TraceContext β) β) : Option Bool :=
  e.samplingFlags.sampled

/--
The result with one more extra, which is attached to the context where there is one.
-/
def withExtra (e : Extraction (TraceContext β) β) (extra : Extra β) :
    Extraction (TraceContext β) β :=
  match e.found with
  | .context context => ⟨.context (context.withExtra extra), e.extra⟩
  | .flags flags => ⟨.flags flags, e.extra ++ [extra]⟩

def allExtra (e : Extraction (TraceContext β) β) : List (Extra β) :=
  match e.found with
  | .context context => context.extra ++ e.extra
  | .flags _ => e.extra

/--
The baggage that values are read from and written to: that of the context where there is one.
-/
def baggage? (e : Extraction (TraceContext β) β) : Option β :=
  match e.found with
  | .context context => context.baggage?
  | .flags _ => e.extra.findSome? Extra.baggage?

def describe (e : Extraction (TraceContext BaggageFields) BaggageFields) : String :=
  let found :=
    match e.found with
    | .context context => ("context", context.describe)
    | .flags flags => ("sampling_flags", flags.describe)
  Description.record "TraceContextOrSamplingFlags"
    [found, ("extra", Description.list (e.extra.map Extra.describe))]

end Extraction

/--
A context with the values that its baggage holds at one moment.
-/
abbrev Snapshot := TraceContext BaggageFields

namespace TraceContext

/--
The context with a field of its first baggage updated. Without baggage nothing changes.
-/
def updateBaggage (context : Snapshot) (field : BaggageField) (value : Option String) : Snapshot :=
  { context with extra := go context.extra }
where
  go : List (Extra BaggageFields) → List (Extra BaggageFields)
  | [] => []
  | .baggage fields :: rest => .baggage (fields.update field value) :: rest
  | .marker number forks :: rest => .marker number forks :: go rest

/--
The context with fields updated by name in order, unless a name cannot name a field.
-/
def updateAllBaggage (context : Snapshot) :
    List (String × Option String) → Except TraceError Snapshot
  | [] => .ok context
  | (name, value) :: rest => do
    (context.updateBaggage (← BaggageField.create name) value).updateAllBaggage rest

end TraceContext

abbrev Reading := Extraction Snapshot BaggageFields

end RequestTracing
