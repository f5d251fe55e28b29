import RequestTracing.Trace.Extraction

/-!
This module contains contexts as instances, and the baggage that instances refer to. Two instances
may be equal in every value and still be told apart by their number; baggage changes over time, and
every instance that refers to it sees the change.
-/

namespace RequestTracing

abbrev BaggageRef := Nat

/--
One context among all that were made.
-/
structure ContextInstance where
  number : Nat
  context : TraceContext BaggageRef
  deriving DecidableEq

abbrev HeldExtraction := Extraction ContextInstance BaggageRef

structure Heap where
  instances : Nat
  baggage : List BaggageFields
  deriving DecidableEq

namespace Heap

def empty : Heap :=
  ⟨0, []⟩

instance : Inhabited Heap :=
  ⟨empty⟩

def get (heap : Heap) (ref : BaggageRef) : BaggageFields :=
  heap.baggage.getD ref default

def allocate (heap : Heap) (fields : BaggageFields) : BaggageRef × Heap :=
  (heap.baggage.length, { heap with baggage := heap.baggage ++ [fields] })

/--
Gives a field a value or takes it away. The result holds when that changes what is stored.
-/
def update (heap : Heap) (ref : BaggageRef) (field : BaggageField) (value : Option String) :
    Bool × Heap :=
  ((heap.get ref).changes field value,
    { heap with baggage := heap.baggage.modify ref fun fields => fields.update field value })

def instantiate (heap : Heap) (context : TraceContext BaggageRef) : ContextInstance × Heap :=
  (⟨heap.instances, context⟩, { heap with instances := heap.instances + 1 })

def view (heap : Heap) (source : ContextInstance) : Snapshot :=
  source.context.map heap.get

def viewExtraction (heap : Heap) (e : HeldExtraction) : Reading :=
  match e.found with
  | .context source => ⟨.context (heap.view source), e.extra.map (Extra.map heap.get)⟩
  | .flags flags => ⟨.flags flags, e.extra.map (Extra.map heap.get)⟩

def importExtra (heap : Heap) : Extra BaggageFields → Extra BaggageRef × Heap
  | .marker number forks => (.marker number forks, heap)
  | .baggage fields =>
    let (ref, heap) := heap.allocate fields
    (.baggage ref, heap)

def forkExtra (heap : Heap) : Extra BaggageRef → Extra BaggageRef × Heap
  | .marker number forks => (.marker number (forks + 1), heap)
  | .baggage ref =>
    let (copy, heap) := heap.allocate (heap.get ref)
    (.baggage copy, heap)

def mapList {α β : Type} (f : Heap → α → β × Heap) (heap : Heap) : List α → List β × Heap
  | [] => ([], heap)
  | a :: as =>
    let (b, heap) := f heap a
    let (bs, heap) := mapList f heap as
    (b :: bs, heap)

def forkAll (heap : Heap) (extra : List (Extra BaggageRef)) : List (Extra BaggageRef) × Heap :=
  mapList forkExtra heap extra

def importAll (heap : Heap) (extra : List (Extra BaggageFields)) : List (Extra BaggageRef) × Heap :=
  mapList importExtra heap extra

def importContext (heap : Heap) (context : Snapshot) : ContextInstance × Heap :=
  let (extra, heap) := heap.importAll context.extra
  heap.instantiate { context with extra }

def importReading (heap : Heap) (reading : Reading) : HeldExtraction × Heap :=
  match reading.found with
  | .context context =>
    let (source, heap) := heap.importContext context
    let (extra, heap) := heap.importAll reading.extra
    (⟨.context source, extra⟩, heap)
  | .flags flags =>
    let (extra, heap) := heap.importAll reading.extra
    (⟨.flags flags, extra⟩, heap)

end Heap

end RequestTracing
