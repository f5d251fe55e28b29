import RequestTracing.Trace.Heap

/-!
This module contains the construction of contexts from plans, in which extra state is described
rather than given. What is wrong with a plan shows at the step that cannot be taken.
-/

namespace RequestTracing

inductive ExtraPlan where
  | marker (number : Nat)
  | baggage (names : List String) (values : List (String × Option String))
  deriving DecidableEq

namespace ExtraPlan

def fill (fields : BaggageFields) : List (String × Option String) → Except TraceError BaggageFields
  | [] => .ok fields
  | (name, value) :: rest => do fill (fields.update (← BaggageField.create name) value) rest

def make : ExtraPlan → Except TraceError (Extra BaggageFields)
  | marker number => .ok (.marker number 0)
  | baggage names values => do
    return .baggage (← fill (.ofFields (← names.mapM BaggageField.create)) values)

end ExtraPlan

inductive ContextStep where
  | set (setting : ContextSetting BaggageFields)
  | addExtra (plan : ExtraPlan)
  deriving DecidableEq

namespace ContextStep

def setting : ContextStep → Except TraceError (ContextSetting BaggageFields)
  | set setting => .ok setting
  | addExtra plan => do return .addExtra (← plan.make)

end ContextStep

namespace ContextBuilder

def follow (builder : ContextBuilder BaggageFields) :
    List ContextStep → Except TraceError (ContextBuilder BaggageFields)
  | [] => .ok builder
  | step :: steps => do (builder.set (← step.setting)).follow steps

def buildPlan (plan : List ContextStep) : Except TraceError Snapshot := do
  (← follow {} plan).build

end ContextBuilder

namespace Heap

def importSetting (heap : Heap) : ContextSetting BaggageFields → ContextSetting BaggageRef × Heap
  | .traceId id => (.traceId id, heap)
  | .spanId id => (.spanId id, heap)
  | .parentId id => (.parentId id, heap)
  | .localRootId id => (.localRootId id, heap)
  | .sampled decision => (.sampled decision, heap)
  | .sampledLocal value => (.sampledLocal value, heap)
  | .debug value => (.debug value, heap)
  | .samplingFlags flags => (.samplingFlags flags, heap)
  | .shared value => (.shared value, heap)
  | .addExtra extra =>
    let (extra, heap) := heap.importExtra extra
    (.addExtra extra, heap)
  | .clearExtra => (.clearExtra, heap)

def follow (heap : Heap) (builder : ContextBuilder BaggageRef) :
    List ContextStep → Except TraceError (ContextBuilder BaggageRef × Heap)
  | [] => .ok (builder, heap)
  | step :: steps => do
    let (setting, heap) := heap.importSetting (← step.setting)
    heap.follow (builder.set setting) steps

def build (heap : Heap) (builder : ContextBuilder BaggageRef) (plan : List ContextStep) :
    Except TraceError (ContextInstance × Heap) := do
  let (builder, heap) ← heap.follow builder plan
  return heap.instantiate (← builder.build)

end Heap

end RequestTracing
