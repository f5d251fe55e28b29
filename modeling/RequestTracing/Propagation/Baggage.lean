import RequestTracing.Propagation.B3

/-!
This module contains the propagation of baggage on top of another propagator. Every result of
reading carries the configured fields; remote fields are read from and written to the carrier, local
ones never leave the process. It also contains the choice of a propagator: B3, with baggage
alongside where rules for it are given.
-/

namespace RequestTracing

structure BaggageRule where
  field : BaggageField
  keys : List String
  deriving DecidableEq

namespace BaggageRule

def onlyLocal (field : BaggageField) : BaggageRule :=
  ⟨field, []⟩

def remote (field : BaggageField) : BaggageRule :=
  ⟨field, [Text.asciiLowercase field.name]⟩

def isRemote (rule : BaggageRule) : Bool :=
  !rule.keys.isEmpty

def addKey (rule : BaggageRule) (name : String) : Logged BaggageRule := do
  let key := Text.asciiLowercase (Text.trim name)
  if key = "" then
    Logged.write (.event .warn LogRecord.recorderTarget "SingleBaggageField.EmptyKeyName"
      [("field", rule.field.name)])
    return rule
  else if key ∈ rule.keys then
    return rule
  else
    return { rule with keys := rule.keys ++ [key] }

def addKeys (rule : BaggageRule) : List String → Logged BaggageRule
  | [] => pure rule
  | name :: names => do (← rule.addKey name).addKeys names

end BaggageRule

structure BaggageRulePlan where
  field : String
  isRemote : Bool
  keys : List String
  deriving DecidableEq

namespace BaggageRulePlan

def make (plan : BaggageRulePlan) (field : BaggageField) : Logged BaggageRule :=
  (if plan.isRemote then BaggageRule.remote field else .onlyLocal field).addKeys plan.keys

def makeAll : List BaggageRulePlan → Logged (Except TraceError (List BaggageRule))
  | [] => pure (.ok [])
  | plan :: plans =>
    match BaggageField.create plan.field with
    | .error e => pure (.error e)
    | .ok field => do
      let rule ← plan.make field
      return (← makeAll plans).map (rule :: ·)

end BaggageRulePlan

structure BaggagePolicy where
  rules : List BaggageRule
  deriving DecidableEq

namespace BaggagePolicy

def add (policy : BaggagePolicy) (rule : BaggageRule) : Logged BaggagePolicy := do
  if policy.rules.any fun existing => existing.field.same rule.field then
    Logged.write (.event .warn LogRecord.recorderTarget "BaggagePropagation.DuplicateField"
      [("field", rule.field.name)])
    return policy
  else
    return ⟨policy.rules ++ [rule]⟩

def addAll (policy : BaggagePolicy) : List BaggageRule → Logged BaggagePolicy
  | [] => pure policy
  | rule :: rules => do (← policy.add rule).addAll rules

def ofRules (rules : List BaggageRule) : Logged BaggagePolicy :=
  addAll ⟨[]⟩ rules

def ofPlans (plans : List BaggageRulePlan) : Logged (Except TraceError BaggagePolicy) := do
  match ← BaggageRulePlan.makeAll plans with
  | .error e => return .error e
  | .ok rules => return .ok (← ofRules rules)

def fields (policy : BaggagePolicy) : List BaggageField :=
  policy.rules.map (·.field)

def remoteRules (policy : BaggagePolicy) : List BaggageRule :=
  policy.rules.filter BaggageRule.isRemote

def keys (policy : BaggagePolicy) : List String :=
  policy.rules.flatMap (·.keys)

def decorate (policy : BaggagePolicy) (context : Snapshot) : Snapshot :=
  if context.baggage?.isSome then
    context
  else
    context.withExtra (.baggage (.ofFields policy.fields))

def calls (policy : BaggagePolicy) (baggage : BaggageFields) : List (String × String) :=
  policy.remoteRules.flatMap fun rule =>
    match baggage.get? rule.field with
    | some value => rule.keys.map (·, value)
    | none => []

/--
The value of a remote field in a carrier: that of the first of its keys that is there.
-/
def lookUp (get : String → Option String) (rule : BaggageRule) : Option String :=
  rule.keys.findSome? get

def read (policy : BaggagePolicy) (get : String → Option String) : BaggageFields :=
  policy.remoteRules.foldl
    (fun baggage rule =>
      match lookUp get rule with
      | some value => baggage.update rule.field (some value)
      | none => baggage)
    (.ofFields policy.fields)

def addKeys (known : List String) (keys : List String) : List String :=
  keys.foldl (fun known key => if key ∈ known then known else known ++ [key]) known

def propagator (policy : BaggagePolicy) (delegate : Propagator) : Propagator where
  fields := addKeys delegate.fields policy.keys
  inject context :=
    delegate.inject context ++
      match context.baggage? with
      | some baggage => policy.calls baggage
      | none => []
  extract get := do
    let extraction ← delegate.extract get
    return extraction.withExtra (.baggage (policy.read get))

end BaggagePolicy

structure PropagationPlan where
  encoding : B3.Encoding := .multi
  baggage : Option (List BaggageRulePlan) := none
  deriving DecidableEq

namespace PropagationPlan

def make (plan : PropagationPlan) : Logged (Except TraceError Propagator) :=
  match plan.baggage with
  | none => pure (.ok (B3.propagator plan.encoding))
  | some rules => do
    return (← BaggagePolicy.ofPlans rules).map fun policy =>
      policy.propagator (B3.propagator plan.encoding)

end PropagationPlan

end RequestTracing
