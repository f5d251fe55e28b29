import RequestTracing.Tracer.Tracer

/-!
This module contains the values that the commands of a session name, and which context instances
such a value keeps alive.
-/

namespace RequestTracing

inductive Named where
  | context (source : ContextInstance)
  | weak (source : ContextInstance)
  | extraction (extraction : HeldExtraction)
  | baggageField (field : BaggageField)
  | correlationField (field : CorrelationField)
  | current (current : CurrentContext)
  | scope (scope : Scope)
  | scopes (scopes : List Scope)
  | decoration (decoration : Decoration)
  | task (current : CurrentContext) (context : Option ContextInstance)
  | registry (place : Nat)
  | pending (registry place : Nat)
  | tracing (place : Nat)
  | span (tracing : Nat) (span : SpanHandle)
  | scopedSpan (tracing : Nat) (span : ScopedSpan)
  | customizer (tracing : Nat) (customizer : SpanCustomizer)
  deriving DecidableEq

namespace Named

def context? : Named → Option ContextInstance
  | context source => some source
  | extraction e => e.context?
  | span _ handle => some handle.source
  | scopedSpan _ handle => some handle.span.source
  | _ => none

def held (value : Named) : List ContextInstance :=
  match value with
  | task _ captured => captured.toList
  | _ => value.context?.toList

end Named

end RequestTracing
