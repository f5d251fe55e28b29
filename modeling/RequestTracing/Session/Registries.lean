import RequestTracing.Session.Reply
import RequestTracing.Session.State

/-!
This module contains the commands on registries that stand alone and on the spans that they track.
-/

namespace RequestTracing

inductive HandlerPlan where
  | made (handler : SpanHandler)
  | orphanTracker (logs : Bool)

inductive RegistryCommand where
  | create (template : List SpanEdit) (handlers : List HandlerPlan) (result : String)
  | getOrCreate (registry : String) (parent : Option String) (context : String) (start : Bool)
      (result : String)
  | get (registry context : String)
  | remove (registry context : String)
  | endSpan (registry context : String) (ending : SpanEnding)
  | sweep (registry : String)
  | setNoop (registry : String) (value : Bool)
  | state (registry : String)
  | record (pending : String) (edits : List SpanEdit)
  | dump (pending : String)
  | same (first second : String)

namespace HandlerPlan

def flushTime : UInt64 :=
  42

def make (template : SpanData) : HandlerPlan → SpanHandler
  | made handler => handler
  | orphanTracker logs => .orphanTracker template (.fixed flushTime) logs

end HandlerPlan

namespace SessionM

def pendingPlace (name : String) : SessionM (Nat × Nat) :=
  find name fun value =>
    match value with
    | .pending registry place => some (registry, place)
    | _ => none

def pendingAt (registry place : Nat) : SessionM PendingSpan := do
  match (← registryAt registry).pendings[place]? with
  | some pending => return pending
  | none => fail (.misnamed (toString place))

def registryReport (place : Nat) : SessionM RegistryReport := do
  return .ofRegistry (← registryAt place)

def foundReport (registry : Nat) (place : Option Nat) : SessionM Reply := do
  match place with
  | none => return .found none
  | some place =>
    let pending ← pendingAt registry place
    return .found (some (.ofPending (← get).alive pending))

end SessionM

namespace RegistryCommand

open SessionM

def run : RegistryCommand → SessionM Reply
  | create template plans result => do
    let template ← require (SpanData.empty.revise template)
    let handlers := plans.map (HandlerPlan.make template)
    let registry := Registry.ofHandlers template handlers Session.clock
    let place := (← MonadState.get).registries.length
    modify fun session => { session with registries := session.registries ++ [registry] }
    define result (.registry place)
    return .chain (.ofChain registry.chain)
  | getOrCreate name parent context start result => do
    let registry ← SessionM.registry name
    let parent ← optionalContext parent
    let source ← SessionM.context context
    let place ← inRegistry registry fun alive heap state =>
      state.getOrCreate alive (parent.map heap.view) source (heap.view source) start
    define result (.pending registry place)
    let pending ← pendingAt registry place
    return .created pending.clock.anchor (← registryReport registry)
      (pending.source.number == source.number)
  | get name context => do
    let registry ← SessionM.registry name
    let key := (← SessionM.context context).context.key
    foundReport registry (← inRegistry registry fun alive _ state => state.get alive key)
  | remove name context => do
    let registry ← SessionM.registry name
    let key := (← SessionM.context context).context.key
    foundReport registry (← inRegistry registry fun alive _ state => state.remove alive key)
  | endSpan name context ending => do
    let registry ← SessionM.registry name
    let source ← SessionM.context context
    inRegistry registry fun alive heap state => ((), state.endSpan alive (heap.view source) ending)
    return .registry (← registryReport registry)
  | sweep name => do
    let registry ← SessionM.registry name
    inRegistry registry fun alive _ state => ((), state.sweep alive)
    return .registry (← registryReport registry)
  | setNoop name value => do
    let registry ← SessionM.registry name
    inRegistry registry fun _ _ state => ((), state.setNoop value, [])
    return .registry (← registryReport registry)
  | state name => do return .registry (← registryReport (← SessionM.registry name))
  | record name edits => do
    let (registry, place) ← pendingPlace name
    return .edits (← inRegistry registry fun _ _ state =>
      let (answers, state) := state.performAll place edits
      (answers, state, []))
  | dump name => do
    let (registry, place) ← pendingPlace name
    return .pending (.ofPending (← MonadState.get).alive (← pendingAt registry place))
  | same first second => do
    let (registry, place) ← pendingPlace first
    let (otherRegistry, otherPlace) ← pendingPlace second
    let clock := (← pendingAt registry place).clock
    let otherClock := (← pendingAt otherRegistry otherPlace).clock
    return .pendingEquality (registry == otherRegistry && place == otherPlace)
      (registry == otherRegistry && clock.number == otherClock.number)

end RegistryCommand

end RequestTracing
