import RequestTracing.Session.Value

/-!
This module contains what a session tells about each of its steps besides the answer: log records
and events. Orphans that are reported one after the other come in the order of their identifiers.
-/

namespace RequestTracing

inductive SessionEvent where
  | scope (event : ScopeEvent ContextInstance)
  | correlationFields (fields : List CorrelationField)
  | call (call : HandlerCall)

inductive JournalEntry where
  | log (record : LogRecord)
  | event (event : SessionEvent)

namespace Journal

variable {α : Type}

/--
Sorts every stretch of consecutive items with a property. `stretch` holds the items of the stretch
that were read.
-/
def sortStretches (within : α → Bool) (le : α → α → Bool) (stretch : List α) : List α → List α
  | [] => stretch.mergeSort le
  | item :: rest =>
    if within item then
      sortStretches within le (stretch ++ [item]) rest
    else
      stretch.mergeSort le ++ item :: sortStretches within le [] rest

def pairLe (a b : String × String) : Bool :=
  a.1 < b.1 || (a.1 == b.1 && a.2 ≤ b.2)

def orphanIds? : LogRecord → Option (String × String)
  | .event _ _ name fields =>
    if name = "PendingSpans.Orphaned" ∨ name = "OrphanTracker.SpanOrphaned" then
      some ((fields.lookup "trace_id").getD "", (fields.lookup "span_id").getD "")
    else
      none
  | _ => none

def settleLogs (records : List LogRecord) : List LogRecord :=
  sortStretches (fun record => (orphanIds? record).isSome)
    (fun a b => pairLe ((orphanIds? a).getD ("", "")) ((orphanIds? b).getD ("", ""))) [] records

def orphanId? : SessionEvent → Option String
  | .call call => if call.occasion = .ending .orphaned then some call.context.key.toText else none
  | _ => none

def settleEvents (events : List SessionEvent) : List SessionEvent :=
  sortStretches (fun event => (orphanId? event).isSome)
    (fun a b => decide ((orphanId? a).getD "" ≤ (orphanId? b).getD "")) [] events

def settleEnded (ended : List (SpanData × Cause)) : List (SpanData × Cause) :=
  let key (entry : SpanData × Cause) : String × String :=
    (entry.1.traceId.getD "", entry.1.id.getD "" ++ if entry.1.shared then "/shared" else "")
  sortStretches (fun entry => entry.2 = .orphaned) (fun a b => pairLe (key a) (key b)) [] ended

/--
Holds for events that a session tells: calls of handlers that keep quiet are left out.
-/
def isTold : SessionEvent → Bool
  | .scope _ => true
  | .correlationFields _ => true
  | .call call =>
    match call.handler, call.occasion with
    | .supplied _ _, _ => true
    | .encoding _ _ _, .ending _ => true
    | _, _ => false

def logs (entries : List JournalEntry) : List LogRecord :=
  settleLogs <| entries.reverse.filterMap fun entry =>
    match entry with
    | .log record => some record
    | .event _ => none

def events (entries : List JournalEntry) : List SessionEvent :=
  settleEvents <| entries.reverse.filterMap fun entry =>
    match entry with
    | .event event => if isTold event then some event else none
    | .log _ => none

end Journal

end RequestTracing
