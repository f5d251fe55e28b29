import RequestTracing.Trace.Error

/-!
This module contains the bookkeeping of instances that insist on scopes being closed: each scope
that opens is noted with a label, and the note is struck out when the scope closes.
-/

namespace RequestTracing

structure ScopeRegister where
  nextTicket : Nat
  opened : List (Nat × String)
  deriving DecidableEq

namespace ScopeRegister

def empty : ScopeRegister :=
  ⟨0, []⟩

instance : Inhabited ScopeRegister :=
  ⟨empty⟩

def enter (register : ScopeRegister) (label : String) : Nat × ScopeRegister :=
  (register.nextTicket,
    ⟨register.nextTicket + 1, (register.nextTicket, label) :: register.opened⟩)

def strikeEntry (ticket : Nat) : List (Nat × String) → List (Nat × String)
  | [] => []
  | entry :: rest => if entry.1 = ticket then rest else entry :: strikeEntry ticket rest

def strike (register : ScopeRegister) (ticket : Nat) : ScopeRegister :=
  { register with opened := strikeEntry ticket register.opened }

def labels (register : ScopeRegister) : List String :=
  (register.opened.map (·.2)).mergeSort fun a b => decide (a ≤ b)

def checkNoLeaks (register : ScopeRegister) : Except TraceError Unit :=
  if register.opened.isEmpty then .ok () else .error (.leakedScopes register.labels)

end ScopeRegister

end RequestTracing
