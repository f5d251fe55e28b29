/-!
This module contains log records and values that come with the records written while they were
computed.
-/

namespace RequestTracing

inductive LogLevel where
  | debug
  | info
  | warn
  | error
  deriving DecidableEq

namespace LogLevel

def label : LogLevel → String
  | debug => "DEBUG"
  | info => "INFO"
  | warn => "WARN"
  | error => "ERROR"

end LogLevel

inductive LogRecord where
  | event (level : LogLevel) (target name : String) (fields : List (String × String))
  | spanNew (level : LogLevel) (name : String) (fields : List (String × String))
  | spanEnter
  | spanExit
  deriving DecidableEq

namespace LogRecord

def coreTarget : String := "tracekit"

def recorderTarget : String := "tracekit_sdk"

def wireTarget : String := "tracekit-zipkin"

end LogRecord

/--
A value with the log records written while it was computed.
-/
structure Logged (α : Type) where
  value : α
  logs : List LogRecord
  deriving DecidableEq

namespace Logged

variable {α β : Type}

def pure (value : α) : Logged α :=
  ⟨value, []⟩

def bind (x : Logged α) (f : α → Logged β) : Logged β :=
  ⟨(f x.value).value, x.logs ++ (f x.value).logs⟩

instance : Monad Logged where
  pure := Logged.pure
  bind := Logged.bind

def write (record : LogRecord) : Logged Unit :=
  ⟨(), [record]⟩

@[simp]
theorem value_pure (a : α) : (Pure.pure a : Logged α).value = a :=
  rfl

@[simp]
theorem logs_pure (a : α) : (Pure.pure a : Logged α).logs = [] :=
  rfl

@[simp]
theorem value_bind (x : Logged α) (f : α → Logged β) : (x >>= f).value = (f x.value).value :=
  rfl

@[simp]
theorem logs_bind (x : Logged α) (f : α → Logged β) :
    (x >>= f).logs = x.logs ++ (f x.value).logs :=
  rfl

end Logged

end RequestTracing
