import Mathlib
import RequestTracing.Trace.Context

/-!
This module contains what holds of every context that was built: its identifiers are those of a
trace and of spans, never the ones that stand for nothing.
-/

namespace RequestTracing

variable {β : Type}

structure TraceContext.Valid (context : TraceContext β) : Prop where
  traceId : context.traceId ≠ .invalid
  spanId : context.spanId ≠ .invalid
  parentId : context.parentId ≠ some .invalid

namespace SpanId

theorem present_ne (id : Option SpanId) : present id ≠ some invalid := by
  intro h
  have := (Option.filter_eq_some_iff.1 h).2
  simp at this

theorem present_of_ne {id : Option SpanId} (h : id ≠ some invalid) : present id = id := by
  cases id with
  | none => rfl
  | some id =>
    unfold present
    rw [Option.filter_some, if_pos]
    simpa using h

end SpanId

namespace ContextBuilder

theorem parentId_set {builder : ContextBuilder β} (h : builder.parentId ≠ some .invalid)
    (setting : ContextSetting β) : (builder.set setting).parentId ≠ some .invalid := by
  cases setting with
  | parentId id => exact SpanId.present_ne id
  | _ => exact h

theorem parentId_setAll {builder : ContextBuilder β} (h : builder.parentId ≠ some .invalid)
    (settings : List (ContextSetting β)) : (builder.setAll settings).parentId ≠ some .invalid := by
  unfold setAll
  induction settings generalizing builder with
  | nil => exact h
  | cons setting settings ih => exact ih (parentId_set h setting)

theorem build_eq_ok_iff {builder : ContextBuilder β} {context : TraceContext β} :
    builder.build = .ok context ↔
      builder.traceId ≠ .invalid ∧ builder.spanId ≠ .invalid ∧ builder.toContext = context := by
  unfold build
  by_cases htrace : builder.traceId = .invalid
  . simp [htrace]
  . by_cases hspan : builder.spanId = .invalid
    . simp [htrace, hspan]
    . simp [htrace, hspan]

theorem toOption_build_eq_some_iff {builder : ContextBuilder β} {context : TraceContext β} :
    builder.build.toOption = some context ↔
      builder.traceId ≠ .invalid ∧ builder.spanId ≠ .invalid ∧ builder.toContext = context := by
  rw [← build_eq_ok_iff]
  cases builder.build <;> simp [Except.toOption]

theorem valid_of_build {builder : ContextBuilder β} (h : builder.parentId ≠ some .invalid)
    {settings : List (ContextSetting β)} {context : TraceContext β}
    (hbuild : (builder.setAll settings).build = .ok context) : context.Valid := by
  obtain ⟨htrace, hspan, rfl⟩ := build_eq_ok_iff.1 hbuild
  exact ⟨htrace, hspan, parentId_setAll h settings⟩

end ContextBuilder

end RequestTracing
