/-!
This module contains the clock of the platform and the clocks that are anchored to one of its
readings. The spans of one local trace share such a clock, so that their times agree with each
other.
-/

namespace RequestTracing

/--
The clock of the platform, given by its readings in order, and the number of those taken.
-/
structure PlatformClock where
  reading : Nat → UInt64
  taken : Nat

namespace PlatformClock

def fixed (time : UInt64) : PlatformClock :=
  ⟨fun _ => time, 0⟩

def stepping (start step : Nat) : PlatformClock :=
  ⟨fun n => UInt64.ofNat (start + (n + 1) * step), 0⟩

def read (clock : PlatformClock) : UInt64 × PlatformClock :=
  (clock.reading clock.taken, { clock with taken := clock.taken + 1 })

end PlatformClock

/--
A clock that is anchored to a reading of the platform, which its number tells apart from others.
-/
structure TickClock where
  number : Nat
  anchor : UInt64
  deriving DecidableEq

namespace TickClock

def anchored (platform : PlatformClock) : TickClock × PlatformClock :=
  let (time, read) := platform.read
  (⟨platform.taken, time⟩, read)

def now (clock : TickClock) : UInt64 :=
  clock.anchor

end TickClock

end RequestTracing
