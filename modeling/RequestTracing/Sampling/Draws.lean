/-!
This module contains the source of random numbers: a stream of 64-bit words, of which a prefix has
been used, and the choice of distinct places with its help.
-/

namespace RequestTracing

structure Draws where
  word : Nat → UInt64
  used : Nat

namespace Draws

def mix (x : UInt64) : UInt64 :=
  let x := (x ^^^ (x >>> 30)) * 0xbf58476d1ce4e5b9
  let x := (x ^^^ (x >>> 27)) * 0x94d049bb133111eb
  x ^^^ (x >>> 31)

def ofSeed (seed : UInt64) : Draws where
  word n := mix (seed + UInt64.ofNat (n + 1) * 0x9e3779b97f4a7c15)
  used := 0

instance : Inhabited Draws :=
  ⟨ofSeed 0⟩

def next (draws : Draws) : UInt64 × Draws :=
  (draws.word draws.used, { draws with used := draws.used + 1 })

def choose (draws : Draws) : Nat → List Nat → List Nat × Draws
  | 0, _ => ([], draws)
  | count + 1, places =>
    let (word, draws) := draws.next
    let i := word.toNat % places.length
    match places[i]? with
    | none => ([], draws)
    | some place =>
      let (chosen, draws) := draws.choose count (places.eraseIdx i)
      (place :: chosen, draws)

end Draws

end RequestTracing
