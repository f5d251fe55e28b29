import RequestTracing.Text.Lowercase

/-!
This module contains the carrier of propagated values: a map of text keys to text values, such as
the headers of a request. Main statement: a key that was set is found again under any spelling with
the same lower-case form, and other keys keep their value.
-/

namespace RequestTracing

structure Carrier where
  entries : List (String × String)
  deriving DecidableEq

namespace Carrier

def empty : Carrier :=
  ⟨[]⟩

def putEntry (key value : String) : List (String × String) → List (String × String)
  | [] => [(key, value)]
  | (k, v) :: rest => if k = key then (k, value) :: rest else (k, v) :: putEntry key value rest

def find? (carrier : Carrier) (key : String) : Option String :=
  carrier.entries.lookup key

def put (carrier : Carrier) (key value : String) : Carrier :=
  ⟨putEntry key value carrier.entries⟩

def set (carrier : Carrier) (key value : String) : Carrier :=
  carrier.put (Text.lowercase key) value

def get? (carrier : Carrier) (key : String) : Option String :=
  carrier.find? (Text.lowercase key)

def keys (carrier : Carrier) : List String :=
  carrier.entries.map (·.1)

def setAll (carrier : Carrier) (calls : List (String × String)) : Carrier :=
  calls.foldl (fun carrier call => carrier.set call.1 call.2) carrier

theorem find?_put (carrier : Carrier) (key value other : String) :
    (carrier.put key value).find? other =
      if key = other then some value else carrier.find? other := by
  obtain ⟨entries⟩ := carrier
  simp only [put, find?]
  induction entries with
  | nil =>
    by_cases h : key = other
    . subst h
      simp [putEntry]
    . have : (other == key) = false := by simpa using Ne.symm h
      simp [putEntry, List.lookup_cons, this, h]
  | cons entry rest ih =>
    obtain ⟨k, v⟩ := entry
    by_cases hk : k = key
    . subst hk
      by_cases h : k = other
      . subst h
        simp [putEntry]
      . have : (other == k) = false := by simpa using Ne.symm h
        simp [putEntry, List.lookup_cons, this, h]
    . by_cases h : other = k
      . subst h
        simp [putEntry, hk, Ne.symm hk]
      . have : (other == k) = false := by simpa using h
        simp [putEntry, hk, List.lookup_cons, this, ih]

theorem get?_set (carrier : Carrier) (key value other : String) :
    (carrier.set key value).get? other =
      if Text.lowercase key = Text.lowercase other then some value else carrier.get? other :=
  find?_put carrier _ value _

end Carrier

end RequestTracing
