import Mathlib.Tactic.Common

/-!
# Go maps

A map is the list of its entries; Go leaves the order of iteration open, so a
statement about a map should not depend on it.  The equality of keys is a
parameter: for interface keys it is neither decidable equality nor reflexive,
since a NaN is a new key every time it is stored.
-/

namespace Libbinder.Go

variable {K V : Type}

/--
`entries[key] = value`: the entry of an equal key is replaced, together with
its key, and a new key is added.
-/
def assign (same : K → K → Bool) (key : K) (value : V) : List (K × V) → List (K × V)
  | [] => [(key, value)]
  | entry :: rest =>
    if same entry.1 key then (key, value) :: rest
    else entry :: assign same key value rest

/-- A key that equals none of those stored is added at the end. -/
theorem assign_fresh
    {same : K → K → Bool} {key : K} {entries : List (K × V)}
    (fresh : ∀ entry ∈ entries, same entry.1 key = false) (value : V) :
    assign same key value entries = entries ++ [(key, value)] := by
  induction entries with
  | nil => rfl
  | cons entry rest ih =>
    have apart : same entry.1 key = false := fresh entry (by simp)
    have freshRest : ∀ other ∈ rest, same other.1 key = false :=
      fun other mem => fresh other (by simp [mem])
    simp [assign, apart, ih freshRest]

end Libbinder.Go
