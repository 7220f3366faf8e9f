/-!
# Sets of characters

A property of characters is data: a list of ranges of code points, both ends included. The
list is short enough to be searched from the front, and a range that is easy to read off a
published table is easy to check against it.
-/

namespace DiscreetLog.Text

/-- **A set of characters**, as ranges of code points with both ends included. -/
abbrev CharSet := List (Nat × Nat)

/-- Membership: some range holds the character's code point. -/
def CharSet.has (s : CharSet) (c : Char) : Bool :=
  s.any fun r => r.1 ≤ c.toNat && c.toNat ≤ r.2

theorem CharSet.has_iff {s : CharSet} {c : Char} :
    s.has c = true ↔ ∃ r ∈ s, r.1 ≤ c.toNat ∧ c.toNat ≤ r.2 := by
  simp [CharSet.has]

end DiscreetLog.Text
