/-!
# Members in order

A rendered object and a payload are lists of named members. A name is there at most once, and
the members stand in the order in which their names first came: giving a name a new value
changes the value in place.
-/

namespace DiscreetLog.Ordered

variable {α : Type}

/-- **A name is given a value**: in place if the name is there, at the end if it is not. -/
def assign (name : String) (value : α) : List (String × α) → List (String × α)
  | [] => [(name, value)]
  | (n, v) :: rest => if n = name then (name, value) :: rest else (n, v) :: assign name value rest

/-- The members that come of giving names their values one after the other. -/
def ofPairs (pairs : List (String × α)) : List (String × α) :=
  pairs.foldl (fun members p => assign p.1 p.2 members) []

/-- **After an assignment the name has its value.** -/
@[simp] theorem lookup_assign_self (name : String) (value : α) (members : List (String × α)) :
    (assign name value members).lookup name = some value := by
  induction members with
  | nil => simp [assign]
  | cons m rest ih =>
    obtain ⟨n, v⟩ := m
    by_cases h : n = name
    · simp [assign, h]
    · have h' : (name == n) = false := by simpa using fun e => h e.symm
      simp [assign, h, List.lookup_cons, h', ih]

/-- **An assignment leaves every other name alone.** -/
theorem lookup_assign_of_ne {name other : String} (h : other ≠ name) (value : α)
    (members : List (String × α)) :
    (assign name value members).lookup other = members.lookup other := by
  have ho : (other == name) = false := by simpa using h
  induction members with
  | nil => simpa [assign] using h
  | cons m rest ih =>
    obtain ⟨n, v⟩ := m
    by_cases hn : n = name
    · subst hn
      simp [assign, List.lookup_cons, ho]
    · simp only [assign, hn, if_false, List.lookup_cons]
      rw [ih]

end DiscreetLog.Ordered
