import DiscreetLog.Host

/-!
# What an action comes to

An action is a sequence of actions, some of which are tried, and some of which are followed by
what is done in any case. Its result and what it leaves behind are read off its parts by the
rules below. `Keeps f` says that an action leaves one part of the host as it is, whether it fails
or not; that part is a parameter, since the rules are the same for all of them.

`Together R` is the same for two runs. Two actions that start on hosts which go together by `R` come
to one result and leave hosts which go together again. An action that keeps a part goes together
with itself, on any two equal hosts of which that part is given (`keeps_iff_together`).
-/

namespace DiscreetLog

namespace Action

variable {α β γ : Type}

/-- **Two actions come to a result** when the first does and the second does from there. -/
theorem run_bind_eq_ok {x : Action α} {g : α → Action β} {h h' : Host} {b : β} :
    (x >>= g).run h = (.ok b, h')
      ↔ ∃ a k, x.run h = (.ok a, k) ∧ (g a).run k = (.ok b, h') := by
  rw [run_bind]
  rcases x.run h with ⟨failure | a, k⟩
  · refine iff_of_false (fun hr => ?_) fun ⟨_, _, hr, _⟩ => ?_ <;> cases hr
  · refine ⟨fun hr => ⟨a, k, rfl, hr⟩, ?_⟩
    rintro ⟨_, _, hr, hg⟩
    cases hr
    exact hg

/-- What follows on an action that comes to a result. -/
theorem run_bind_of_ok {x : Action α} {g : α → Action β} {h : Host} {a : α}
    (hx : (x.run h).1 = .ok a) : (x >>= g).run h = (g a).run (x.run h).2 := by
  rw [run_bind]
  rcases hr : x.run h with ⟨result, k⟩
  rw [hr] at hx
  cases hx
  rfl

/-- Nothing follows on an action that fails. -/
theorem run_bind_of_error {x : Action α} {g : α → Action β} {h : Host} {failure : Failure}
    (hx : (x.run h).1 = .error failure) : (x >>= g).run h = (.error failure, (x.run h).2) := by
  rw [run_bind]
  rcases hr : x.run h with ⟨result, k⟩
  rw [hr] at hx
  cases hx
  rfl

/-- **What actions come to one after the other**, whether one fails or not. -/
def runEach : List (Action α) → Host → List (Except Failure α) × Host
  | [], h => ([], h)
  | x :: xs, h =>
    let first := x.run h
    let rest := runEach xs first.2
    (first.1 :: rest.1, rest.2)

/-! ## What is left alone -/

/-- **An action leaves a part of the host as it is.** -/
def Keeps (f : Host → γ) (x : Action α) : Prop := ∀ h, f (x.run h).2 = f h

variable {f : Host → γ}

theorem keeps_pure (a : α) : Keeps f (pure a) := fun _ => rfl

theorem keeps_throw (failure : Failure) : Keeps f (throw failure : Action α) := fun _ => rfl

theorem keeps_get : Keeps f (get : Action Host) := fun _ => rfl

/-- Something is read off the host. -/
def look {δ : Type} (read : Host → δ) : Action δ := return read (← get)

theorem keeps_look {δ : Type} (read : Host → δ) : Keeps f (look read) := fun _ => rfl

/-- What keeps a part keeps whatever is read off that part. -/
theorem Keeps.of_part {δ : Type} {x : Action α} (hx : Keeps f x) (g : γ → δ) :
    Keeps (fun h => g (f h)) x := fun h => congrArg g (hx h)

/-- A change of the host that is none of the part. -/
theorem keeps_update {g : Host → Host} (hg : ∀ h, f (g h) = f h) : Keeps f (update g) := hg

theorem keeps_ofExcept (x : Except Failure α) : Keeps f (ofExcept x) := by
  intro h
  rw [run_ofExcept]

/-- **Two actions keep what both keep.** -/
theorem Keeps.bind {x : Action α} {g : α → Action β} (hx : Keeps f x) (hg : ∀ a, Keeps f (g a)) :
    Keeps f (x >>= g) := by
  intro h
  have hx := hx h
  rw [run_bind]
  split
  · rename_i a h' hr
    rw [hr] at hx
    exact (hg a h').trans hx
  · rename_i failure h' hr
    rw [hr] at hx
    exact hx

/-- What is done after a failure keeps what both keep. -/
theorem Keeps.tryCatch {x : Action α} {g : Failure → Action α} (hx : Keeps f x)
    (hg : ∀ failure, Keeps f (g failure)) : Keeps f (tryCatch x g) := by
  intro h
  have hx := hx h
  rw [run_tryCatch]
  split
  · rename_i a h' hr
    rw [hr] at hx
    exact hx
  · rename_i failure h' hr
    rw [hr] at hx
    exact (hg failure h').trans hx

theorem Keeps.ensuring {x : Action α} {g : Host → Host} (hx : Keeps f x)
    (hg : ∀ h, f (g h) = f h) : Keeps f (ensuring x g) := by
  intro h
  rw [run_ensuring]
  exact (hg _).trans (hx h)

theorem Keeps.forM {xs : List α} {g : α → Action Unit} (hg : ∀ a, Keeps f (g a)) :
    Keeps f (xs.forM g) := by
  induction xs with
  | nil => exact keeps_pure ()
  | cons a xs ih => exact (hg a).bind fun _ => ih

theorem keeps_ofNoted (hf : ∀ h notes, f { h with notes := h.notes ++ notes } = f h)
    (x : Noted α) : Keeps f (ofNoted x) := by
  intro h
  rw [run_ofNoted]
  exact hf h x.notes

/-! ## What is led to -/

/-- **An action leads along a relation**, whether it fails or not. -/
def Leads (R : Host → Host → Prop) (x : Action α) : Prop := ∀ h, R h (x.run h).2

section Leads

variable {R : Host → Host → Prop}

/-- **Two actions lead along what both lead along**, one after the other. -/
theorem Leads.bind (htrans : ∀ h k m, R h k → R k m → R h m) {x : Action α}
    {g : α → Action β} (hx : Leads R x) (hg : ∀ a, Leads R (g a)) : Leads R (x >>= g) := by
  intro h
  have hx := hx h
  rw [run_bind]
  rcases hr : x.run h with ⟨failure | a, k⟩ <;> rw [hr] at hx
  · exact hx
  · exact htrans _ _ _ hx (hg a k)

theorem Leads.tryCatch (htrans : ∀ h k m, R h k → R k m → R h m) {x : Action α}
    {g : Failure → Action α} (hx : Leads R x) (hg : ∀ failure, Leads R (g failure)) :
    Leads R (tryCatch x g) := by
  intro h
  have hx := hx h
  rw [run_tryCatch]
  rcases hr : x.run h with ⟨failure | a, k⟩ <;> rw [hr] at hx
  · exact htrans _ _ _ hx (hg failure k)
  · exact hx

end Leads

/-! ## Two runs -/

/-- **Two actions go together**: from hosts that do, they come to the same result, and to hosts
that do. -/
def Together (R : Host → Host → Prop) (x y : Action α) : Prop :=
  ∀ ⦃h k : Host⦄, R h k → (y.run k).1 = (x.run h).1 ∧ R (x.run h).2 (y.run k).2

variable {R : Host → Host → Prop}

theorem together_ofExcept (x : Except Failure α) : Together R (ofExcept x) (ofExcept x) := by
  intro h k hr
  rw [run_ofExcept, run_ofExcept]
  exact ⟨rfl, hr⟩

theorem together_pure (a : α) : Together R (pure a) (pure a) := fun _ _ hr => ⟨rfl, hr⟩

theorem together_throw (failure : Failure) :
    Together R (throw failure : Action α) (throw failure) := fun _ _ hr => ⟨rfl, hr⟩

/-- What is read off hosts that go together has to be the same. -/
theorem together_look {read : Host → α} (hread : ∀ {h k}, R h k → read k = read h) :
    Together R (look read) (look read) := fun _ _ hr => ⟨congrArg Except.ok (hread hr), hr⟩

theorem together_update {f g : Host → Host} (hfg : ∀ {h k}, R h k → R (f h) (g k)) :
    Together R (update f) (update g) := fun _ _ hr => ⟨rfl, hfg hr⟩

/-- Two hosts are checked, and what is done fails on both or goes on. -/
theorem together_unless {closed : Host → Bool} (hclosed : ∀ {h k}, R h k → closed k = closed h)
    (failure : Failure) {x y : Action α} (hxy : Together R x y) :
    Together R (get >>= fun h => if closed h then throw failure else x)
      (get >>= fun h => if closed h then throw failure else y) := by
  intro h k hr
  rw [run_bind, run_bind, run_get, run_get]
  dsimp only
  rw [hclosed hr]
  split
  · exact ⟨rfl, hr⟩
  · exact hxy hr

/-- **Actions that go together go on together.** -/
theorem Together.bind {x y : Action α} {f g : α → Action β} (hxy : Together R x y)
    (hfg : ∀ a, Together R (f a) (g a)) : Together R (x >>= f) (y >>= g) := by
  intro h k hr
  obtain ⟨hresult, hr'⟩ := hxy hr
  rw [run_bind, run_bind]
  rcases hx : x.run h with ⟨failure | a, h'⟩ <;> rcases hy : y.run k with ⟨b, k'⟩ <;>
    rw [hx, hy] at hresult hr' <;> cases hresult
  · exact ⟨rfl, hr'⟩
  · exact hfg a hr'

theorem Together.tryCatch {x y : Action α} {f g : Failure → Action α} (hxy : Together R x y)
    (hfg : ∀ failure, Together R (f failure) (g failure)) :
    Together R (tryCatch x f) (tryCatch y g) := by
  intro h k hr
  obtain ⟨hresult, hr'⟩ := hxy hr
  rw [run_tryCatch, run_tryCatch]
  rcases hx : x.run h with ⟨failure | a, h'⟩ <;> rcases hy : y.run k with ⟨b, k'⟩ <;>
    rw [hx, hy] at hresult hr' <;> cases hresult
  · exact hfg failure hr'
  · exact ⟨rfl, hr'⟩

theorem Together.ensuring {x y : Action α} {f g : Host → Host} (hxy : Together R x y)
    (hfg : ∀ {h k}, R h k → R (f h) (g k)) : Together R (ensuring x f) (ensuring y g) := by
  intro h k hr
  rw [run_ensuring, run_ensuring]
  exact ⟨(hxy hr).1, hfg (hxy hr).2⟩

theorem Together.forM {xs : List α} {f g : α → Action Unit} (hfg : ∀ a, Together R (f a) (g a)) :
    Together R (xs.forM f) (xs.forM g) := by
  induction xs with
  | nil => exact together_pure ()
  | cons a xs ih => exact (hfg a).bind fun _ => ih

theorem together_ofNoted
    (hn : ∀ {h k} (notes : List Note), R h k →
      R { h with notes := h.notes ++ notes } { k with notes := k.notes ++ notes }) (x : Noted α) :
    Together R (ofNoted x) (ofNoted x) := by
  intro h k hr
  rw [run_ofNoted, run_ofNoted]
  exact ⟨rfl, hn x.notes hr⟩

/-- **Keeping a part is going together with oneself** on hosts of which the part is given. -/
theorem keeps_iff_together {x : Action α} :
    Keeps f x ↔ ∀ v, Together (fun h k => h = k ∧ f h = v) x x := by
  constructor
  · rintro hx v h _ ⟨rfl, hv⟩
    exact ⟨rfl, rfl, (hx h).trans hv⟩
  · exact fun hx h => (hx (f h) ⟨rfl, rfl⟩).2.2

end Action

end DiscreetLog
