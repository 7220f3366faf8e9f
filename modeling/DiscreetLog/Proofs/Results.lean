import DiscreetLog.Noted
import Mathlib.Data.List.Forall2

/-!
# What comes out of a computation step by step

A computation over a list – the items of a sequence, the entries of a mapping – comes to a
result exactly where every one of its steps does, and the result is then that of the steps one
by one. Masking and rendering both are such computations, one with notes and one without, so
what is said here of the one without notes is carried over to the other by `result_mapM`.
-/

namespace DiscreetLog

/-- Where each item of a list goes with something, the list goes with a list. -/
theorem exists_forall₂ {α β : Type} {R : α → β → Prop} {xs : List α}
    (h : ∀ x ∈ xs, ∃ y, R x y) : ∃ ys, List.Forall₂ R xs ys := by
  induction xs with
  | nil => exact ⟨[], .nil⟩
  | cons x xs ih =>
    obtain ⟨y, hy⟩ := h x List.mem_cons_self
    obtain ⟨ys, hys⟩ := ih fun z hz => h z (List.mem_cons_of_mem x hz)
    exact ⟨y :: ys, .cons hy hys⟩

/-- Of two lists that go together, each item of the first goes with one of the second. -/
theorem exists_mem_right {α β : Type} {R : α → β → Prop} {xs : List α} {ys : List β}
    (h : List.Forall₂ R xs ys) {x : α} (hx : x ∈ xs) : ∃ y ∈ ys, R x y := by
  induction h with
  | nil => cases hx
  | cons hr _ ih =>
    rcases List.mem_cons.mp hx with rfl | hx
    · exact ⟨_, List.mem_cons_self, hr⟩
    · obtain ⟨y, hy, hr⟩ := ih hx
      exact ⟨y, List.mem_cons_of_mem _ hy, hr⟩

/-- Of two lists that go together, each item of the second goes with one of the first. -/
theorem exists_mem_left {α β : Type} {R : α → β → Prop} {xs : List α} {ys : List β}
    (h : List.Forall₂ R xs ys) {y : β} (hy : y ∈ ys) : ∃ x ∈ xs, R x y :=
  exists_mem_right h.flip hy

/-- Of two lists that go together, items go together position by position. -/
theorem exists_getElem?_left {α β : Type} {R : α → β → Prop} {xs : List α} {ys : List β}
    (h : List.Forall₂ R xs ys) {i : Nat} {y : β} (hy : ys[i]? = some y) :
    ∃ x, xs[i]? = some x ∧ R x y := by
  induction h generalizing i with
  | nil => cases hy
  | @cons x y' _ _ hr _ ih =>
    cases i with
    | zero =>
      cases hy
      exact ⟨x, rfl, hr⟩
    | succ i => exact ih hy

/-- What goes with the items of two lists in a row goes with those of the first, and then with
those of the second. -/
theorem exists_eq_append {α β : Type} {R : α → β → Prop} {xs xs' : List α} {zs : List β}
    (h : List.Forall₂ R (xs ++ xs') zs) :
    ∃ ys ys', zs = ys ++ ys' ∧ List.Forall₂ R xs ys ∧ List.Forall₂ R xs' ys' :=
  ⟨zs.take xs.length, zs.drop xs.length, (List.take_append_drop _ _).symm,
    (List.forall₂_take_append _ _ _ h.flip).flip, (List.forall₂_drop_append _ _ _ h.flip).flip⟩

/-- Lists that go together one after the other go together. -/
theorem forall₂_trans {α β γ : Type} {R : α → β → Prop} {S : β → γ → Prop} {T : α → γ → Prop}
    (hT : ∀ x y z, R x y → S y z → T x z) {xs : List α} {ys : List β} {zs : List γ}
    (h : List.Forall₂ R xs ys) (h' : List.Forall₂ S ys zs) : List.Forall₂ T xs zs := by
  induction h generalizing zs with
  | nil =>
    cases h'
    exact .nil
  | cons hr _ ih =>
    cases h' with
    | cons hs h' => exact .cons (hT _ _ _ hr hs) (ih h')

/-- Lists whose items go together by way of something go together by way of a list. -/
theorem exists_forall₂_between {α β γ : Type} {R : α → β → Prop} {S : β → γ → Prop} {xs : List α}
    {zs : List γ} (h : List.Forall₂ (fun x z => ∃ y, R x y ∧ S y z) xs zs) :
    ∃ ys, List.Forall₂ R xs ys ∧ List.Forall₂ S ys zs := by
  induction h with
  | nil => exact ⟨[], .nil, .nil⟩
  | cons hy _ ih =>
    obtain ⟨y, hr, hs⟩ := hy
    obtain ⟨ys, hrs, hss⟩ := ih
    exact ⟨y :: ys, .cons hr hrs, .cons hs hss⟩

/-- Lists that go together item by item are the same in what the items have in common. -/
theorem map_eq_map_of_forall₂ {α β γ : Type} {R : α → β → Prop} {f : α → γ} {g : β → γ}
    {xs : List α} {ys : List β} (h : List.Forall₂ (fun x y => g y = f x ∧ R x y) xs ys) :
    ys.map g = xs.map f := by
  rw [← List.forall₂_eq_eq_eq, List.forall₂_map_left_iff, List.forall₂_map_right_iff]
  exact (h.imp fun _ _ hr => hr.1).flip

/-- **Computations that go together pairwise go together as a list.** -/
theorem mapM_congr {m : Type → Type} [Monad m] [LawfulMonad m] {α β γ : Type} {f : α → m γ}
    {g : β → m γ} {xs : List α} {ys : List β} (h : List.Forall₂ (fun x y => f x = g y) xs ys) :
    xs.mapM f = ys.mapM g := by
  induction h with
  | nil => rfl
  | cons hxy _ ih => rw [List.mapM_cons, List.mapM_cons, hxy, ih]

/-- **Computations that leave their values alone leave the list alone.** -/
theorem mapM_eq_pure {m : Type → Type} [Monad m] [LawfulMonad m] {α : Type} {f : α → m α}
    {xs : List α} (h : ∀ x ∈ xs, f x = pure x) : xs.mapM f = pure xs := by
  induction xs with
  | nil => rfl
  | cons x xs ih =>
    have hxs : xs.mapM f = pure xs := ih fun y hy => h y (List.mem_cons_of_mem x hy)
    rw [List.mapM_cons, h x List.mem_cons_self, hxs, pure_bind, pure_bind]

namespace Results

variable {ε α β γ : Type}

/-- **Two steps come to a result** when the first does and the second does from there. -/
theorem bind_eq_ok {x : Except ε α} {f : α → Except ε β} {b : β} :
    x >>= f = .ok b ↔ ∃ a, x = .ok a ∧ f a = .ok b := by
  cases x <;> simp [bind, Except.bind]

/-- A result that is used for what is made of it. -/
theorem map_eq_ok {x : Except ε α} {f : α → β} {b : β} :
    (x >>= fun a => pure (f a)) = .ok b ↔ ∃ a, x = .ok a ∧ f a = b := by
  cases x <;> simp [bind, Except.bind, pure, Except.pure]

/-- **A list of steps comes to a list of results** when each step comes to its own. -/
theorem mapM_eq_ok {f : α → Except ε β} {xs : List α} {ys : List β} :
    xs.mapM f = .ok ys ↔ List.Forall₂ (fun x y => f x = .ok y) xs ys := by
  induction xs generalizing ys with
  | nil => cases ys <;> simp [pure, Except.pure]
  | cons x xs ih =>
    rw [List.mapM_cons, bind_eq_ok, List.forall₂_cons_left_iff]
    constructor
    · rintro ⟨y, hy, hr⟩
      obtain ⟨zs, hzs, rfl⟩ := map_eq_ok.mp hr
      exact ⟨y, zs, hy, ih.mp hzs, rfl⟩
    · rintro ⟨y, zs, hy, hzs, rfl⟩
      exact ⟨y, hy, map_eq_ok.mpr ⟨zs, ih.mpr hzs, rfl⟩⟩

/-- **What is made of each result** is made of the list of them. -/
theorem mapM_map (f : α → Except ε β) (g : β → γ) (xs : List α) :
    (xs.mapM fun x => (f x).map g) = (xs.mapM f).map (List.map g) := by
  induction xs with
  | nil => rfl
  | cons x xs ih =>
    rw [List.mapM_cons, List.mapM_cons, ih]
    cases f x with
    | error e => rfl
    | ok y => cases xs.mapM f <;> rfl

end Results

namespace Noted

variable {α β γ : Type}

/-- **The results of a list of computations do not depend on their notes.** -/
@[simp] theorem result_mapM (f : α → Noted β) (xs : List α) :
    (xs.mapM f).result = xs.mapM fun x => (f x).result := by
  induction xs with
  | nil => rfl
  | cons x xs ih => simp only [List.mapM_cons, result_bind, ih, result_pure]; rfl

theorem pure_eq_ok {a b : α} : (pure a : Noted α).result = .ok b ↔ a = b := by
  rw [result_pure, Except.ok.injEq]

/-- **Two computations come to a result** when the first does and the second does from there. -/
theorem bind_eq_ok {x : Noted α} {f : α → Noted β} {b : β} :
    (x >>= f).result = .ok b ↔ ∃ a, x.result = .ok a ∧ (f a).result = .ok b := by
  rw [result_bind, Results.bind_eq_ok]

/-- A result that is used for what is made of it. -/
theorem map_eq_ok {x : Noted α} {f : α → β} {b : β} :
    (x >>= fun a => pure (f a)).result = .ok b ↔ ∃ a, x.result = .ok a ∧ f a = b := by
  simp only [bind_eq_ok, pure_eq_ok]

/-- **A list of computations comes to a list of results** when each comes to its own. -/
theorem mapM_eq_ok {f : α → Noted β} {xs : List α} {ys : List β} :
    (xs.mapM f).result = .ok ys ↔ List.Forall₂ (fun x y => (f x).result = .ok y) xs ys := by
  rw [result_mapM, Results.mapM_eq_ok]

/-- A computation that comes to a result goes on with it. -/
theorem bind_of_ok {x : Noted α} {a : α} (h : x.result = .ok a) (f : α → Noted β) :
    x >>= f = ⟨x.notes ++ (f a).notes, (f a).result⟩ := by
  simp only [Bind.bind, h]

/-- A computation that fails ends there. -/
theorem bind_of_error {x : Noted α} {failure : Failure} (h : x.result = .error failure)
    (f : α → Noted β) : x >>= f = ⟨x.notes, .error failure⟩ := by
  simp only [Bind.bind, h]

/-- **A computation that fails in certain ways only**, if it fails. -/
def FailsOnly (P : Failure → Prop) (x : Noted α) : Prop :=
  ∀ failure, x.result = .error failure → P failure

variable {P : Failure → Prop}

theorem failsOnly_pure (a : α) : FailsOnly P (pure a) := nofun

theorem failsOnly_fail {failure : Failure} (h : P failure) :
    FailsOnly P (fail failure : Noted α) := by
  rintro _ ⟨⟩
  exact h

/-- **Two computations fail in the ways in which either does.** -/
theorem FailsOnly.bind {x : Noted α} {f : α → Noted β} (hx : FailsOnly P x)
    (hf : ∀ a, FailsOnly P (f a)) : FailsOnly P (x >>= f) := by
  intro failure h
  rw [result_bind] at h
  cases hr : x.result with
  | error e =>
    rw [hr] at h
    cases h
    exact hx _ hr
  | ok a =>
    rw [hr] at h
    exact hf a _ h

/-- **A list of computations fails in the ways in which one of them does.** -/
theorem FailsOnly.mapM {f : α → Noted β} {xs : List α} (h : ∀ x ∈ xs, FailsOnly P (f x)) :
    FailsOnly P (xs.mapM f) := by
  induction xs with
  | nil => exact failsOnly_pure []
  | cons x xs ih =>
    rw [List.mapM_cons]
    refine (h x List.mem_cons_self).bind fun y => ?_
    exact (ih fun z hz => h z (List.mem_cons_of_mem x hz)).bind fun _ => failsOnly_pure _

end Noted

end DiscreetLog
