import DiscreetLog.Failure
import DiscreetLog.Level

/-!
# Computations that leave notes

Masking a value may have to give something up on its way – an object that cannot be copied, a
sequence that cannot be rebuilt – and says so in a note. It may also fail, and the notes made
before it failed remain. `Noted` is a result together with the notes that were made, and
`result_bind` separates the two again: what comes out never depends on the notes.
-/

namespace DiscreetLog

/-- **A result, and the notes made on the way to it.** -/
structure Noted (α : Type) where
  notes : List Note
  result : Except Failure α

namespace Noted

variable {α β : Type}

instance : Monad Noted where
  pure a := ⟨[], .ok a⟩
  bind x f :=
    match x.result with
    | .error e => ⟨x.notes, .error e⟩
    | .ok a => ⟨x.notes ++ (f a).notes, (f a).result⟩

/-- A note is made. -/
def note (n : Note) : Noted Unit := ⟨[n], .ok ()⟩

/-- The computation fails. -/
def fail (e : Failure) : Noted α := ⟨[], .error e⟩

@[simp] theorem result_pure (a : α) : (pure a : Noted α).result = .ok a := rfl

@[simp] theorem notes_pure (a : α) : (pure a : Noted α).notes = [] := rfl

/-- **Results compose without regard to notes.** -/
@[simp] theorem result_bind (x : Noted α) (f : α → Noted β) :
    (x >>= f).result = x.result >>= fun a => (f a).result := by
  obtain ⟨notes, r⟩ := x
  cases r <;> rfl

@[simp] theorem result_note (n : Note) : (note n).result = .ok () := rfl

@[simp] theorem result_fail (e : Failure) : (fail e : Noted α).result = .error e := rfl

/-- Leaving a result alone leaves the computation alone. -/
theorem map_id (x : Noted α) : id <$> x = x := by
  obtain ⟨notes, _ | _⟩ := x <;> simp [Functor.map]

/-- Steps may be grouped in either way. -/
theorem bind_assoc {γ : Type} (x : Noted α) (f : α → Noted β) (g : β → Noted γ) :
    x >>= f >>= g = x >>= fun a => f a >>= g := by
  obtain ⟨notes, _ | a⟩ := x
  · rfl
  · simp only [bind]
    split <;> simp

instance : LawfulMonad Noted :=
  LawfulMonad.mk' Noted map_id (fun _ _ => by simp [bind, pure]) bind_assoc

end Noted

end DiscreetLog
