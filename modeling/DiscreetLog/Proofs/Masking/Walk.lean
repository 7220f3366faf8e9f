import DiscreetLog.Proofs.Masking.Container

/-!
# Where the walk goes

The walk leaves a value alone, cuts it off, or makes the container that it is anew with what the
walk makes of what is in it. Which of the three happens is decided by the value, by the labels
of the containers around it and by the depth that is left (`walk_of_not_isWalked`, `walk_of_cut`,
`walk_of_open`); the rest of the theory of masking reasons from these and never opens the walk
itself.
-/

namespace DiscreetLog

namespace Masking

variable {σ : Objects} {tokens : Tokens}

/-- **A container is cut off**: no depth is left for it, or it lies inside itself. -/
def IsCut (left : Nat) (around : List Label) (label : Option Label) : Prop :=
  left = 0 ∨ label.any around.contains = true

instance (left : Nat) (around : List Label) (label : Option Label) :
    Decidable (IsCut left around label) :=
  inferInstanceAs (Decidable (_ ∨ _))

/-- What is not walked comes out as it is. -/
theorem walk_of_not_isWalked {left : Nat} {around : List Label} {v : Value}
    (hv : ¬ σ.IsWalked v) : walk σ tokens left around v = pure v := by
  unfold walk
  split
  · rfl
  · rename_i label shape h
    exact if_pos (Bool.not_eq_false _ |>.mp fun hs => hv ⟨label, shape, h, hs⟩)

/-- **A container that is cut off becomes the mask.** -/
theorem walk_of_cut {left : Nat} {around : List Label} {v : Value} {label : Option Label}
    {shape : Shape Value} (h : σ.container? v = some (label, shape)) (hs : shape.isClosed = false)
    (hc : IsCut left around label) : walk σ tokens left around v = pure (.text mask) := by
  unfold walk
  simp only [h, hs, Bool.false_eq_true, if_false]
  split
  · rfl
  · rename_i hn
    rcases hc with rfl | hc
    · rfl
    · exact absurd hc hn

/-- **A container that is not cut off is made anew**, with less depth left for what is in it and
its own label among those around. -/
theorem walk_of_open {left : Nat} {around : List Label} {v : Value} {label : Option Label}
    {shape : Shape Value} (h : σ.container? v = some (label, shape)) (hs : shape.isClosed = false)
    (hc : ¬ label.any around.contains = true) :
    walk σ tokens (left + 1) around v
      = container σ tokens (walk σ tokens left (label.toList ++ around)) shape := by
  conv_lhs => unfold walk
  simp only [h, hs, Bool.false_eq_true, if_false, if_neg hc]

/-- **What the walk comes to**, by cases. -/
theorem walk_cases {left : Nat} {around : List Label} {v r : Value}
    (h : (walk σ tokens left around v).result = .ok r) :
    (¬ σ.IsWalked v ∧ r = v)
      ∨ ∃ label shape, σ.container? v = some (label, shape) ∧ shape.isClosed = false
        ∧ ((IsCut left around label ∧ r = .text mask)
          ∨ ∃ n, left = n + 1 ∧ ¬ label.any around.contains = true
            ∧ (container σ tokens (walk σ tokens n (label.toList ++ around)) shape).result
              = .ok r) := by
  by_cases hv : σ.IsWalked v
  · obtain ⟨label, shape, hc, hs⟩ := hv
    refine .inr ⟨label, shape, hc, hs, ?_⟩
    by_cases hcut : IsCut left around label
    · rw [walk_of_cut hc hs hcut, Noted.pure_eq_ok] at h
      exact .inl ⟨hcut, h.symm⟩
    · have hl : ¬ label.any around.contains = true := fun hl => hcut (.inr hl)
      obtain ⟨n, rfl⟩ := Nat.exists_eq_succ_of_ne_zero fun h0 => hcut (.inl h0)
      rw [walk_of_open hc hs hl] at h
      exact .inr ⟨n, rfl, hl, h⟩
  · rw [walk_of_not_isWalked hv, Noted.pure_eq_ok] at h
    exact .inl ⟨hv, h.symm⟩

/-- A container made anew is an attribute only if it was one. -/
theorem attr?_container {inside : Value → Noted Value} {shape : Shape Value} {r : Value}
    (h : (container σ tokens inside shape).result = .ok r)
    (hs : ∀ key v, shape ≠ .attr key v) : σ.attr? r = none := by
  rcases remade_of_container h with ⟨-, rfl⟩ | ⟨shape', rfl, hr⟩
  · rfl
  · cases hr with
    | attr => exact absurd rfl (hs _ _)
    | nested hn => obtain ⟨-, _, -, rfl | rfl⟩ := Objects.nested?_eq_some.mp hn <;> rfl
    | _ => rfl

/-- **The walk leaves atoms as they are and makes no attribute of anything else.** -/
theorem faithful_walk (left : Nat) (around : List Label) :
    Faithful σ (walk σ tokens left around) where
  atom label a := by rw [walk_of_not_isWalked (Objects.not_isWalked_atom label a)]; rfl
  attr v w h hv := by
    rcases walk_cases h with ⟨-, rfl⟩ | ⟨label, shape, hc, -, ⟨-, rfl⟩ | ⟨n, -, -, hn⟩⟩
    · exact hv
    · rfl
    · refine attr?_container hn fun key w' hk => ?_
      subst hk
      rw [Objects.attr?_eq_some (a := ⟨key, w'⟩) |>.mpr ⟨label, hc⟩] at hv
      cases hv

/-- **A masked attribute list** has the attributes of the list one by one, each masked. -/
theorem attrs_eq_ok {maxDepth : Int} {as bs : List Attr} (ht : tokens ≠ []) :
    (attrs σ tokens maxDepth as).result = .ok bs
      ↔ List.Forall₂ (fun a b => b.key = a.key
        ∧ Put σ tokens (walk σ tokens maxDepth.toNat []) (.attr a.key) a.value b.value) as bs := by
  have he : tokens.isEmpty = false := by simpa using ht
  rw [attrs, he, if_neg Bool.false_ne_true, Noted.mapM_eq_ok]
  constructor
  · exact fun h => h.imp fun _ _ hb => (attrWith_eq_ok σ).mp hb
  · exact fun h => h.imp fun _ _ hb => (attrWith_eq_ok σ).mpr hb

end Masking

end DiscreetLog
