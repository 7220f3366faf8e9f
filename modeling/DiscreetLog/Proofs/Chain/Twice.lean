import DiscreetLog.Proofs.Chain.Stage
import DiscreetLog.Proofs.Masking.Twice

/-!
# One masking stage is as good as two

A stage below another one with the same policy finds everything masked. It hands on what it is
given and makes no notes, so two such stages do with an event, and with attributes that are bound,
what one of them does.
-/

namespace DiscreetLog

/-- A host with no more notes. -/
theorem Host.noted_nil (h : Host) : h.noted [] = h := by
  rw [noted, List.append_nil]

namespace Noted

variable {α β : Type}

/-- **What goes on from a result** need only be known for the result that there is. -/
theorem bind_congr_of_ok {x : Noted α} {f g : α → Noted β}
    (h : ∀ a, x.result = .ok a → f a = g a) : x >>= f = x >>= g := by
  cases hx : x.result with
  | ok a => rw [bind_of_ok hx, bind_of_ok hx, h a hx]
  | error failure => rw [bind_of_error hx, bind_of_error hx]

end Noted

namespace Chain

variable {p : Policy}

open Masking (Lasting)

/-- Two stages with one policy handle an event as one of them does. -/
theorem run_handle_masking_masking (hp : p.scrubber = none) {h : Host} {e : Event}
    (hs : Lasting h.objects p.tokens p.maxDepth e.attrs) (deliver : Event → Sink → Action Unit)
    (inner : Chain) :
    (handle deliver e (.masking p (.masking p inner))).run h
      = (handle deliver e (.masking p inner)).run h := by
  rw [run_handle_masking hp, run_handle_masking hp]
  cases hr : (p.attrs h.objects e.attrs).result with
  | error failure => rfl
  | ok bs =>
    have hbs : p.attrs (h.noted (p.attrs h.objects e.attrs).notes).objects bs = pure bs :=
      Masking.attrs_eq_pure hs hr
    dsimp only
    rw [run_handle_masking hp, hbs, Noted.result_pure, Noted.notes_pure, Host.noted_nil]

/-- Two stages with one policy are bound attributes as one of them is. -/
theorem bind_masking_masking {σ : Objects} {as : List Attr}
    (hs : Lasting σ p.tokens p.maxDepth as) (inner : Chain) :
    bind σ as (.masking p (.masking p inner))
      = do return .masking p (← bind σ as (.masking p inner)) := by
  rw [bind_masking, bind_masking, bind_assoc]
  refine Noted.bind_congr_of_ok fun bs hbs => ?_
  have hbs : p.attrs σ bs = pure bs := Masking.attrs_eq_pure hs hbs
  rw [bind_masking, hbs, pure_bind]

end Chain

end DiscreetLog
