import DiscreetLog.Proofs.Chain.Derivation
import DiscreetLog.Proofs.Chain.Stage
import DiscreetLog.Proofs.Host.Orderly
import DiscreetLog.Proofs.Payload.Rendered

/-!
# What a masking stage lets into a line

A stage above a sink that writes structured lines, and every chain that is derived from it, binds
and hands on masked attributes only. A line that is written is then the text of a tree in which a
member under a sensitive name is hidden – it is the mask, or the tree of the blank of what was given
there – unless it is one that masking is not made for.
-/

namespace DiscreetLog

open Json (Step)

namespace Sink

/-- The scope of a sink that writes an event as one structured line. -/
def lineScope? : Sink → Option Scope
  | .structured scope _ | .shipping scope _ => some scope
  | _ => none

/-- **What such a sink does with the line of an event.** -/
def putLine (e : Event) (line : String) : Sink → Action Unit
  | .structured _ w => whileWriting (w.writeLine line)
  | .shipping _ t => whileWriting do t.send (← Action.ofExcept e.time.millis) line
  | _ => pure ()

variable {s : Sink} {scope : Scope} {talk : String → Foreign → Action Unit} {e : Event}

/-- The line of a payload is used for what is done with it, if there is one. -/
theorem run_line (payload : Payload) (k : String → Action Unit) (h : Host) :
    (do k (← Action.ofExcept (payload.structuredLine (← get).objects)) : Action Unit).run h
      = match payload.render h.objects with
        | .ok j => (k (j.toText .spaced)).run h
        | .error failure => (.error failure, h) := by
  rw [Action.run_bind, Action.run_get]
  dsimp only
  rw [Action.run_bind, Action.run_ofExcept, Payload.structuredLine]
  cases payload.render h.objects <;> rfl

/-- **A sink that handles an event puts down its line**, the text of the tree of its payload. -/
theorem exists_line_of_deliver (hs : s.lineScope? = some scope) {h h' : Host}
    (hr : (deliver talk e s).run h = (.ok (), h')) :
    ∃ j, (Payload.ofEvent scope e).render h.objects = .ok j
      ∧ (s.putLine e (j.toText .spaced)).run h = (.ok (), h') := by
  cases s with
  | structured scope' w =>
    cases hs
    unfold deliver at hr
    rw [run_whileWriting, run_line _ w.writeLine] at hr
    cases hj : (Payload.ofEvent scope e).render h.objects with
    | ok j =>
      rw [hj] at hr
      refine ⟨j, rfl, ?_⟩
      rw [putLine, run_whileWriting]
      exact hr
    | error failure =>
      rw [hj] at hr
      cases hr
  | shipping scope' t =>
    cases hs
    unfold deliver at hr
    rw [run_whileWriting, Action.run_bind, Action.run_ofExcept] at hr
    cases hm : e.time.millis with
    | error failure =>
      rw [hm] at hr
      cases hr
    | ok timestamp =>
      rw [hm] at hr
      dsimp only at hr
      rw [run_line _ (t.send timestamp)] at hr
      cases hj : (Payload.ofEvent scope e).render h.objects with
      | ok j =>
        rw [hj] at hr
        refine ⟨j, rfl, ?_⟩
        rw [putLine, run_whileWriting, Action.run_bind, Action.run_ofExcept, hm]
        exact hr
      | error failure =>
        rw [hj] at hr
        cases hr
  | _ => cases hs

/-- Attributes are bound in the scope of a sink. -/
theorem lineScope?_bind (as : List Attr) (hs : s.lineScope? = some scope) :
    (s.bind as).lineScope? = some (scope.bind as) := by
  cases s with
  | structured | shipping =>
    cases hs
    rfl
  | _ => cases hs

/-- Groups are opened in the scope of a sink. -/
theorem lineScope?_openGroup (name : String) (hs : s.lineScope? = some scope) :
    (s.openGroup name).lineScope? = some (scope.openGroup name) := by
  cases s with
  | structured | shipping =>
    cases hs
    rfl
  | _ => cases hs

end Sink

namespace Chain

open Masking (MaskedAttr)
open Payload (MaskedScope Given openedIn)

variable {σ : Objects} {p : Policy}

/-- A stage hands on the attributes of an event masked. -/
theorem maskedAttr_of_apply (ht : p.tokens ≠ []) {e e' : Event}
    (h : (p.apply σ e).result = .ok e') :
    List.Forall₂ (MaskedAttr σ p.tokens) e.attrs e'.attrs := by
  have he : ¬ (p.tokens.isEmpty && p.scrubber.isNone) = true := by simp [ht]
  rw [Policy.apply, if_neg he] at h
  cases hp : p.scrubber with
  | none =>
    rw [hp] at h
    obtain ⟨_, -, h⟩ := Noted.bind_eq_ok.mp h
    obtain ⟨bs, hbs, rfl⟩ := Noted.map_eq_ok.mp h
    exact Masking.maskedAttr_of_attrs ht hbs
  | some s =>
    rw [hp] at h
    obtain ⟨_, -, h⟩ := Noted.bind_eq_ok.mp h
    obtain ⟨bs, hbs, rfl⟩ := Noted.map_eq_ok.mp h
    exact Masking.maskedAttr_of_attrs ht hbs

/-- **What is bound masked is what is bound, masked.** -/
theorem maskedScope_bind {s t : Scope} (hs : MaskedScope σ p.tokens s t) {as bs : List Attr}
    (hb : List.Forall₂ (MaskedAttr σ p.tokens) as bs) :
    MaskedScope σ p.tokens (s.bind as) (t.bind bs) := by
  cases hb with
  | nil => exact hs
  | cons hb hbs =>
    refine ⟨hs.threshold, hs.withSite, hs.groups, ?_⟩
    exact List.rel_append hs.bound (.cons ⟨hs.groups, .cons hb hbs⟩ .nil)

theorem maskedScope_openGroup {s t : Scope} (hs : MaskedScope σ p.tokens s t) (name : String) :
    MaskedScope σ p.tokens (s.openGroup name) (t.openGroup name) := by
  unfold Scope.openGroup
  split
  · exact hs
  · exact ⟨hs.threshold, hs.withSite, congrArg (· ++ [name]) hs.groups, hs.bound⟩

/-- **A chain derived from a stage over a sink is a stage over a sink**, in whose scope everything
is bound that was to be bound, masked. -/
theorem exists_sink_of_derive (ht : p.tokens ≠ []) {ds : List Derivation} {sink : Sink}
    {s t : Scope} (hs : sink.lineScope? = some t) (hm : MaskedScope σ p.tokens s t) {c : Chain}
    (hc : ((Chain.masking p (.sink sink)).derive σ ds).result = .ok c) :
    ∃ sink' t', c = .masking p (.sink sink') ∧ sink'.lineScope? = some t'
      ∧ MaskedScope σ p.tokens (s.derive ds) t' := by
  induction ds generalizing sink s t with
  | nil =>
    cases hc
    exact ⟨sink, t, rfl, hs, hm⟩
  | cons d ds ih =>
    cases d with
    | bind as =>
      obtain ⟨made, hbind, hc⟩ := Noted.bind_eq_ok.mp hc
      rw [bind_masking] at hbind
      obtain ⟨bs, hbs, hbind⟩ := Noted.bind_eq_ok.mp hbind
      obtain ⟨_, hsink, rfl⟩ := Noted.map_eq_ok.mp hbind
      cases hsink
      exact ih (Sink.lineScope?_bind bs hs)
        (maskedScope_bind hm (Masking.maskedAttr_of_attrs ht hbs)) hc
    | openGroup name =>
      exact ih (Sink.lineScope?_openGroup name hs) (maskedScope_openGroup hm name) hc

end Chain

end DiscreetLog
