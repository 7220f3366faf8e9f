import DiscreetLog.Delivery
import DiscreetLog.Proofs.Masking.Refusal

/-!
# A masking stage

A stage without a scrubber does two things with what it is given: it masks the attributes, and
it hands them on. Whether the chain below it hears of an event, or of attributes that are bound,
is therefore decided by the masking alone, and what it hears is the masked list and nothing else.

The stage has no answer for attributes that cannot be masked: the failure goes to the caller and
the chain below hears nothing.
-/

namespace DiscreetLog

/-- The host with more notes. -/
def Host.noted (h : Host) (notes : List Note) : Host := { h with notes := h.notes ++ notes }

namespace Policy

/-- **What a stage masks of an attribute list.** -/
abbrev attrs (p : Policy) (σ : Objects) (as : List Attr) : Noted (List Attr) :=
  Masking.attrs σ p.tokens p.maxDepth as

/-- **A stage has an answer for an attribute list**: it hides nothing, or nothing in the list
refuses to be masked. -/
def Answers (p : Policy) (σ : Objects) (as : List Attr) : Prop :=
  p.tokens = [] ∨ Masking.Maskable σ p.tokens p.maxDepth as

/-- **Without a scrubber an event is masked in its attributes alone.** -/
theorem apply_of_unscrubbed {p : Policy} (hp : p.scrubber = none) (σ : Objects) (e : Event) :
    p.apply σ e = do return { e with attrs := ← p.attrs σ e.attrs } := by
  unfold apply
  split
  · rename_i ht
    have ht : p.tokens.isEmpty = true := (Bool.and_eq_true_iff.mp ht).1
    rw [attrs, Masking.attrs, if_pos ht]
    rfl
  · rw [hp]
    rfl

end Policy

namespace Chain

variable {p : Policy} {deliver : Event → Sink → Action Unit}

/-- **What a stage does with an event**: the notes are made, and the chain below handles the
masked event if there is one. -/
theorem run_handle_masking (hp : p.scrubber = none) (e : Event) (inner : Chain) (h : Host) :
    (handle deliver e (.masking p inner)).run h
      = match (p.attrs h.objects e.attrs).result with
        | .ok bs => (handle deliver { e with attrs := bs } inner).run
            (h.noted (p.attrs h.objects e.attrs).notes)
        | .error failure => (.error failure, h.noted (p.attrs h.objects e.attrs).notes) := by
  rw [handle, Action.run_bind, Action.run_get]
  dsimp only
  rw [Policy.apply_of_unscrubbed hp, Action.run_bind, Action.run_ofNoted]
  cases hr : (p.attrs h.objects e.attrs).result with
  | ok bs => rw [Noted.bind_of_ok hr, Noted.notes_pure, List.append_nil]; rfl
  | error failure => rw [Noted.bind_of_error hr]; rfl

/-- **What a stage makes of attributes that are bound**: the masked ones are bound to the chain
below. -/
theorem bind_masking (σ : Objects) (as : List Attr) (inner : Chain) :
    bind σ as (.masking p inner)
      = p.attrs σ as >>= fun bs => bind σ bs inner >>= fun c => pure (.masking p c) := by
  rw [bind]

/-- **A stage without a scrubber fails of itself exactly where it has no answer.** Where it has
one, the chain below handles the masked event, or is bound the masked attributes, and what that
comes to is what the stage comes to. Where it has none, a container refuses, and neither an event
nor attributes that are bound get to the chain below. -/
theorem masking_answers (hp : p.scrubber = none) (h : Host) (as : List Attr) :
    (p.Answers h.objects as ↔ ∃ bs, (p.attrs h.objects as).result = .ok bs)
      ∧ (∀ bs, (p.attrs h.objects as).result = .ok bs →
        (∀ deliver e inner, e.attrs = as →
          (handle deliver e (.masking p inner)).run h
            = (handle deliver { e with attrs := bs } inner).run
              (h.noted (p.attrs h.objects as).notes))
        ∧ ∀ inner, bind h.objects as (.masking p inner)
            = ⟨(p.attrs h.objects as).notes ++ (bind h.objects bs inner).notes,
              (bind h.objects bs inner).result.map (.masking p)⟩)
      ∧ ∀ failure, (p.attrs h.objects as).result = .error failure →
        Masking.IsRefusal failure
        ∧ (∀ deliver e inner, e.attrs = as →
          (handle deliver e (.masking p inner)).run h
            = (.error failure, h.noted (p.attrs h.objects as).notes))
        ∧ ∀ inner, bind h.objects as (.masking p inner)
            = ⟨(p.attrs h.objects as).notes, .error failure⟩ := by
  refine ⟨Masking.exists_attrs_eq_ok.symm, ?_, ?_⟩
  · refine fun bs hb => ⟨?_, fun inner => ?_⟩
    · rintro deliver e inner rfl
      rw [run_handle_masking hp, hb]
    · rw [bind_masking, Noted.bind_of_ok hb]
      cases hr : (bind h.objects bs inner).result with
      | ok c => rw [Noted.bind_of_ok hr, Noted.notes_pure, List.append_nil]; rfl
      | error failure => rw [Noted.bind_of_error hr]; rfl
  · refine fun failure hf => ⟨Masking.failsOnly_attrs as failure hf, ?_, fun inner => ?_⟩
    · rintro deliver e inner rfl
      rw [run_handle_masking hp, hf]
    · rw [bind_masking, Noted.bind_of_error hf]

/-- An event with a password in a mapping gets to the chain below, whatever that is, with the
password masked. -/
theorem masking_answers_mapping :
    let p : Policy := ⟨["pass"], none, 32⟩
    let h : Host := .fresh [] ⟨⟨2024, 5, 1⟩, 10, 0, 0, 0, some 0⟩ [] "/" "host"
    let held (v : String) : List Attr :=
      [⟨"m", .node none (.mapping .plain [(.text "Password", .text v)])⟩]
    p.scrubber = none ∧ (p.attrs h.objects (held "hunter2")).result = .ok (held mask)
      ∧ ∀ deliver inner, (handle deliver ⟨h.now, .info, "m", none, held "hunter2"⟩
          (.masking p inner)).run h
        = (handle deliver ⟨h.now, .info, "m", none, held mask⟩ inner).run (h.noted []) := by
  intro p h held
  have hm : (p.attrs h.objects (held "hunter2")).result = .ok (held mask) := rfl
  refine ⟨rfl, hm, fun deliver inner => ?_⟩
  exact ((masking_answers rfl h (held "hunter2")).2.1 _ hm).1 deliver
    ⟨h.now, .info, "m", none, held "hunter2"⟩ inner rfl

/-- **A stage may fail though no sink does.** Neither sink below fails on anything, and yet an
event that holds a mapping which cannot be copied, or an object with a field that was never set,
fails on the stage, and so does binding either. -/
theorem masking_fails_of_itself :
    let p : Policy := ⟨["password"], none, 32⟩
    let h : Host := .fresh [] ⟨⟨2024, 5, 1⟩, 10, 0, 0, 0, some 0⟩ [] "/" "host"
    let uncopyable : List Attr := [⟨"m", .node none (.mapping .uncopyable [(.text "a", .int 1)])⟩]
    let unset : List Attr :=
      [⟨"m", .node none (.object ⟨"User", true⟩ [⟨"name", "", "", none, none⟩] .plain)⟩]
    let stage : Chain := .masking p (.sink (.structured ⟨.info, false, [], []⟩ []))
    let event (as : List Attr) : Event := ⟨h.now, .info, "m", none, as⟩
    ((handle (fun _ _ => pure ()) (event uncopyable) stage).run h).1 = .error .copyRefused
      ∧ ((handle (fun _ _ => pure ()) (event unset) stage).run h).1
        = .error (.noField "User" "name")
      ∧ (bind h.objects uncopyable stage).result = .error .copyRefused
      ∧ (bind h.objects unset stage).result = .error (.noField "User" "name") :=
  ⟨rfl, rfl, rfl, rfl⟩

end Chain

end DiscreetLog
