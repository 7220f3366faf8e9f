import DiscreetLog.Proofs.Chain.Visits

/-!
# What a log call comes to

A log call fails if one of the sinks that it visits does, and only then. Who called learns of one
failure as it is, and of several by a failure that a fan-out made, from which the causes lead back
to the first of them in the order of the leaves. How the chain is nested decides which failures lie
in between and nothing else (`log_reports`).
-/

namespace DiscreetLog

open DiscreetLog.Action

namespace Chain

/-- **What is reported of the outcomes of some visits.** -/
structure Reports (made : Failure → Prop) (outcomes : List (Except Failure Unit))
    (result : Except Failure Unit) : Prop where
  /-- There is a failure if a sink has failed. -/
  fails : (∃ f, result = .error f) ↔ ∃ f, .error f ∈ outcomes
  /-- The only failure is passed on. -/
  one : ∀ f, outcomes.flatMap failures = [f] → result = .error f
  /-- Of several failures one is made that leads back to the first. -/
  several : ∀ f fs, outcomes.flatMap failures = f :: fs → fs ≠ [] →
    ∃ F, result = .error F ∧ F.kind = "SinkError" ∧ made F ∧ LeadsBack made F f

variable {made : Failure → Prop} {os : List (Except Failure Unit)} {r : Except Failure Unit}

theorem Reported.reports (hk : ∀ F, made F → F.kind = "SinkError")
    (h : Reported made (os.flatMap failures) r) : Reports made os r := by
  constructor
  · simp only [← mem_flatMap_failures]
    generalize os.flatMap failures = fs at h
    cases h with
    | none => exact iff_of_false (fun ⟨_, hr⟩ => nomatch hr) fun ⟨_, hf⟩ => nomatch hf
    | one f => exact iff_of_true ⟨f, rfl⟩ ⟨f, List.mem_singleton_self f⟩
    | @several f F => exact iff_of_true ⟨F, rfl⟩ ⟨f, List.mem_cons_self⟩
  · intro f hf
    rw [hf] at h
    cases h with
    | one => rfl
    | several hfs => exact absurd rfl hfs
  · intro f fs hf hfs
    rw [hf] at h
    cases h with
    | one => exact absurd rfl hfs
    | @several _ F _ _ hm hb => exact ⟨F, rfl, hk F hm, hm, hb⟩

end Chain

/-- **Sinks that do the same with every event on every host** come to that when they are visited. -/
theorem Visits.outcomes_eq {deliver : Event → Sink → Action Unit} {σ : Objects} {e : Event}
    {h k : Host} {ls : List Leaf} {vs : List (Event × Sink)} {os os' : List (Except Failure Unit)}
    (hv : List.Forall₂ (Leaf.Gets σ e) ls vs)
    (hout : List.Forall₂ (fun l o => ∀ e h, ((deliver e l.sink).run h).1 = o) ls os')
    (hvisits : Visits deliver h vs os k) : os = os' := by
  induction hvisits generalizing ls os' with
  | done =>
    cases hv
    cases hout
    rfl
  | noted _ _ ih => exact ih hv hout
  | visit _ ih =>
    cases hv with
    | cons hl hv =>
      obtain ⟨bs, -, hl⟩ := hl
      cases hl
      cases hout with
      | cons ho hout => rw [ho, ih hv hout]

namespace Logger

/-- **A run of a log call makes some visits and reports them**: the sinks are visited one after the
other and no other thing is done, and the result is what is reported of the outcomes. -/
def RunReports (deliver : Event → Sink → Action Unit) (c : Chain) (e : Event) (h : Host)
    (visits : List (Event × Sink)) (run : Except Failure Unit × Host) : Prop :=
  ∃ outcomes, Visits deliver h visits outcomes run.2
    ∧ Chain.Reports (Chain.Combines deliver e h c) outcomes run.1

end Logger

end DiscreetLog
