import DiscreetLog.Proofs.Chain.Stage
import Mathlib.Logic.Relation

/-!
# What a fan-out makes of failures

A fan-out passes a failure of one branch on as it is and makes a new one of several, which was
raised from the first of them. The branches may be fan-outs themselves, so what a fan-out counts is
not what failed below it: two branches may have failed though ten sinks did. What is so at every
height is that the failure a chain comes to leads back, from one that a fan-out made to the one it
was raised from, to the failure of the first sink that failed (`Reported`). `Gathered` says the same
of the failures that a fan-out has collected, and `Gathered.report` is the step from there to what
it reports.
-/

namespace DiscreetLog

namespace Chain

/-- **A failure that a fan-out of a chain makes** of several others while the chain handles an
event. -/
inductive Combines (deliver : Event → Sink → Action Unit) :
    Event → Host → Chain → Failure → Prop where
  | here {e : Event} {h : Host} {branches : List Chain} {fs : List Failure}
      (hr : ((handleAll deliver e branches).run h).1 = .ok fs) (hl : 2 ≤ fs.length) :
      Combines deliver e h (.fanOut branches) (.several fs)
  | masked {e e' : Event} {h : Host} {p : Policy} {inner : Chain} {F : Failure}
      (hr : (p.apply h.objects e).result = .ok e')
      (hF : Combines deliver e' (h.noted (p.apply h.objects e).notes) inner F) :
      Combines deliver e h (.masking p inner) F
  /-- A branch that takes the level handles the event where those in front of it have left the
  host. -/
  | branch {e : Event} {h : Host} {c : Chain} {front behind : List Chain} {F : Failure}
      (he : c.enabled e.level.number = true)
      (hF : Combines deliver e ((handleAll deliver e front).run h).2 c F) :
      Combines deliver e h (.fanOut (front ++ c :: behind)) F

/-- **A failure leads back to another one**: from one that was made to the one it was raised from,
and so on. -/
def LeadsBack (made : Failure → Prop) : Failure → Failure → Prop :=
  Relation.ReflTransGen fun F G => made F ∧ F.cause = some G

/-- **The failures of some sinks, and what a chain reports of them**: nothing if there is none, a
single one as it is, and of several a failure that was made and leads back to the first. -/
inductive Reported (made : Failure → Prop) : List Failure → Except Failure Unit → Prop where
  | none : Reported made [] (.ok ())
  | one (f : Failure) : Reported made [f] (.error f)
  | several {f F : Failure} {fs : List Failure} (hfs : fs ≠ []) (hm : made F)
      (hb : LeadsBack made F f) : Reported made (f :: fs) (.error F)

/-- **The failures of some sinks, and what a fan-out collects of them**, one from each branch that
failed. -/
inductive Gathered (made : Failure → Prop) : List Failure → List Failure → Prop where
  | nil : Gathered made [] []
  | failed {fs fs' gs : List Failure} {F : Failure} (hF : Reported made fs (.error F))
      (h : Gathered made fs' gs) : Gathered made (fs ++ fs') (F :: gs)

/-- What a fan-out keeps of a branch for its report. -/
def failures : Except Failure Unit → List Failure
  | .ok _ => []
  | .error failure => [failure]

variable {deliver : Event → Sink → Action Unit} {made made' : Failure → Prop}

/-- What a fan-out makes is reported as the failure of a sink. -/
theorem Combines.kind_eq {e : Event} {h : Host} {c : Chain} {F : Failure}
    (hF : Combines deliver e h c F) : F.kind = "SinkError" := by
  induction hF with
  | here => rfl
  | masked _ _ ih | branch _ _ ih => exact ih

/-- A stage without a scrubber hands on what is made below it. -/
theorem Combines.of_attrs {e : Event} {h : Host} {p : Policy} {inner : Chain} {F : Failure}
    {bs : List Attr} (hp : p.scrubber = none) (hbs : (p.attrs h.objects e.attrs).result = .ok bs)
    (hF : Combines deliver { e with attrs := bs } (h.noted (p.attrs h.objects e.attrs).notes)
      inner F) : Combines deliver e h (.masking p inner) F := by
  have ha : p.apply h.objects e
      = ⟨(p.attrs h.objects e.attrs).notes, .ok { e with attrs := bs }⟩ := by
    rw [Policy.apply_of_unscrubbed hp, Noted.bind_of_ok hbs, Noted.notes_pure, List.append_nil]
    rfl
  exact .masked (congrArg Noted.result ha) (by rw [ha]; exact hF)

theorem mem_flatMap_failures {os : List (Except Failure Unit)} {f : Failure} :
    f ∈ os.flatMap failures ↔ .error f ∈ os := by
  rw [List.mem_flatMap]
  constructor
  · rintro ⟨o, ho, hf⟩
    cases o with
    | ok => cases hf
    | error => rwa [List.mem_singleton.mp hf]
  · exact fun h => ⟨_, h, List.mem_singleton_self f⟩

/-- A report with more failures that may have been made. -/
theorem Reported.mono (hle : ∀ F, made F → made' F) {fs : List Failure}
    {r : Except Failure Unit} (h : Reported made fs r) : Reported made' fs r := by
  cases h with
  | none => exact .none
  | one f => exact .one f
  | several hfs hm hb =>
    exact .several hfs (hle _ hm)
      (Relation.ReflTransGen.mono (fun F _ hFG => ⟨hle F hFG.1, hFG.2⟩) _ _ hb)

/-- **A failure is reported if a sink has failed**, and leads back to the first that did. -/
theorem Reported.exists_eq_cons {fs : List Failure} {F : Failure}
    (h : Reported made fs (.error F)) : ∃ f fs', fs = f :: fs' ∧ LeadsBack made F f := by
  cases h with
  | one => exact ⟨F, [], rfl, .refl⟩
  | several _ _ hb => exact ⟨_, _, rfl, hb⟩

/-- One more branch, which may have failed. -/
theorem Gathered.cons {fs fs' gs : List Failure} {r : Except Failure Unit}
    (hr : Reported made fs r) (h : Gathered made fs' gs) :
    Gathered made (fs ++ fs') (failures r ++ gs) := by
  cases r with
  | ok =>
    cases hr
    exact h
  | error F => exact .failed hr h

/-- **What a fan-out reports of what it has collected.** -/
theorem Gathered.report {fs gs : List Failure} (h : Gathered made fs gs)
    (hm : 2 ≤ gs.length → made (.several gs)) (k : Host) :
    Reported made fs ((report gs).run k).1 := by
  cases h with
  | nil => exact .none
  | @failed fs fs' gs F hF h =>
    cases h with
    | nil =>
      rw [List.append_nil]
      exact hF
    | @failed fs₁ fs₂ gs G hG h =>
      -- both branches have failed because a sink below them did
      obtain ⟨f, fs, rfl, hb⟩ := hF.exists_eq_cons
      obtain ⟨g, fs₁, rfl, -⟩ := hG.exists_eq_cons
      have hmade : made (.several (F :: G :: gs)) := hm (Nat.le_add_left 2 gs.length)
      have hfs : fs ++ (g :: fs₁ ++ fs₂) ≠ [] :=
        List.append_ne_nil_of_right_ne_nil _ (List.cons_ne_nil g _)
      exact .several hfs hmade (.head ⟨hmade, rfl⟩ hb)

end Chain

end DiscreetLog
