import DiscreetLog.Logging
import DiscreetLog.Proofs.Chain.Failures
import DiscreetLog.Proofs.Chain.Leaves
import DiscreetLog.Proofs.Host.Objects

/-!
# Which sinks an event visits

An event that goes down a chain visits the leaves of the chain that take its level, each of them
once and from left to right, and is masked on its way to each by the stages above it. Nothing else
happens on the way: what a call leaves behind is what the visits leave behind one after the other,
and the notes that masking makes (`Visits`).

Level checks are made in two places only, by the logger and by a fan-out. A stage and a sink handle
whatever they are given. It is because a chain takes exactly the levels that one of its leaves
takes that those two places are enough (`visits_handle`).

What a sink does with an event is a parameter throughout, so it may fail or not as it likes. Which
visits there are is settled before it is chosen. What the chain reports is not, and is carried along
with the visits it is reported of.
-/

namespace DiscreetLog

open DiscreetLog.Action

/-- **A course of visits** from one host to another: the sinks handle events one after the other,
and what lies between is notes alone. What each visit came to stands beside it. -/
inductive Visits (deliver : Event → Sink → Action Unit) :
    Host → List (Event × Sink) → List (Except Failure Unit) → Host → Prop where
  | done {h : Host} : Visits deliver h [] [] h
  | noted {h k : Host} {vs : List (Event × Sink)} {os : List (Except Failure Unit)}
      (notes : List Note) (rest : Visits deliver (h.noted notes) vs os k) : Visits deliver h vs os k
  | visit {h k : Host} {e : Event} {s : Sink} {vs : List (Event × Sink)}
      {os : List (Except Failure Unit)} (rest : Visits deliver ((deliver e s).run h).2 vs os k) :
      Visits deliver h ((e, s) :: vs) (((deliver e s).run h).1 :: os) k

/-- **A leaf gets an event**: the attributes have been masked by the stages above it, and the rest
of the event is as it was. -/
def Leaf.Gets (σ : Objects) (e : Event) (l : Leaf) (visit : Event × Sink) : Prop :=
  ∃ bs, (Policy.attrsAll σ l.policies e.attrs).result = .ok bs
    ∧ visit = ({ e with attrs := bs }, l.sink)

variable {deliver : Event → Sink → Action Unit}

/-- **Courses of visits join.** -/
theorem Visits.append {h k m : Host} {vs ws : List (Event × Sink)}
    {os ps : List (Except Failure Unit)} (hvs : Visits deliver h vs os k)
    (hws : Visits deliver k ws ps m) : Visits deliver h (vs ++ ws) (os ++ ps) m := by
  induction hvs with
  | done => exact hws
  | noted notes _ ih => exact .noted notes (ih hws)
  | visit _ ih => exact .visit (ih hws)

namespace Chain

/-- **A fan-out goes on after a branch** from where the branch left the host, failed or not, and
passes over a branch that does not take the level. -/
theorem run_handleAll_cons (e : Event) (c : Chain) (cs : List Chain) (h : Host) :
    (handleAll deliver e (c :: cs)).run h
      = if c.enabled e.level.number then
          let first := (handle deliver e c).run h
          let rest := (handleAll deliver e cs).run first.2
          (rest.1.map (failures first.1 ++ ·), rest.2)
        else (handleAll deliver e cs).run h := by
  have hrest (x : Action (List Failure)) (k : Host) (fs : List Failure)
      (hx : x.run h = (.ok fs, k)) :
      (do return (← x) ++ (← handleAll deliver e cs) : Action (List Failure)).run h
        = (((handleAll deliver e cs).run k).1.map (fs ++ ·),
          ((handleAll deliver e cs).run k).2) := by
    rw [run_bind, hx]
    dsimp only
    rw [run_bind]
    rcases (handleAll deliver e cs).run k with ⟨_ | gs, m⟩ <;> rfl
  rw [handleAll]
  split
  · rcases hr : (handle deliver e c).run h with ⟨failure | u, k⟩
    · refine hrest _ k [failure] ?_
      rw [run_tryCatch, run_bind, hr]
      rfl
    · refine hrest _ k [] ?_
      rw [run_tryCatch, run_bind, hr]
      rfl
  · refine (hrest (pure []) h [] rfl).trans ?_
    rcases (handleAll deliver e cs).run h with ⟨_ | gs, m⟩ <;> rfl

/-- Reporting changes nothing. -/
theorem run_report (fs : List Failure) (h : Host) : ((report fs).run h).2 = h := by
  unfold report
  split <;> rfl

mutual

/-- **An event visits the leaves that take its level**, and what the chain reports is what the
visits came to. -/
theorem visits_handle (hd : ∀ e s, Keeps Host.objects (deliver e s)) {e : Event} {h : Host} :
    (c : Chain) → Policy.Unscrubbed c.stages →
    c.enabled e.level.number = true → {vs : List (Event × Sink)} →
    List.Forall₂ (Leaf.Gets h.objects e) (c.leaves.filter (·.sink.enabled e.level.number)) vs →
    ∃ os, Visits deliver h vs os ((handle deliver e c).run h).2
      ∧ Reported (Combines deliver e h c) (os.flatMap failures) ((handle deliver e c).run h).1
  | .sink s, _, he, vs, hv => by
    have hl : (leaves (.sink s)).filter (·.sink.enabled e.level.number) = [⟨[], s⟩] :=
      List.filter_cons_of_pos he
    rw [hl] at hv
    obtain ⟨_, vs', ⟨bs, hbs, rfl⟩, hvs', rfl⟩ := List.forall₂_cons_left_iff.mp hv
    cases hbs
    cases hvs'
    refine ⟨[((deliver e s).run h).1], .visit .done, ?_⟩
    rw [List.flatMap_singleton, handle]
    cases ((deliver e s).run h).1 with
    | ok => exact .none
    | error f => exact .one f
  | .masking p inner, hp, he, vs, hv => by
    have hinner : Policy.Unscrubbed inner.stages := fun ps hps q hq =>
      hp (p :: ps) (List.mem_cons_of_mem _ (List.mem_map_of_mem hps)) q (List.mem_cons_of_mem p hq)
    have hscrub : p.scrubber = none := hp [p] List.mem_cons_self p List.mem_cons_self
    rw [leaves, List.filter_map, List.forall₂_map_left_iff] at hv
    -- a leaf that takes the level gets what the stage makes of the attributes, so there is such
    rw [enabled, enabled_eq, List.any_eq_true] at he
    obtain ⟨l, hl, hls⟩ := he
    obtain ⟨_, _, cs, hcs, -⟩ := exists_mem_right hv (List.mem_filter.mpr ⟨hl, hls⟩)
    obtain ⟨bs, hbs, -⟩ := Policy.MaskAll.head ⟨cs, hcs⟩
    rw [run_handle_masking hscrub, hbs]
    have hv : List.Forall₂ (Leaf.Gets h.objects { e with attrs := bs })
        (inner.leaves.filter (·.sink.enabled e.level.number)) vs := by
      refine hv.imp ?_
      rintro l v ⟨cs, hcs, rfl⟩
      exact ⟨cs, (Policy.attrsAll_cons_eq_ok hbs).mp hcs, rfl⟩
    obtain ⟨os, hos, hr⟩ := visits_handle hd (e := { e with attrs := bs })
      (h := h.noted (p.attrs h.objects e.attrs).notes) inner hinner
      ((enabled_eq _ _).trans (List.any_eq_true.mpr ⟨l, hl, hls⟩)) hv
    exact ⟨os, .noted _ hos, hr.mono fun F => .of_attrs hscrub hbs⟩
  | .fanOut branches, hp, he, vs, hv => by
    have hm (front : List Chain) (b : Chain) (behind : List Chain)
        (hb : branches = front ++ b :: behind) (hbe : b.enabled e.level.number = true) (F : Failure)
        (hF : Combines deliver e ((handleAll deliver e front).run h).2 b F) :
        Combines deliver e h (.fanOut branches) F := by
      rw [hb]
      exact .branch hbe hF
    obtain ⟨fs, os, k, hr, hos, hg⟩ := visits_handleAll hd branches hp hv hm
    refine ⟨os, ?_⟩
    rw [handle, run_bind, hr]
    dsimp only
    rw [run_report]
    exact ⟨hos, hg.report (fun hl => .here (congrArg Prod.fst hr) hl) k⟩

theorem visits_handleAll (hd : ∀ e s, Keeps Host.objects (deliver e s)) {e : Event} {h : Host}
    {made : Failure → Prop} :
    (cs : List Chain) → Policy.Unscrubbed (stagesAll cs) →
    {vs : List (Event × Sink)} →
    List.Forall₂ (Leaf.Gets h.objects e)
      ((leavesAll cs).filter (·.sink.enabled e.level.number)) vs →
    (∀ front c behind, cs = front ++ c :: behind → c.enabled e.level.number = true →
      ∀ F, Combines deliver e ((handleAll deliver e front).run h).2 c F → made F) →
    ∃ fs os k, (handleAll deliver e cs).run h = (.ok fs, k) ∧ Visits deliver h vs os k
      ∧ Gathered made (os.flatMap failures) fs
  | [], _, vs, hv, _ => by
    cases hv
    exact ⟨[], [], h, rfl, .done, .nil⟩
  | c :: cs, hp, vs, hv, hm => by
    rw [leavesAll, List.filter_append] at hv
    obtain ⟨vs₁, vs₂, rfl, hv₁, hv₂⟩ := exists_eq_append hv
    have hp₁ : Policy.Unscrubbed c.stages := fun ps hps => hp ps (List.mem_append_left _ hps)
    have hp₂ : Policy.Unscrubbed (stagesAll cs) := fun ps hps =>
      hp ps (List.mem_append_right _ hps)
    have hm₂ (front : List Chain) (b : Chain) (behind : List Chain)
        (hb : cs = front ++ b :: behind) := hm (c :: front) b behind (by rw [hb, List.cons_append])
    rw [run_handleAll_cons]
    split
    · rename_i he
      obtain ⟨os₁, hos₁, hr₁⟩ := visits_handle hd c hp₁ he hv₁
      have ho := keeps_handle hd e c h
      rw [← ho] at hv₂
      simp only [run_handleAll_cons, if_pos he] at hm₂
      obtain ⟨fs, os₂, k, hr, hos₂, hg⟩ := visits_handleAll hd cs hp₂ hv₂ hm₂
      refine ⟨failures ((handle deliver e c).run h).1 ++ fs, os₁ ++ os₂, k, ?_,
        hos₁.append hos₂, ?_⟩
      · dsimp only
        rw [hr]
        rfl
      · rw [List.flatMap_append]
        exact hg.cons (hr₁.mono (hm [] c cs rfl he))
    · rename_i he
      rw [filter_leaves_eq_nil he] at hv₁
      cases hv₁
      simp only [run_handleAll_cons, if_neg he] at hm₂
      exact visits_handleAll hd cs hp₂ hv₂ hm₂

end

end Chain

namespace Logger

/-- **A log call, given what the sinks do with an event.** -/
def logTo (deliver : Event → Sink → Action Unit) (l : Logger) (level : Level) (message : String)
    (positional : List Value) (named : List (String × Value)) (site : Site Value) :
    Action Unit := do
  if l.chain.enabled level.number then
    l.chain.handle deliver
      ⟨(← get).now, level, message, some site, Attr.ofArguments positional named⟩

/-- A log call is one to the sinks of the library. -/
theorem log_eq_logTo : log = logTo (Sink.deliver (Bridge.talkVia Bridge.emit)) := rfl

variable {level : Level} {message : String} {positional : List Value}
  {named : List (String × Value)} {site : Site Value} {h : Host}

/-- **A log call visits the leaves that take its level**, and none if the chain does not. What it
comes to is what the chain reports of the visits. -/
theorem reported_logTo (hd : ∀ e s, Keeps Host.objects (deliver e s)) {c : Chain}
    (hp : Policy.Unscrubbed c.stages) {vs : List (Event × Sink)}
    (hv : List.Forall₂
      (Leaf.Gets h.objects
        ⟨h.now, level, message, some site, Attr.ofArguments positional named⟩)
      (c.leaves.filter (·.sink.enabled level.number)) vs) :
    ∃ os, Visits deliver h vs os
        ((logTo deliver ⟨c⟩ level message positional named site).run h).2
      ∧ Chain.Reported
        (Chain.Combines deliver
          ⟨h.now, level, message, some site, Attr.ofArguments positional named⟩ h c)
        (os.flatMap Chain.failures)
        ((logTo deliver ⟨c⟩ level message positional named site).run h).1 := by
  unfold logTo
  split
  · rename_i he
    exact Chain.visits_handle hd c hp he hv
  · rename_i he
    rw [Chain.filter_leaves_eq_nil he] at hv
    cases hv
    exact ⟨[], .done, .none⟩

/-- The visits of a log call. -/
theorem visits_logTo (hd : ∀ e s, Keeps Host.objects (deliver e s)) {c : Chain}
    (hp : Policy.Unscrubbed c.stages) {vs : List (Event × Sink)}
    (hv : List.Forall₂
      (Leaf.Gets h.objects
        ⟨h.now, level, message, some site, Attr.ofArguments positional named⟩)
      (c.leaves.filter (·.sink.enabled level.number)) vs) :
    ∃ os, Visits deliver h vs os
      ((logTo deliver ⟨c⟩ level message positional named site).run h).2 := by
  obtain ⟨os, hos, -⟩ := reported_logTo hd hp hv
  exact ⟨os, hos⟩

end Logger

end DiscreetLog
