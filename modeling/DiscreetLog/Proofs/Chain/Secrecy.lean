import DiscreetLog.Proofs.Chain.Stage
import DiscreetLog.Proofs.Host.Objects
import DiscreetLog.Proofs.Masking.Agreement

/-!
# Secrets do not get behind a masking stage

A program holds chains, binds attributes to them, opens groups on them and has them handle
events, in any order and on any of the chains it has made so far. Two runs of such a program on
one stage differ in what they log: where they differ in hidden places only, they cannot be told
apart by anything behind the stage. Not only what is handed on is the same but all that comes of
it – every failure, every derived chain, and the host.

The sinks are those of any caller. All that is asked of them is that they leave the objects of
the host alone, which the sinks of the library do.
-/

namespace DiscreetLog

/-- **A call on one of the chains that a program holds**, which go by their numbers. -/
inductive Use where
  | bind (on : Nat) (attrs : List Attr)
  | openGroup (on : Nat) (name : String)
  | handle (on : Nat) (e : Event)

namespace Use

variable (deliver : Event → Sink → Action Unit)

/-- **What comes of a call**: the chains of the program, a derived one coming last. A call on a
chain that is not there does nothing. -/
def perform (cs : List Chain) : Use → Action (List Chain)
  | bind on attrs => do
    match cs[on]? with
    | some c => return cs ++ [← Action.ofNoted (c.bind (← get).objects attrs)]
    | none => return cs
  | openGroup on name =>
    match cs[on]? with
    | some c => return cs ++ [c.openGroup name]
    | none => return cs
  | handle on e => do
    match cs[on]? with
    | some c =>
      c.handle deliver e
      return cs
    | none => return cs

/-- **A call that is tried.** Where it fails the program goes on with the chains it had. -/
def attempt (cs : List Chain) (u : Use) : Action (List Chain × Option Failure) :=
  tryCatch (do return (← u.perform deliver cs, none)) fun failure => return (cs, some failure)

/-- **The run of a program**: its calls are tried in order. -/
def run : List Chain → List Use → Action (List Chain × List (Option Failure))
  | cs, [] => return (cs, [])
  | cs, u :: us => do
    let (cs, outcome) ← u.attempt deliver cs
    let (cs, outcomes) ← run cs us
    return (cs, outcome :: outcomes)

/-- **Two calls that differ in hidden places only.** -/
inductive Agree (σ : Objects) (tokens : Tokens) : Use → Use → Prop where
  | bind {on : Nat} {as bs : List Attr} (h : Masking.AttrsAgree σ tokens as bs) :
      Agree σ tokens (.bind on as) (.bind on bs)
  | openGroup {on : Nat} {name : String} : Agree σ tokens (.openGroup on name) (.openGroup on name)
  | handle {on : Nat} {e f : Event} (he : { e with attrs := [] } = { f with attrs := [] })
      (h : Masking.AttrsAgree σ tokens e.attrs f.attrs) :
      Agree σ tokens (.handle on e) (.handle on f)

variable {deliver} {p : Policy} {cs : List Chain} {u v : Use}

/-- **The chains of a program that started with a stage** are stages with its policy. -/
def Stages (p : Policy) (cs : List Chain) : Prop := ∀ c ∈ cs, ∃ inner, c = .masking p inner

theorem Stages.append {c : Chain} (hcs : Stages p cs) (hc : ∃ inner, c = .masking p inner) :
    Stages p (cs ++ [c]) := by
  intro d hd
  rcases List.mem_append.mp hd with hd | hd
  · exact hcs d hd
  · rw [List.mem_singleton.mp hd]
    exact hc

/-! ## One call -/

/-- **A call on a stage comes to the same as one that differs from it in hidden places only.** -/
theorem perform_congr (hp : p.scrubber = none) (ht : p.tokens ≠ []) (hcs : Stages p cs)
    {h : Host} (huv : Agree h.objects p.tokens u v) :
    (u.perform deliver cs).run h = (v.perform deliver cs).run h := by
  cases huv with
  | @bind on as bs hab =>
    unfold perform
    dsimp only
    cases hc : cs[on]? with
    | none => rfl
    | some c =>
      obtain ⟨inner, rfl⟩ := hcs c (List.mem_of_getElem? hc)
      have hbind : Chain.bind h.objects as (.masking p inner)
          = Chain.bind h.objects bs (.masking p inner) := by
        rw [Chain.bind_masking, Chain.bind_masking, Policy.attrs, Policy.attrs,
          Masking.attrs_congr ht hab]
      simp only [Action.run_bind, Action.run_get, hbind]
  | openGroup => rfl
  | @handle on e f he hab =>
    unfold perform
    dsimp only
    cases hc : cs[on]? with
    | none => rfl
    | some c =>
      obtain ⟨inner, rfl⟩ := hcs c (List.mem_of_getElem? hc)
      have hmask : p.attrs h.objects e.attrs = p.attrs h.objects f.attrs :=
        Masking.attrs_congr ht hab
      have hevent (bs : List Attr) : { e with attrs := bs } = { f with attrs := bs } :=
        congrArg (fun g : Event => { g with attrs := bs }) he
      have hrun : ((Chain.masking p inner).handle deliver e).run h
          = ((Chain.masking p inner).handle deliver f).run h := by
        rw [Chain.run_handle_masking hp, Chain.run_handle_masking hp, hmask]
        simp only [hevent]
      dsimp only
      rw [Action.run_bind, Action.run_bind, hrun]

/-- A call leaves the program with stages. -/
theorem stages_of_perform (hcs : Stages p cs) {h h' : Host} {cs' : List Chain}
    (hr : (u.perform deliver cs).run h = (.ok cs', h')) : Stages p cs' := by
  cases u with
  | bind on attrs =>
    unfold perform at hr
    dsimp only at hr
    cases hc : cs[on]? with
    | none =>
      rw [hc] at hr
      cases hr
      exact hcs
    | some c =>
      rw [hc] at hr
      obtain ⟨inner, rfl⟩ := hcs c (List.mem_of_getElem? hc)
      obtain ⟨_, k, hget, hr⟩ := Action.run_bind_eq_ok.mp hr
      cases hget
      obtain ⟨d, k', hd, hr⟩ := Action.run_bind_eq_ok.mp hr
      cases hr
      rw [Action.run_ofNoted, Prod.mk.injEq, Chain.bind_masking] at hd
      obtain ⟨bs, -, hbs⟩ := Noted.bind_eq_ok.mp hd.1
      obtain ⟨inner', -, rfl⟩ := Noted.map_eq_ok.mp hbs
      exact hcs.append ⟨inner', rfl⟩
  | openGroup on name =>
    unfold perform at hr
    dsimp only at hr
    cases hc : cs[on]? with
    | none =>
      rw [hc] at hr
      cases hr
      exact hcs
    | some c =>
      rw [hc] at hr
      obtain ⟨inner, rfl⟩ := hcs c (List.mem_of_getElem? hc)
      cases hr
      exact hcs.append ⟨_, rfl⟩
  | handle on e =>
    unfold perform at hr
    dsimp only at hr
    cases hc : cs[on]? with
    | none =>
      rw [hc] at hr
      cases hr
      exact hcs
    | some c =>
      rw [hc] at hr
      obtain ⟨_, k, -, hr⟩ := Action.run_bind_eq_ok.mp hr
      cases hr
      exact hcs

theorem keeps_perform (hd : ∀ e s, Action.Keeps Host.objects (deliver e s)) :
    Action.Keeps Host.objects (u.perform deliver cs) := by
  cases u with
  | bind on attrs =>
    unfold perform
    dsimp only
    split
    · refine Action.keeps_get.bind fun h => ?_
      exact (Action.keeps_ofNoted (fun _ _ => rfl) _).bind fun c => Action.keeps_pure _
    · exact Action.keeps_pure _
  | openGroup on name =>
    unfold perform
    dsimp only
    split <;> exact Action.keeps_pure _
  | handle on e =>
    unfold perform
    dsimp only
    split
    · exact (Chain.keeps_handle hd e _).bind fun _ => Action.keeps_pure _
    · exact Action.keeps_pure _

/-! ## The whole run -/

/-- What a call that is tried comes to. -/
theorem run_attempt (h : Host) :
    (u.attempt deliver cs).run h = match (u.perform deliver cs).run h with
      | (.ok cs', h') => (.ok (cs', none), h')
      | (.error failure, h') => (.ok (cs, some failure), h') := by
  rw [attempt, Action.run_tryCatch, Action.run_bind]
  rcases (u.perform deliver cs).run h with ⟨_ | cs', h'⟩ <;> rfl

/-- A call that is tried leaves the program with stages and the host with its objects. -/
theorem stages_of_attempt (hd : ∀ e s, Action.Keeps Host.objects (deliver e s))
    (hcs : Stages p cs) (h : Host) :
    ∃ cs' outcome h', (u.attempt deliver cs).run h = (.ok (cs', outcome), h')
      ∧ Stages p cs' ∧ h'.objects = h.objects := by
  have hkeep : ((u.perform deliver cs).run h).2.objects = h.objects := keeps_perform hd h
  rw [run_attempt]
  cases hr : (u.perform deliver cs).run h with
  | mk r h' =>
    rw [hr] at hkeep
    cases r with
    | ok cs' => exact ⟨cs', none, h', rfl, stages_of_perform hcs hr, hkeep⟩
    | error failure => exact ⟨cs, some failure, h', rfl, hcs, hkeep⟩

/-- Runs on stages come to the same, call by call. -/
theorem run_congr (hp : p.scrubber = none) (ht : p.tokens ≠ [])
    (hd : ∀ e s, Action.Keeps Host.objects (deliver e s)) {σ : Objects} {us vs : List Use}
    (huv : List.Forall₂ (Agree σ p.tokens) us vs) {cs : List Chain} (hcs : Stages p cs) {h : Host}
    (hσ : h.objects = σ) : (run deliver cs us).run h = (run deliver cs vs).run h := by
  induction huv generalizing cs h with
  | nil => rfl
  | @cons u v us vs huv _ ih =>
    subst hσ
    have hattempt : (u.attempt deliver cs).run h = (v.attempt deliver cs).run h := by
      rw [run_attempt, run_attempt, perform_congr hp ht hcs huv]
    obtain ⟨cs', outcome, h', hr, hcs', hσ'⟩ := stages_of_attempt (u := v) hd hcs h
    rw [run, run, Action.run_bind, Action.run_bind, hattempt, hr]
    dsimp only
    rw [Action.run_bind, Action.run_bind, ih hcs' hσ']

end Use

end DiscreetLog
