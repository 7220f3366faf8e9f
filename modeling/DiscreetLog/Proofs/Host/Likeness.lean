import DiscreetLog.Proofs.Host.Orderly

/-!
# Records on bridges

A record is put on a bridge with a bound on the number of bridges that are free, and the bound
grows smaller with each bridge that is entered. It is never reached: a bridge that is entered is no
longer free until the record has passed, and orderly sinks leave it so. Any two bounds that the free
bridges do not exceed come to the same (`run_emitWith_eq`).

This is shown of two runs at once, on hosts that need not be equal. A *likeness* of hosts is one
that logging cannot make out: it finds the same surroundings on both hosts, and what bridges and
sinks note down leaves the hosts alike. If whatever the sinks do by themselves goes together along
a likeness, putting a record on a bridge does (`together_emitTo`). Equality is a likeness, and so is
equality on hosts of which a part is given that nothing is noted in (`likeness_of_part`).
-/

namespace DiscreetLog

open DiscreetLog.Action

/-- The bridges of a host, and how many sinks are writing there. -/
def Host.bridging (h : Host) : List Bridge × Nat := (h.bridges, h.writing)

/-- **How many bridges are free**: no record is on its way through them. -/
def Host.free (h : Host) : Nat := h.bridges.countP fun b => !b.emitting

theorem Host.free_of_bridging {h k : Host} (hk : k.bridging = h.bridging) : k.free = h.free :=
  congrArg (List.countP fun b : Bridge => !b.emitting) (Prod.mk.inj hk).1

/-- A failure stays with a bridge. -/
def Host.swallowing (h : Host) (failure : Failure) : Host :=
  { h with swallowed := h.swallowed ++ [failure] }

/-! ## One bridge -/

namespace Bridge

variable {n : Nat} {b : Bridge} {h : Host}

/-- Entering a bridge takes one from the free ones. -/
theorem free_mark_true (hb : h.bridges[n]? = some b) (he : b.emitting = false) :
    (mark n true h).free + 1 = h.free := by
  have hcount (bs : List Bridge) (n : Nat) (hb : bs[n]? = some b) :
      (bs.modify n fun b => { b with emitting := true }).countP (!·.emitting) + 1
        = bs.countP (!·.emitting) := by
    induction bs generalizing n with
    | nil => cases hb
    | cons c bs ih =>
      cases n with
      | zero =>
        cases hb
        simp [he]
      | succ n =>
        rw [List.modify_succ_cons, List.countP_cons, List.countP_cons, ← ih n hb]
        omega
  exact hcount h.bridges n hb

/-- Leaving a bridge gives one back at most. -/
theorem free_mark_false (n : Nat) (h : Host) : (mark n false h).free ≤ h.free + 1 := by
  have hcount (bs : List Bridge) (n : Nat) :
      (bs.modify n fun b => { b with emitting := false }).countP (!·.emitting)
        ≤ bs.countP (!·.emitting) + 1 := by
    induction bs generalizing n with
    | nil => simp
    | cons c bs ih =>
      cases n with
      | zero =>
        rw [List.modify_zero_cons, List.countP_cons, List.countP_cons]
        split <;> omega
      | succ n =>
        rw [List.modify_succ_cons, List.countP_cons, List.countP_cons]
        have := ih n
        omega
  exact hcount h.bridges n

/-- **A bridge that is entered and left is as it was.** -/
theorem bridges_mark_mark (hb : h.bridges[n]? = some b) (he : b.emitting = false) :
    ((mark n true h).bridges.modify n fun b => { b with emitting := false }) = h.bridges := by
  have hmodify : h.bridges.modify n (fun b => { b with emitting := false }) = h.bridges := by
    refine List.ext_getElem? fun m => ?_
    rw [List.getElem?_modify]
    split
    · rename_i hm
      subst hm
      rw [hb]
      exact congrArg some (congrArg (Bridge.mk b.target b.threshold) he.symm)
    · exact Option.map_id'
  exact (List.modify_modify_eq _ _ _ _).trans hmodify

/-- **What handing a record on comes to**: the target handles the event of the record, if there is
one whose level it takes. -/
theorem run_handOn (deliver : Event → Sink → Action Unit) (b : Bridge) (r : Foreign) (h : Host) :
    (handOn deliver b r).run h = match r.toEvent h.objects with
      | .error failure => (.error failure, h)
      | .ok e =>
        if b.target.enabled e.level.number then (b.target.handle deliver e).run h
        else (.ok (), h) := by
  rw [handOn, run_bind, run_get]
  dsimp only
  rw [run_bind, run_ofExcept]
  cases r.toEvent h.objects with
  | error failure => rfl
  | ok e =>
    dsimp only
    split <;> rfl

/-- What is left after a bridge has handed a record on: a failure stays with the bridge. -/
def absorb : Except Failure Unit × Host → Host
  | (.ok _, k) => k
  | (.error failure, k) => k.swallowing failure

theorem bridging_absorb (r : Except Failure Unit × Host) : (absorb r).bridging = r.2.bridging := by
  obtain ⟨_ | _, k⟩ := r <;> rfl

/-- **What passing a record on comes to**: it never fails, and the bridge is free again. -/
theorem run_pass (deliver : Event → Sink → Action Unit) (n : Nat) (b : Bridge) (r : Foreign)
    (h : Host) :
    (pass deliver n b r).run h
      = (.ok (), mark n false (absorb ((handOn deliver b r).run (mark n true h)))) := by
  rw [pass, run_bind, run_update]
  dsimp only
  rw [run_ensuring, run_tryCatch]
  rcases (handOn deliver b r).run (mark n true h) with ⟨_ | _, k⟩ <;> rfl

/-- A record that is put on a bridge is taken. -/
def Taken (h : Host) (n : Nat) (r : Foreign) : Prop :=
  ∃ b, h.bridges[n]? = some b ∧ takes h b r = .ok true

/-- What putting a record on a bridge comes to if it is not taken. -/
def answer (h : Host) (n : Nat) (r : Foreign) : Except Failure Unit :=
  match h.bridges[n]? with
  | none => .ok ()
  | some b => (takes h b r).map fun _ => ()

/-- **A record that is not taken changes nothing.** -/
theorem run_emitWith_of_not_taken {r : Foreign} (ht : ¬ Taken h n r) (sinks : Sinks)
    (bound : Nat) : (emitWith sinks bound n r).run h = (answer h n r, h) := by
  rw [emitWith.eq_def, run_bind, run_get, answer]
  dsimp only
  cases hb : h.bridges[n]? with
  | none => rfl
  | some b =>
    dsimp only
    rw [run_bind, run_ofExcept]
    rcases hr : takes h b r with _ | _ | _
    · rfl
    · rfl
    · exact absurd ⟨b, hb, hr⟩ ht

/-- A bound of nothing lets no record pass. -/
theorem run_emitWith_zero (sinks : Sinks) (n : Nat) (r : Foreign) (h : Host) :
    (emitWith sinks 0 n r).run h = (answer h n r, h) := by
  rw [emitWith.eq_def, run_bind, run_get, answer]
  dsimp only
  cases h.bridges[n]? with
  | none => rfl
  | some b =>
    dsimp only
    rw [run_bind, run_ofExcept]
    rcases takes h b r with _ | _ | _ <;> rfl

/-- **A record that is taken passes**, and one bridge less is free meanwhile. -/
theorem run_emitWith_of_takes {r : Foreign} (hb : h.bridges[n]? = some b)
    (ht : takes h b r = .ok true) (sinks : Sinks) (bound : Nat) :
    (emitWith sinks (bound + 1) n r).run h
      = (pass (sinks (emitWith sinks bound)) n b r).run h := by
  rw [emitWith.eq_def, run_bind, run_get]
  dsimp only
  rw [hb]
  dsimp only
  rw [run_bind, run_ofExcept, ht]
  rfl

theorem run_emitTo (sinks : Sinks) (n : Nat) (r : Foreign) (h : Host) :
    (emitTo sinks n r).run h = (emitWith sinks h.bridges.length n r).run h := rfl

/-- A bridge that takes a record is free. -/
theorem emitting_of_takes {r : Foreign} (ht : takes h b r = .ok true) : b.emitting = false := by
  unfold takes at ht
  obtain ⟨excluded, -, ht⟩ := Results.map_eq_ok.mp ht
  rw [Bool.and_eq_true, Bool.not_eq_true'] at ht
  exact ht.2

/-- A bridge takes records while no sink is writing. -/
theorem writing_of_takes {r : Foreign} (ht : takes h b r = .ok true) : h.writing = 0 := by
  unfold takes at ht
  obtain ⟨excluded, -, ht⟩ := Results.map_eq_ok.mp ht
  simp only [Bool.and_eq_true, decide_eq_true_eq] at ht
  exact ht.1.2

end Bridge

/-! ## What orderly sinks leave as it is -/

/-- **Handing a record on is orderly if the sinks of the target are.** -/
theorem Bridge.orderly_handOn {P : Kind} (hP : Admits P) {sinks : Sinks} {b : Bridge} (r : Foreign)
    (hs : b.target.All fun s => ∀ e, Orderly P fun put => sinks put e s) :
    Orderly P fun put => handOn (sinks put) b r := by
  refine hP.goOn (G := fun given put => Action.ofExcept (r.toEvent given.objects) >>=
    fun e => if b.target.enabled e.level.number then b.target.handle (sinks put) e else pure ())
    fun given => .bind (.own (hP.result _)) fun e => ?_
  split
  · exact Chain.orderly_handle hP e b.target hs
  · exact .own (hP.result (.ok ()))

section Bridging

variable {sinks : Sinks}
  (hs : ∀ e s, Orderly (fun _ => Keeps Host.bridging) fun put => sinks put e s)

/-- What the stages of a chain do by themselves leaves the bridges as they are. -/
theorem admits_bridging : Admits fun _ => Keeps Host.bridging where
  result x := keeps_ofExcept x
  surroundings := keeps_look _
  noted x := keeps_ofNoted (fun _ _ => rfl) x

/-- **A stretch of writing ends with as many sinks writing as before.** -/
theorem Sink.keeps_bridging_whileWriting {x : Action Unit} (hx : Keeps Host.bridging x) :
    Keeps Host.bridging (whileWriting x) := by
  intro h
  have hx := hx { h with writing := h.writing + 1 }
  rw [whileWriting, run_bind, run_update]
  dsimp only
  rw [run_ensuring]
  obtain ⟨hb, hw⟩ := Prod.mk.injEq .. ▸ hx
  exact Prod.ext hb (by simp [Host.bridging, hw])

include hs

/-- **Orderly sinks leave the bridges as they are**: a record that is put on a bridge passes, and no
bridge has a record on its way that had none before. -/
theorem Bridge.keeps_bridging_emitWith (bound n : Nat) (r : Foreign) :
    Keeps Host.bridging (emitWith sinks bound n r) := by
  -- a bridge is left in the state in which it was entered, so the bound carries the induction
  induction bound generalizing n r with
  | zero =>
    intro h
    rw [run_emitWith_zero]
  | succ bound ih =>
    intro h
    by_cases ht : Taken h n r
    · obtain ⟨b, hb, ht⟩ := ht
      rw [run_emitWith_of_takes hb ht, run_pass]
      have hhandOn : Keeps Host.bridging (handOn (sinks (emitWith sinks bound)) b r) :=
        (orderly_handOn admits_bridging r fun l _ e => hs e l.sink).keeps ih
          Sink.keeps_bridging_whileWriting
      obtain ⟨hbridges, hwriting⟩ :=
        Prod.mk.inj ((bridging_absorb _).trans (hhandOn (mark n true h)))
      refine Prod.ext ?_ hwriting
      exact (congrArg (List.modify · n _) hbridges).trans
        (bridges_mark_mark hb (emitting_of_takes ht))
    · rw [run_emitWith_of_not_taken ht]

theorem Bridge.keeps_bridging_emitTo (n : Nat) (r : Foreign) :
    Keeps Host.bridging (emitTo sinks n r) := fun h => keeps_bridging_emitWith hs _ n r h

end Bridging

/-! ## Two runs -/

/-- **A likeness of hosts** that logging cannot make out: it goes by the same on both, and what is
noted down on both leaves them alike. -/
structure Likeness (S : Host → Host → Prop) : Prop where
  surroundings : ∀ {h k : Host}, S h k → k.surroundings = h.surroundings
  noted : ∀ {h k : Host} (notes : List Note), S h k → S (h.noted notes) (k.noted notes)
  swallowing : ∀ {h k : Host} (failure : Failure), S h k →
    S (h.swallowing failure) (k.swallowing failure)
  marking : ∀ {h k : Host} (n : Nat) (emitting : Bool), S h k →
    S (Bridge.mark n emitting h) (Bridge.mark n emitting k)
  counting : ∀ {h k : Host} (writing : Nat), S h k → S { h with writing } { k with writing }

/-- **Actions that a likeness does not tell apart** from themselves, and that leave the bridges as
they are. -/
def Fair (S : Host → Host → Prop) : Kind := fun _ x => Keeps Host.bridging x ∧ Together S x x

section Likeness

variable {S : Host → Host → Prop} (hS : Likeness S)

include hS

namespace Likeness

variable {h k : Host}

theorem objects (hr : S h k) : k.objects = h.objects :=
  congrArg Surroundings.objects (hS.surroundings hr)

theorem bridges (hr : S h k) : k.bridges = h.bridges :=
  congrArg Surroundings.bridges (hS.surroundings hr)

theorem writing (hr : S h k) : k.writing = h.writing :=
  congrArg Surroundings.writing (hS.surroundings hr)

theorem free (hr : S h k) : k.free = h.free := congrArg (List.countP _) (hS.bridges hr)

theorem takes (hr : S h k) (b : Bridge) (r : Foreign) :
    Bridge.takes k b r = Bridge.takes h b r := by
  unfold Bridge.takes
  rw [hS.objects hr, hS.writing hr]

theorem taken (hr : S h k) (n : Nat) (r : Foreign) :
    Bridge.Taken k n r ↔ Bridge.Taken h n r := by
  simp only [Bridge.Taken, hS.bridges hr, hS.takes hr]

theorem answer (hr : S h k) (n : Nat) (r : Foreign) :
    Bridge.answer k n r = Bridge.answer h n r := by
  simp only [Bridge.answer, hS.bridges hr, hS.takes hr]

theorem absorb {p q : Except Failure Unit × Host} (hresult : q.1 = p.1) (hr : S p.2 q.2) :
    S (Bridge.absorb p) (Bridge.absorb q) := by
  obtain ⟨o, h⟩ := p
  obtain ⟨_, k⟩ := q
  cases hresult
  cases o with
  | ok => exact hr
  | error failure => exact hS.swallowing failure hr

/-- What the stages of a chain do by themselves tells no hosts apart. -/
theorem admits : Admits (Fair S) where
  result x := ⟨keeps_ofExcept x, together_ofExcept x⟩
  surroundings := ⟨keeps_look _, together_look hS.surroundings⟩
  noted x := ⟨keeps_ofNoted (fun _ _ => rfl) x, together_ofNoted hS.noted x⟩

/-- Two stretches of writing are alike, also where no more than some bridges are free. -/
theorem whileWriting_within (bound : Nat) {x y : Action Unit}
    (hxy : Together (fun h k => S h k ∧ h.free ≤ bound) x y) :
    Together (fun h k => S h k ∧ h.free ≤ bound) (Sink.whileWriting x) (Sink.whileWriting y) :=
  Sink.together_whileWriting hxy (fun hr => hS.writing hr.1)
    fun writing hr => ⟨hS.counting writing hr.1, hr.2⟩

/-- **What is orderly tells no hosts apart** if putting records on bridges does not. -/
theorem orderly {put : Put} {α : Type} {F : Put → Action α} (hF : Orderly (Fair S) F)
    (hput : ∀ n r, Together S (put n r) (put n r)) : Together S (F put) (F put) :=
  hF.together (fun hx => hx.2) hput fun hxy => Sink.together_whileWriting hxy hS.writing hS.counting

/-- **What is orderly tells no hosts apart** on which no more than some bridges are free, if putting
records on bridges does not. -/
theorem orderly_within {bound : Nat} {put put' : Put} {α : Type} {F : Put → Action α}
    (hF : Orderly (Fair S) F)
    (hput : ∀ n r, Together (fun h k => S h k ∧ h.free ≤ bound) (put n r) (put' n r)) :
    Together (fun h k => S h k ∧ h.free ≤ bound) (F put) (F put') := by
  refine hF.together (fun hx h k hr => ?_) hput (hS.whileWriting_within bound)
  obtain ⟨hresult, hr'⟩ := hx.2 hr.1
  exact ⟨hresult, hr', Host.free_of_bridging (hx.1 h) ▸ hr.2⟩

end Likeness

variable {sinks : Sinks} {A : Sink → Prop}
  (hs : ∀ e s, A s → Orderly (Fair S) fun put => sinks put e s)
  (hA : ∀ {h k}, S h k → ∀ b ∈ h.bridges, b.target.All A)

include hs hA

/-- **Two bounds come to the same** on hosts that are alike, if no more bridges are free there. -/
theorem Bridge.together_emitWith {bound : Nat} : ∀ {limit limit' : Nat}, bound ≤ limit →
    bound ≤ limit' → ∀ (n : Nat) (r : Foreign), Together (fun h k => S h k ∧ h.free ≤ bound)
      (emitWith sinks limit n r) (emitWith sinks limit' n r) := by
  -- entering a bridge leaves one less free, so the bound on those that are carries the induction
  induction bound with
  | zero =>
    intro limit limit' _ _ n r h k hr
    have ht : ¬ Taken h n r := by
      rintro ⟨b, hb, ht⟩
      have := free_mark_true hb (emitting_of_takes ht)
      omega
    rw [run_emitWith_of_not_taken ht, run_emitWith_of_not_taken (mt (hS.taken hr.1 n r).mp ht),
      hS.answer hr.1]
    exact ⟨rfl, hr⟩
  | succ bound ih =>
    rintro (_ | limit) (_ | limit') hl hl' n r h k hr <;> [omega; omega; omega; skip]
    by_cases ht : Taken h n r
    · obtain ⟨b, hb, ht⟩ := ht
      have hfree := free_mark_true hb (emitting_of_takes ht)
      rw [run_emitWith_of_takes hb ht, run_emitWith_of_takes (hS.bridges hr.1 ▸ hb)
        ((hS.takes hr.1 b r).trans ht)]
      have hhandOn : Orderly (Fair S) fun put => handOn (sinks put) b r :=
        orderly_handOn hS.admits r fun l hl e =>
          hs e l.sink (hA hr.1 b (List.mem_of_getElem? hb) l hl)
      obtain ⟨hresult, hr'⟩ := hS.orderly_within hhandOn
        (ih (Nat.le_of_succ_le_succ hl) (Nat.le_of_succ_le_succ hl'))
        (h := mark n true h) (k := mark n true k) ⟨hS.marking n true hr.1, by omega⟩
      rw [run_pass, run_pass]
      refine ⟨rfl, hS.marking n false (hS.absorb hresult hr'.1), ?_⟩
      refine Nat.le_trans (free_mark_false n _) (Nat.succ_le_succ ?_)
      rw [Host.free_of_bridging (bridging_absorb _)]
      exact hr'.2
    · rw [run_emitWith_of_not_taken ht, run_emitWith_of_not_taken (mt (hS.taken hr.1 n r).mp ht),
        hS.answer hr.1]
      exact ⟨rfl, hr⟩

/-- **Putting a record on a bridge tells no hosts apart that are alike.** -/
theorem Bridge.together_emitTo (n : Nat) (r : Foreign) :
    Together S (emitTo sinks n r) (emitTo sinks n r) := by
  intro h k hr
  rw [run_emitTo, run_emitTo, hS.bridges hr]
  obtain ⟨hresult, hr'⟩ := together_emitWith hS hs hA (Nat.le_refl h.bridges.length)
    (Nat.le_refl _) n r ⟨hr, List.countP_le_length⟩
  exact ⟨hresult, hr'.1⟩

end Likeness

/-! ## Bridges to sinks of a sort -/

/-- Hosts that are alike, and whose bridges lead to sinks of a sort. -/
def Leading (A : Sink → Prop) (S : Host → Host → Prop) (h k : Host) : Prop :=
  S h k ∧ ∀ b ∈ h.bridges, b.target.All A

/-- **Where bridges lead cannot change** by what is logged. -/
theorem Likeness.leading {S : Host → Host → Prop} (hS : Likeness S) (A : Sink → Prop) :
    Likeness (Leading A S) where
  surroundings hr := hS.surroundings hr.1
  noted notes hr := ⟨hS.noted notes hr.1, hr.2⟩
  swallowing failure hr := ⟨hS.swallowing failure hr.1, hr.2⟩
  marking n emitting hr := by
    refine ⟨hS.marking n emitting hr.1, fun b hb => ?_⟩
    obtain ⟨m, hm⟩ := List.mem_iff_getElem?.mp hb
    rw [Bridge.mark, List.getElem?_modify] at hm
    obtain ⟨b', hb', rfl⟩ := Option.map_eq_some_iff.mp hm
    have htarget := hr.2 b' (List.mem_of_getElem? hb')
    split <;> exact htarget
  counting writing hr := ⟨hS.counting writing hr.1, hr.2⟩

theorem Fair.leading {S : Host → Host → Prop} {A : Sink → Prop} {α : Type} {x : Action α}
    (hx : Fair S α x) : Fair (Leading A S) α x := by
  refine ⟨hx.1, fun h k hr => ?_⟩
  obtain ⟨hresult, hr'⟩ := hx.2 hr.1
  have hbridges : (x.run h).2.bridges = h.bridges := (Prod.mk.inj (hx.1 h)).1
  exact ⟨hresult, hr', hbridges ▸ hr.2⟩

/-! ## Equality, and parts in which nothing is noted -/

/-- Equal hosts are alike. -/
theorem likeness_eq : Likeness Eq where
  surroundings hr := hr ▸ rfl
  noted _ hr := hr ▸ rfl
  swallowing _ hr := hr ▸ rfl
  marking _ _ hr := hr ▸ rfl
  counting _ hr := hr ▸ rfl

/-- Orderly sinks do not tell equal hosts apart. -/
theorem Orderly.fair_eq {α : Type} {F : Put → Action α}
    (hF : Orderly (fun _ => Keeps Host.bridging) F) : Orderly (Fair Eq) F :=
  hF.mono fun hx => ⟨hx, by rintro h _ rfl; exact ⟨rfl, rfl⟩⟩

/-- **The bound is never reached**: all bounds that the free bridges do not exceed come to the
same. -/
theorem Bridge.run_emitWith_eq {sinks : Sinks}
    (hs : ∀ e s, Orderly (fun _ => Keeps Host.bridging) fun put => sinks put e s) {h : Host}
    {bound : Nat} (hbound : h.free ≤ bound) (n : Nat) (r : Foreign) :
    (emitWith sinks bound n r).run h = (emitTo sinks n r).run h := by
  rw [run_emitTo]
  have htwo := together_emitWith likeness_eq (A := fun _ => True) (fun e s _ => (hs e s).fair_eq)
    (fun _ _ _ _ _ => trivial) hbound List.countP_le_length n r (h := h) (k := h)
    ⟨rfl, Nat.le_refl _⟩
  exact Prod.ext htwo.1.symm htwo.2.1

/-- **Hosts of which a part is given are alike**, if nothing is noted in that part. -/
theorem likeness_of_part {γ : Type} {f : Host → γ} (hnoted : ∀ h notes, f (h.noted notes) = f h)
    (hswallowing : ∀ h failure, f (h.swallowing failure) = f h)
    (hmarking : ∀ h n emitting, f (Bridge.mark n emitting h) = f h)
    (hcounting : ∀ (h : Host) writing, f { h with writing } = f h) (v : γ) :
    Likeness fun h k => h = k ∧ f h = v where
  surroundings hr := hr.1 ▸ rfl
  noted notes hr := ⟨hr.1 ▸ rfl, (hnoted _ notes).trans hr.2⟩
  swallowing failure hr := ⟨hr.1 ▸ rfl, (hswallowing _ failure).trans hr.2⟩
  marking n emitting hr := ⟨hr.1 ▸ rfl, (hmarking _ n emitting).trans hr.2⟩
  counting writing hr := ⟨hr.1 ▸ rfl, (hcounting _ writing).trans hr.2⟩

end DiscreetLog
