import DiscreetLog.Proofs.Host.Calls

/-!
# A record passes a bridge once

Two guards keep a record from coming back to the chain that made it: a bridge takes nothing while a
record is on its way through it, and nothing while a sink is writing. Sinks may fail, and may put
records on bridges themselves, at any depth; whatever they do, each guard is lifted again by whoever
set it. So a bridge is as good after a run of calls as before, and what becomes of a record at a
bridge is settled by the state in which it comes there: it is dropped, or it is handed to the target
once (`records_pass_once`).

What becomes of it is stated without the bound on free bridges, which is never reached.
-/

namespace DiscreetLog

open DiscreetLog.Action

/-- **Nothing is under way on a host**: no sink is writing, and no record is passing a bridge. -/
def Host.Quiet (h : Host) : Prop := h.writing = 0 ∧ ∀ b ∈ h.bridges, b.emitting = false

namespace Foreign

/-- The name of a logger up to its first point. -/
def firstPart (name : String) : String := String.ofList (name.toList.takeWhile (· ≠ '.'))

/-- What stands before the first point. -/
theorem takeWhile_eq_iff {part : List Char} (hp : '.' ∉ part) (name : List Char) :
    name.takeWhile (· ≠ '.') = part ↔ name = part ∨ part ++ ['.'] <+: name := by
  induction part generalizing name with
  | nil =>
    cases name with
    | nil => simp
    | cons c name => simp [List.takeWhile_cons, List.cons_prefix_cons, eq_comm (a := c)]
  | cons a part ih =>
    obtain ⟨ha, hp⟩ := not_or.mp (mt List.mem_cons.mpr hp)
    cases name with
    | nil => simp
    | cons c name =>
      rw [List.cons_append, List.cons_prefix_cons, List.cons.injEq, eq_comm (a := a) (b := c),
        ← and_or_left, ← ih hp, List.takeWhile_cons]
      by_cases hc : c = '.'
      · subst hc
        simp [ha]
      · simp [hc]

/-- A logger is within one whose name has no points if that is the first part of its name. -/
theorem isWithin_iff {part : String} (hp : '.' ∉ part.toList) (name : String) :
    isWithin part name = true ↔ firstPart name = part := by
  rw [isWithin, Bool.or_eq_true, decide_eq_true_iff, List.isPrefixOf_iff_prefix, firstPart,
    ← String.toList_inj, ← takeWhile_eq_iff hp, ← String.toList_inj, String.toList_ofList]

/-- **A logger is excluded by the first part of its name.** -/
theorem isExcluded_iff (name : String) :
    isExcluded name = true ↔ firstPart name ∈ excludedLoggers := by
  have hplain : ∀ part ∈ excludedLoggers, '.' ∉ part.toList := by decide
  rw [isExcluded, List.any_eq_true]
  constructor
  · rintro ⟨part, hpart, h⟩
    rwa [(isWithin_iff (hplain part hpart) name).mp h]
  · exact fun h => ⟨_, h, (isWithin_iff (hplain _ h) name).mpr rfl⟩

/-- The event of a record has the level of its number. -/
theorem levelOf_of_toEvent {σ : Objects} {r : Foreign} {e : Event} (he : r.toEvent σ = .ok e) :
    levelOf σ r.number = .ok e.level := by
  unfold toEvent at he
  obtain ⟨attrs, -, he⟩ := Results.bind_eq_ok.mp he
  obtain ⟨time, -, he⟩ := Results.bind_eq_ok.mp he
  obtain ⟨level, hlevel, he⟩ := Results.bind_eq_ok.mp he
  obtain ⟨message, -, rfl⟩ := Results.map_eq_ok.mp he
  exact hlevel

end Foreign

namespace Bridge

variable {n : Nat} {b : Bridge} {r : Foreign} {h : Host} {label : Option Label} {name : String}

/-- **What a bridge drops** of the records whose logger has a name. -/
def Drops (h : Host) (b : Bridge) (name : String) : Prop :=
  Foreign.firstPart name ∈ Foreign.excludedLoggers ∨ 0 < h.writing ∨ b.emitting = true

instance : Decidable (Drops h b name) := inferInstanceAs (Decidable (_ ∨ _ ∨ _))

theorem takes_of_text (hr : r.logger = .atom label (.text name)) (h : Host) (b : Bridge) :
    takes h b r = .ok (decide (¬ Drops h b name)) := by
  have htaken : (!Foreign.isExcluded name && decide (h.writing = 0) && !b.emitting) = true
      ↔ ¬ Drops h b name := by
    simp only [Drops, ← Foreign.isExcluded_iff, Bool.and_eq_true, Bool.not_eq_true',
      decide_eq_true_iff, not_or, Bool.not_eq_true, Nat.not_lt, Nat.le_zero, and_assoc]
  rw [takes, hr]
  exact congrArg Except.ok (Bool.eq_iff_iff.mpr (htaken.trans decide_eq_true_iff.symm))

/-- A bridge that is entered and left leaves the host as it was. -/
theorem mark_mark (hb : h.bridges[n]? = some b) (he : b.emitting = false) :
    mark n false (mark n true h) = h :=
  congrArg (fun bridges => { h with bridges }) (bridges_mark_mark hb he)

section Sinks

variable {sinks : Sinks}
  (hs : ∀ e s, Orderly (fun _ => Keeps Host.bridging) fun put => sinks put e s)

include hs

/-- **What a chain does with an event does not depend on the bound**, as long as no more bridges
are free. -/
theorem run_handle_eq {bound : Nat} (hbound : h.free ≤ bound) (c : Chain) (e : Event) :
    (c.handle (sinks (emitWith sinks bound)) e).run h
      = (c.handle (sinks (emitTo sinks)) e).run h := by
  have hc : Orderly (Fair Eq) fun put => c.handle (sinks put) e :=
    (Chain.orderly_handle admits_bridging e c fun l _ e => hs e l.sink).fair_eq
  have hput (n : Nat) (r : Foreign) : Together (fun h k => h = k ∧ h.free ≤ bound)
      (emitWith sinks bound n r) (emitTo sinks n r) := by
    rintro h _ ⟨rfl, hbound⟩
    rw [run_emitWith_eq hs hbound]
    refine ⟨rfl, rfl, ?_⟩
    rwa [Host.free_of_bridging (keeps_bridging_emitTo hs n r h)]
  obtain ⟨hresult, hhost, -⟩ := likeness_eq.orderly_within hc hput ⟨rfl, hbound⟩
  exact Prod.ext hresult.symm hhost

/-- **What becomes of a record at a bridge**: it is dropped, or it is no record that makes an event,
or the target does not take its level, or the target handles its event, with the bridge closed
meanwhile. A failure on the way stays with the bridge. -/
theorem run_emitTo_of_text (hb : h.bridges[n]? = some b)
    (hr : r.logger = .atom label (.text name)) :
    (emitTo sinks n r).run h =
      if Drops h b name then (.ok (), h)
      else match r.toEvent h.objects with
        | .error failure => (.ok (), h.swallowing failure)
        | .ok e =>
          if b.target.enabled e.level.number then
            match (b.target.handle (sinks (emitTo sinks)) e).run (mark n true h) with
            | (.ok _, k) => (.ok (), mark n false k)
            | (.error failure, k) => (.ok (), mark n false (k.swallowing failure))
          else (.ok (), h) := by
  have htakes := takes_of_text hr h b
  split
  · rename_i hd
    rw [decide_eq_false (not_not_intro hd)] at htakes
    have hnot : ¬ Taken h n r := by
      rintro ⟨c, hc, ht⟩
      rw [hb] at hc
      cases hc
      rw [htakes] at ht
      cases ht
    rw [run_emitTo, run_emitWith_of_not_taken hnot, answer, hb]
    dsimp only
    rw [htakes]
    rfl
  · rename_i hd
    rw [decide_eq_true hd] at htakes
    have hfree := free_mark_true hb (emitting_of_takes htakes)
    obtain ⟨bound, hlength⟩ : ∃ bound, h.bridges.length = bound + 1 :=
      ⟨_, (Nat.succ_pred_eq_of_pos (List.length_pos_of_mem (List.mem_of_getElem? hb))).symm⟩
    have hbound : (mark n true h).free ≤ bound := by
      have : h.free ≤ h.bridges.length := List.countP_le_length
      omega
    have hleft := mark_mark hb (emitting_of_takes htakes)
    rw [run_emitTo, hlength, run_emitWith_of_takes hb htakes, run_pass, run_handOn]
    have hobjects : (mark n true h).objects = h.objects := rfl
    rw [hobjects]
    cases r.toEvent h.objects with
    | error failure =>
      exact congrArg (fun k : Host => (Except.ok (), k.swallowing failure)) hleft
    | ok e =>
      dsimp only
      split
      · rw [run_handle_eq hs hbound]
        rcases (b.target.handle (sinks (emitTo sinks)) e).run (mark n true h) with ⟨_ | _, k⟩
        · rfl
        · rfl
      · exact congrArg (Prod.mk _) hleft

/-- **A bridge passes each record once, and nothing keeps it closed.** Let the sinks act on anything
but the bridges, fail as they like, and put records on bridges themselves, while they write or not.

After any calls, whether they fail or not, the bridges are as they were before, and as many sinks
are writing; where nothing was under way nothing is. The bound on the bridges that are entered is
never reached. And whatever the state in which a record comes to a bridge, it is dropped if the
first part of the name of its logger is excluded, if a sink is writing, or if a record is passing
the bridge already. Otherwise it is handed to the target once if it makes an event whose level the
target takes, which is that of its number, and not at all if not. The bridge keeps the failure of
the target, and that of a record that makes no event, and no other. -/
theorem records_pass_once :
    (∀ (cs : List LogCall) (h : Host),
      let k := (LogCall.runAll sinks cs h).2
      k.bridges = h.bridges ∧ k.writing = h.writing ∧ (h.Quiet → k.Quiet))
    ∧ (∀ (bound n : Nat) (r : Foreign) (h : Host), h.free ≤ bound →
      (emitWith sinks bound n r).run h = (emitTo sinks n r).run h)
    ∧ ∀ (n : Nat) (r : Foreign) (h : Host) (b : Bridge) (label : Option Label) (name : String),
      h.bridges[n]? = some b → r.logger = .atom label (.text name) →
      (emitTo sinks n r).run h =
        (if Drops h b name then (.ok (), h)
        else match r.toEvent h.objects with
          | .error failure => (.ok (), h.swallowing failure)
          | .ok e =>
            if b.target.enabled e.level.number then
              match (b.target.handle (sinks (emitTo sinks)) e).run (mark n true h) with
              | (.ok _, k) => (.ok (), mark n false k)
              | (.error failure, k) => (.ok (), mark n false (k.swallowing failure))
            else (.ok (), h))
      ∧ ∀ e, r.toEvent h.objects = .ok e → Foreign.levelOf h.objects r.number = .ok e.level := by
  refine ⟨fun cs h => ?_, fun bound n r h hbound => run_emitWith_eq hs hbound n r, ?_⟩
  · obtain ⟨hbridges, hwriting⟩ := Prod.mk.inj (LogCall.bridging_runAll hs cs h)
    refine ⟨hbridges, hwriting, ?_⟩
    rintro ⟨hw, hb⟩
    exact ⟨hwriting.trans hw, hbridges.symm ▸ hb⟩
  · exact fun n r h b label name hb hr =>
      ⟨run_emitTo_of_text hs hb hr, fun e he => Foreign.levelOf_of_toEvent he⟩

end Sinks

/-- A bridge over two sinks, the first of which logs through the same bridge, and the second of
which fails. A record is kept once, the record of the sink is dropped, and the failure stays with
the bridge; a second record passes as the first one did. -/
theorem records_pass_once_chatty :
    let keeper (conduct : Conduct) : Chain := .sink (.keeping ⟨.info, 0, [], [], conduct⟩)
    let h : Host :=
      { Host.fresh [] ⟨⟨2024, 5, 1⟩, 10, 0, 0, 0, some 0⟩ [] "/" "host" with
        stores := [[]]
        bridges := [⟨.fanOut [keeper (.chatty "b" "noise"), keeper (.failing "OSError" "gone")], 0,
          false⟩]
        published := [("b", 0)] }
    let r : Foreign := ⟨.text "app.users", .int 20, ⟨.text "app.py", .int 3, .text "login"⟩,
      .text "login", .null, .int 0, [], .nothing⟩
    (∀ e s, Orderly (fun _ => Keeps Host.bridging) fun put => Sinks.own put e s)
      ∧ h.bridges[0]? = some ⟨.fanOut [keeper (.chatty "b" "noise"),
        keeper (.failing "OSError" "gone")], 0, false⟩
      ∧ h.Quiet ∧ (LogCall.runAll .own [.put 0 r, .put 0 r] h).2.Quiet
      ∧ ((emitTo .own 0 r).run h).1.isOk = true
      ∧ ((emitTo .own 0 r).run h).2.stores.map List.length = [1]
      ∧ ((emitTo .own 0 r).run h).2.swallowed.map Failure.message = ["gone"] := by
  intro keeper h r
  have hquiet : h.Quiet := ⟨rfl, by decide⟩
  obtain ⟨hcalls, -, hpass⟩ := records_pass_once Sinks.orderly_bridging
  obtain ⟨hrun, -⟩ := hpass 0 r h _ none "app.users" rfl rfl
  refine ⟨Sinks.orderly_bridging, rfl, hquiet, (hcalls _ h).2.2 hquiet, ?_⟩
  rw [hrun]
  exact ⟨by decide +kernel, by decide +kernel, by decide +kernel⟩

end Bridge

end DiscreetLog
