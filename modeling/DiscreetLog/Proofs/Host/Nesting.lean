import DiscreetLog.Proofs.Host.Passing
import Mathlib.Data.List.Nodup

/-!
# Chains inside chains

A sink may log while it handles an event, and the record may come by a bridge to a chain that has
an event under way – to the same chain, even. `Puts` says which records are put on bridges in the
course of what is done, and `Handling.Within` which handlings begin while another one lasts, with
the bridges by which they came, outermost first.

A bridge is entered by one record at a time, so handlings that lie in one another came by different
bridges, each of which was free when the outermost began (`Within.bridges`). That is all that keeps
a chain from being entered again: a chain whose bridges are all taken is not, and a chain that was
entered by a logger leaves its bridges free. There the first record that a sink logs outside
writing does enter the chain a second time (`chain_inside_itself`).
-/

namespace DiscreetLog

open DiscreetLog.Action

/-! ## What is put on bridges -/

/-- **In the course of what is done on a host** a record is put on a bridge, and the host has become
another one by then. The actions that are over by then are orderly ones. -/
inductive Puts (put : Put) :
    {α : Type} → (Put → Action α) → Host → Nat → Foreign → Host → Prop where
  | here (n : Nat) (r : Foreign) (h : Host) : Puts put (fun put => put n r) h n r h
  | first {α β : Type} {F : Put → Action α} {G : α → Put → Action β} {h k : Host} {n : Nat}
      {r : Foreign} (hF : Puts put F h n r k) :
      Puts put (fun put => F put >>= fun a => G a put) h n r k
  | next {α β : Type} {F : Put → Action α} {G : α → Put → Action β} {h h' k : Host} {n : Nat}
      {r : Foreign} {a : α} (hF : Orderly (fun _ => Keeps Host.bridging) F)
      (hr : (F put).run h = (.ok a, h')) (hG : Puts put (G a) h' n r k) :
      Puts put (fun put => F put >>= fun a => G a put) h n r k
  | tried {α : Type} {F : Put → Action α} {G : Failure → Put → Action α} {h k : Host} {n : Nat}
      {r : Foreign} (hF : Puts put F h n r k) :
      Puts put (fun put => tryCatch (F put) fun failure => G failure put) h n r k
  | caught {α : Type} {F : Put → Action α} {G : Failure → Put → Action α} {h h' k : Host} {n : Nat}
      {r : Foreign} {failure : Failure} (hF : Orderly (fun _ => Keeps Host.bridging) F)
      (hr : (F put).run h = (.error failure, h')) (hG : Puts put (G failure) h' n r k) :
      Puts put (fun put => tryCatch (F put) fun failure => G failure put) h n r k
  | writing {F : Put → Action Unit} {h k : Host} {n : Nat} {r : Foreign}
      (hF : Puts put F { h with writing := h.writing + 1 } n r k) :
      Puts put (fun put => Sink.whileWriting (F put)) h n r k

/-- **Nothing else is put on bridges**: two ways of putting records that come to the same wherever
one is put come to the same altogether. -/
theorem Orderly.run_congr {put put' : Put} {α : Type} {F : Put → Action α}
    (hF : Orderly (fun _ => Keeps Host.bridging) F) {h : Host}
    (hput : ∀ n r k, Puts put F h n r k → (put n r).run k = (put' n r).run k) :
    (F put).run h = (F put').run h := by
  induction hF generalizing h with
  | own hx => rfl
  | put n r => exact hput n r h (.here n r h)
  | bind hF hG ihF ihG =>
    have hfirst := ihF fun n r k hp => hput n r k hp.first
    rw [run_bind, run_bind, ← hfirst]
    split
    · rename_i a h' hr
      exact ihG a fun n r k hp => hput n r k (.next hF hr hp)
    · rfl
  | tryCatch hF hG ihF ihG =>
    have hfirst := ihF fun n r k hp => hput n r k hp.tried
    rw [run_tryCatch, run_tryCatch, ← hfirst]
    split
    · rfl
    · rename_i failure h' hr
      exact ihG failure fun n r k hp => hput n r k (.caught hF hr hp)
  | writing hF ih =>
    have hwhile := ih (h := { h with writing := h.writing + 1 })
      fun n r k hp => hput n r k hp.writing
    rw [Sink.run_whileWriting, Sink.run_whileWriting, hwhile]

/-- **A record is put on bridges that are as they were**, and no sink has stopped writing. -/
theorem Puts.bridging {put : Put} (hput : ∀ n r, Keeps Host.bridging (put n r)) {α : Type}
    {F : Put → Action α} {h k : Host} {n : Nat} {r : Foreign} (hp : Puts put F h n r k) :
    k.bridges = h.bridges ∧ h.writing ≤ k.writing := by
  have hkept {β : Type} {F : Put → Action β} {x : Except Failure β} {h h' : Host}
      (hF : Orderly (fun _ => Keeps Host.bridging) F) (hr : (F put).run h = (x, h')) :
      h'.bridges = h.bridges ∧ h'.writing = h.writing := by
    have hkeeps := hF.keeps hput Sink.keeps_bridging_whileWriting h
    rw [hr] at hkeeps
    exact Prod.mk.inj hkeeps
  induction hp with
  | here => exact ⟨rfl, Nat.le_refl _⟩
  | first _ ih | tried _ ih => exact ih
  | next hF hr _ ih | caught hF hr _ ih =>
    obtain ⟨hbridges, hwriting⟩ := hkept hF hr
    exact ⟨ih.1.trans hbridges, hwriting ▸ ih.2⟩
  | writing _ ih => exact ⟨ih.1, Nat.le_trans (Nat.le_succ _) ih.2⟩

/-! ## Handlings in one another -/

/-- **An event that is handled by a chain**, from a host on. -/
structure Handling where
  chain : Chain
  event : Event
  host : Host

namespace Handling

variable {sinks : Sinks}

/-- In the course of a handling a record is put on a bridge of a host. -/
def Logs (sinks : Sinks) (x : Handling) (n : Nat) (r : Foreign) (k : Host) : Prop :=
  Puts (Bridge.emitTo sinks) (fun put => x.chain.handle (sinks put) x.event) x.host n r k

/-- **A handling begins within another one**: bridges have taken records that were put on them, one
in the course of the handling, the next in the course of what came of that, and so on. -/
inductive Within (sinks : Sinks) (x : Handling) : List Nat → Handling → Prop where
  | self : Within sinks x [] x
  | inner {ns : List Nat} {y : Handling} {n : Nat} {r : Foreign} {k : Host} {b : Bridge} {e : Event}
      (hy : Within sinks x ns y) (hp : y.Logs sinks n r k) (hb : k.bridges[n]? = some b)
      (ht : Bridge.takes k b r = .ok true) (he : r.toEvent k.objects = .ok e)
      (hl : b.target.enabled e.level.number = true) :
      Within sinks x (ns ++ [n]) ⟨b.target, e, Bridge.mark n true k⟩

/-- **The chain of a handling is entered again** while the handling lasts. -/
def Reenters (sinks : Sinks) (x : Handling) : Prop :=
  ∃ ns y, Within sinks x ns y ∧ ns ≠ [] ∧ y.chain = x.chain

/-- **A keeping sink that logs** puts its record on its bridge before it keeps the event. -/
theorem logs_of_chatty {x : Handling} {k : Keeper} {bridge logger : String} {n : Nat}
    (hx : x.chain = .sink (.keeping k)) (hk : k.conduct = .chatty bridge logger)
    (hn : x.host.published.lookup bridge = some n) :
    x.Logs .own n (.chat logger) x.host := by
  have hnamed : Bridge.named x.host.published bridge = .ok n := by
    rw [Bridge.named, hn]
    rfl
  have hput : Puts (Bridge.emitTo .own)
      (fun put => Action.ofExcept (Bridge.named x.host.published bridge) >>=
        fun n => put n (.chat logger)) x.host n (.chat logger) x.host :=
    .next (.own (keeps_ofExcept _)) (by rw [run_ofExcept, hnamed]) (.here n _ _)
  have htalk : Puts (Bridge.emitTo .own) (fun put => Bridge.talkVia put bridge (.chat logger))
      x.host n (.chat logger) x.host :=
    .next (F := fun _ => get) (.own keeps_get) (run_get _) hput
  unfold Logs
  rw [hx]
  simp only [Chain.handle, Sinks.own, Sink.deliver, hk]
  exact .first htalk

section Sinks

variable (hs : ∀ e s, Orderly (fun _ => Keeps Host.bridging) fun put => sinks put e s)

include hs

/-- **What is put on bridges in the course of a handling is all that is**: where other bridges do
the same with each of these records, the handling comes to the same. -/
theorem run_eq_of_logs (x : Handling) {put : Put}
    (hput : ∀ n r k, x.Logs sinks n r k → (Bridge.emitTo sinks n r).run k = (put n r).run k) :
    (x.chain.handle (sinks (Bridge.emitTo sinks)) x.event).run x.host
      = (x.chain.handle (sinks put) x.event).run x.host :=
  Orderly.run_congr
    (Chain.orderly_handle admits_bridging x.event x.chain fun l _ e => hs e l.sink) hput

/-- A record is put on bridges that are as they were when the handling began. -/
theorem Logs.bridging {x : Handling} {n : Nat} {r : Foreign} {k : Host} (hp : x.Logs sinks n r k) :
    k.bridges = x.host.bridges ∧ x.host.writing ≤ k.writing :=
  Puts.bridging (Bridge.keeps_bridging_emitTo hs) hp

/-- **Within a handling the bridges are taken by which one came there**, and no others. -/
theorem Within.taken {x y : Handling} {ns : List Nat} (hy : Within sinks x ns y) (m : Nat) :
    y.host.bridges[m]?
      = (x.host.bridges[m]?).map fun b => if m ∈ ns then { b with emitting := true } else b := by
  induction hy with
  | self => simp
  | @inner ns y n r k b e hy hp hb ht he hl ih =>
    have hstep : (Bridge.mark n true k).bridges[m]?
        = (y.host.bridges[m]?).map fun b => if n = m then { b with emitting := true } else b := by
      rw [Bridge.mark, List.getElem?_modify, (hp.bridging hs).1]
      cases y.host.bridges[m]? with
      | none => rfl
      | some c => split <;> rfl
    rw [hstep, ih, Option.map_map]
    refine congrArg (Option.map · _) (funext fun c => ?_)
    by_cases hn : n = m
    · subst hn
      by_cases hm : n ∈ ns <;> simp [hm]
    · have hm : m ∈ ns ++ [n] ↔ m ∈ ns := by simp [Ne.symm hn]
      simp only [Function.comp_apply, hn, if_false, hm]

/-- **Handlings that lie in one another came by different bridges**, which were all free when the
outermost began; and none came while a sink was writing. -/
theorem Within.bridges {x y : Handling} {ns : List Nat} (hy : Within sinks x ns y) :
    ns.Nodup ∧ (∀ n ∈ ns, ∃ b, x.host.bridges[n]? = some b ∧ b.emitting = false)
      ∧ x.host.writing ≤ y.host.writing ∧ (ns ≠ [] → x.host.writing = 0) := by
  induction hy with
  | self => exact ⟨List.nodup_nil, nofun, Nat.le_refl _, absurd rfl⟩
  | @inner ns y n r k b e hy hp hb ht he hl ih =>
    obtain ⟨hnodup, hfree, hle, -⟩ := ih
    obtain ⟨hbridges, hwriting⟩ := hp.bridging hs
    have hidle := Bridge.writing_of_takes ht
    -- a bridge by which one came there is taken, so the record came by another one
    have htaken := hy.taken hs n
    rw [← hbridges, hb] at htaken
    obtain ⟨c, hc, hb⟩ := Option.map_eq_some_iff.mp htaken.symm
    have hn : n ∉ ns := by
      intro hn
      rw [if_pos hn] at hb
      have hemitting := Bridge.emitting_of_takes ht
      rw [← hb] at hemitting
      cases hemitting
    rw [if_neg hn] at hb
    subst hb
    refine ⟨List.nodup_append.mpr ⟨hnodup, List.nodup_singleton n, ?_⟩, ?_, ?_, ?_⟩
    · rintro m hm _ hn' rfl
      exact hn (List.mem_singleton.mp hn' ▸ hm)
    · intro m hm
      rcases List.mem_append.mp hm with hm | hm
      · exact hfree m hm
      · rw [List.mem_singleton.mp hm]
        exact ⟨c, hc, Bridge.emitting_of_takes ht⟩
    · exact Nat.le_trans hle hwriting
    · exact fun _ => Nat.le_zero.mp (hidle ▸ Nat.le_trans hle hwriting)

/-- **A chain is entered again only by a bridge that was left free**, and never from within a
stretch of writing. -/
theorem Reenters.exists_free {x : Handling} (hx : x.Reenters sinks) :
    x.host.writing = 0 ∧ ∃ b ∈ x.host.bridges, b.target = x.chain ∧ b.emitting = false := by
  obtain ⟨_, _, hy, hne, hchain⟩ := hx
  obtain ⟨-, hfree, -, hidle⟩ := hy.bridges hs
  refine ⟨hidle hne, ?_⟩
  cases hy with
  | self => exact absurd rfl hne
  | @inner ns y n r k b e hy hp hb ht he hl =>
    obtain ⟨c, hc, hemitting⟩ := hfree n (List.mem_append_right _ (List.mem_singleton_self n))
    refine ⟨c, List.mem_of_getElem? hc, ?_, hemitting⟩
    -- the bridge leads where it led when the outermost handling began
    have htaken := hy.taken hs n
    rw [← (hp.bridging hs).1, hb, hc] at htaken
    have htarget : b.target = c.target := by
      rw [Option.some.inj htaken]
      split <;> rfl
    exact htarget.symm.trans hchain

/-- **A chain is entered again only by a bridge that was left free.** Let the sinks act on anything
but the bridges, fail as they like, and log while they handle an event, while they write or not.

What sinks log while they handle an event is all that is put on bridges meanwhile. Handlings that
begin within another one, at any depth, came by different bridges, each of which was free when it
began; a record that comes to a bridge that was taken then is dropped, and so is every record if a
sink was writing then. So the chain of a handling is not entered again while it lasts if no bridge
to it was free, or if sinks log in stretches of writing alone. In particular it is not after
whatever calls if a record entered it by its only bridge. A record that comes to a free bridge to
the chain outside writing, from a logger that is not excluded, does enter it again if it makes an
event whose level the chain takes: so it is where a logger entered the chain and its sinks log. -/
theorem reenters_by_free_bridge :
    (∀ (x : Handling) (put : Put),
      (∀ n r k, x.Logs sinks n r k → (Bridge.emitTo sinks n r).run k = (put n r).run k) →
      (x.chain.handle (sinks (Bridge.emitTo sinks)) x.event).run x.host
        = (x.chain.handle (sinks put) x.event).run x.host)
    ∧ (∀ (x y : Handling) (ns : List Nat), Within sinks x ns y →
      ns.Nodup ∧ (∀ n ∈ ns, ∃ b, x.host.bridges[n]? = some b ∧ b.emitting = false)
      ∧ ∀ (n : Nat) (r : Foreign) (k : Host) (b : Bridge) (label : Option Label) (name : String),
        y.Logs sinks n r k → x.host.bridges[n]? = some b → r.logger = .atom label (.text name) →
        b.emitting = true ∨ 0 < x.host.writing → (Bridge.emitTo sinks n r).run k = (.ok (), k))
    ∧ (∀ x : Handling, x.Reenters sinks →
      x.host.writing = 0 ∧ ∃ b ∈ x.host.bridges, b.target = x.chain ∧ b.emitting = false)
    ∧ (∀ x : Handling, (∀ ns y n r k, Within sinks x ns y → y.Logs sinks n r k → 0 < k.writing) →
      ¬ x.Reenters sinks)
    ∧ (∀ (cs : List LogCall) (h : Host) (n : Nat) (b : Bridge) (e : Event),
      h.bridges[n]? = some b → (∀ m c, h.bridges[m]? = some c → c.target = b.target → m = n) →
      ¬ Reenters sinks ⟨b.target, e, Bridge.mark n true (LogCall.runAll sinks cs h).2⟩)
    ∧ ∀ (x : Handling) (n : Nat) (r : Foreign) (k : Host) (b : Bridge) (e : Event)
      (label : Option Label) (name : String), x.Logs sinks n r k → k.bridges[n]? = some b →
      b.target = x.chain → r.logger = .atom label (.text name) → ¬ Bridge.Drops k b name →
      r.toEvent k.objects = .ok e → x.chain.enabled e.level.number = true → x.Reenters sinks := by
  refine ⟨fun x _ hput => x.run_eq_of_logs hs hput, fun x y ns hy => ?_,
    fun x hx => hx.exists_free hs, ?_, ?_, ?_⟩
  · obtain ⟨hnodup, hfree, hle, -⟩ := hy.bridges hs
    refine ⟨hnodup, hfree, fun n r k b label name hp hb hr hd => ?_⟩
    obtain ⟨hbridges, hwriting⟩ := hp.bridging hs
    have hk := hy.taken hs n
    rw [← hbridges, hb] at hk
    have hdrops : Bridge.Drops k (if n ∈ ns then { b with emitting := true } else b) name := by
      rcases hd with hd | hd
      · refine .inr (.inr ?_)
        split
        · rfl
        · exact hd
      · exact .inr (.inl (Nat.lt_of_lt_of_le hd (Nat.le_trans hle hwriting)))
    rw [Bridge.run_emitTo_of_text hs hk hr, if_pos hdrops]
  · rintro x hlogs ⟨_, _, hy, hne, -⟩
    cases hy with
    | self => exact hne rfl
    | inner hy hp hb ht he hl =>
      have hwriting := hlogs _ _ _ _ _ hy hp
      rw [Bridge.writing_of_takes ht] at hwriting
      exact Nat.lt_irrefl 0 hwriting
  · intro cs h n b e hb honly hx
    obtain ⟨-, c, hc, htarget, hemitting⟩ := hx.exists_free hs
    have hbridges : (LogCall.runAll sinks cs h).2.bridges = h.bridges :=
      (Prod.mk.inj (LogCall.bridging_runAll hs cs h)).1
    obtain ⟨m, hm⟩ := List.mem_iff_getElem?.mp hc
    rw [Bridge.mark, List.getElem?_modify, hbridges] at hm
    obtain ⟨c', hc', rfl⟩ := Option.map_eq_some_iff.mp hm
    by_cases hn : n = m
    · rw [if_pos hn] at hemitting
      cases hemitting
    · rw [if_neg hn] at htarget
      exact hn (honly m c' hc' htarget).symm
  · intro x n r k b e label name hp hb htarget hr hd he hl
    have ht : Bridge.takes k b r = .ok true := by
      rw [Bridge.takes_of_text hr, decide_eq_true hd]
    have hl : b.target.enabled e.level.number = true := htarget.symm ▸ hl
    exact ⟨[n], _, .inner .self hp hb ht he hl, List.cons_ne_nil _ _, htarget⟩

end Sinks

/-- What a sink logs about its own work makes an event. -/
theorem exists_toEvent_chat (σ : Objects) (logger : String) :
    ∃ e, (Foreign.chat logger).toEvent σ = .ok e ∧ e.level = .info := by
  -- the time of the record is fixed, and found by evaluation
  have htime : (Moment.ofSeconds (.ofFraction 1714557600 1)).toOption.isSome = true := by
    decide +kernel
  cases hm : Moment.ofSeconds (.ofFraction 1714557600 1) with
  | error failure =>
    rw [hm] at htime
    cases htime
  | ok m =>
    have ht : (Foreign.chat logger).time σ = .ok m := hm
    refine ⟨⟨m, .info, "chat", some (Foreign.chat logger).site, [⟨"logger", .text logger⟩]⟩, ?_,
      rfl⟩
    unfold Foreign.toEvent
    rw [ht]
    rfl

/-- A keeper logs through the only bridge to it. Where a record comes by the bridge the keeper is
not entered again, and its own record is dropped; where a logger hands it an event it is. -/
theorem reenters_by_free_bridge_keeper :
    let c : Chain := .sink (.keeping ⟨.info, 0, [], [], .chatty "b" "app"⟩)
    let h : Host :=
      { Host.fresh [] ⟨⟨2024, 5, 1⟩, 10, 0, 0, 0, some 0⟩ [] "/" "host" with
        stores := [[]]
        bridges := [⟨c, 0, false⟩]
        published := [("b", 0)] }
    let e : Event := ⟨h.now, .info, "m", none, []⟩
    let k := Bridge.mark 0 true h
    (∀ e s, Orderly (fun _ => Keeps Host.bridging) fun put => Sinks.own put e s)
      ∧ ¬ Reenters .own ⟨c, e, k⟩
      ∧ Logs .own ⟨c, e, k⟩ 0 (.chat "app") k
      ∧ (Bridge.emitTo .own 0 (.chat "app")).run k = (.ok (), k)
      ∧ Logs .own ⟨c, e, h⟩ 0 (.chat "app") h ∧ ¬ Bridge.Drops h ⟨c, 0, false⟩ "app"
      ∧ Reenters .own ⟨c, e, h⟩ := by
  intro c h e k
  obtain ⟨-, hwithin, -, -, hcalls, hfree⟩ := reenters_by_free_bridge Sinks.orderly_bridging
  have honly : ∀ m d, h.bridges[m]? = some d → d.target = c → m = 0 := by
    rintro (_ | m) d hd -
    · rfl
    · cases hd
  have hk : Logs .own ⟨c, e, k⟩ 0 (.chat "app") k := logs_of_chatty rfl rfl rfl
  have hh : Logs .own ⟨c, e, h⟩ 0 (.chat "app") h := logs_of_chatty rfl rfl rfl
  have hd : ¬ Bridge.Drops h ⟨c, 0, false⟩ "app" := by decide
  obtain ⟨said, hsaid, hlevel⟩ := exists_toEvent_chat [] "app"
  have hl : c.enabled said.level.number = true := by
    rw [hlevel]
    rfl
  refine ⟨Sinks.orderly_bridging, hcalls [] h 0 ⟨c, 0, false⟩ e rfl honly, hk, ?_, hh, hd, ?_⟩
  · exact (hwithin _ _ _ .self).2.2 0 _ k ⟨c, 0, true⟩ none "app" hk rfl rfl (.inl rfl)
  · exact hfree _ 0 _ h ⟨c, 0, false⟩ said none "app" hh rfl rfl rfl hd hsaid hl

/-- **A chain can be entered again while it handles an event.** A keeper logs through the only
bridge to it, and a logger over it makes one call where nothing else is under way. The record that
the keeper logs meanwhile is not dropped: the keeper handles it within the handling of the call,
and keeps it first. -/
theorem chain_inside_itself :
    let c : Chain := .sink (.keeping ⟨.info, 0, [], [], .chatty "b" "client"⟩)
    let h : Host :=
      { Host.fresh [] ⟨⟨2024, 5, 1⟩, 10, 0, 0, 0, some 0⟩ [] "/" "host" with
        stores := [[]]
        bridges := [⟨c, 0, false⟩]
        published := [("b", 0)] }
    let site : Site Value := ⟨.text "app.py", .int 1, .text "main"⟩
    let run := (Logger.log ⟨c⟩ .info "direct" [] [] site).run h
    h.Quiet ∧ Reenters .own ⟨c, ⟨h.now, .info, "direct", some site, []⟩, h⟩
      ∧ run.1.isOk = true
      ∧ run.2.stores.map (·.map (·.event.message)) = [["chat", "direct"]] := by
  intro c h site run
  refine ⟨⟨rfl, by decide⟩, ?_, by decide +kernel, by decide +kernel⟩
  have hlogs : Logs .own ⟨c, ⟨h.now, .info, "direct", some site, []⟩, h⟩ 0 (.chat "client") h :=
    logs_of_chatty rfl rfl rfl
  have ht : Bridge.takes h ⟨c, 0, false⟩ (.chat "client") = .ok true := by
    rw [Bridge.takes_of_text rfl, decide_eq_true (by decide)]
  obtain ⟨said, hsaid, hlevel⟩ := exists_toEvent_chat [] "client"
  have hl : c.enabled said.level.number = true := by
    rw [hlevel]
    rfl
  exact ⟨[0], _, .inner .self hlogs rfl ht hsaid hl, List.cons_ne_nil _ _, rfl⟩

end Handling

end DiscreetLog
