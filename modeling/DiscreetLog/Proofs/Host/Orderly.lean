import DiscreetLog.Logging
import DiscreetLog.Proofs.Chain.Leaves
import DiscreetLog.Proofs.Host.Actions

/-!
# What sinks may do

A sink acts on the host, counts as writing for a while, and may put records on bridges, which may
lead back to the chain it stands in. How a record is put on a bridge is left open in what a sink
does: an action is *orderly* if it is put together of actions of a given kind, of records put on
bridges, and of stretches of writing (`Orderly`). That is all that is ever used of a sink, so what
is shown here holds of the sinks of any caller.

What holds of the parts holds of the whole, for one run (`Orderly.keeps`) as for two
(`Orderly.together`). A chain is orderly as soon as its sinks are, whatever its stages, and the
sinks of the library are.
-/

namespace DiscreetLog

open DiscreetLog.Action

/-- **A kind of actions.** -/
abbrev Kind := (α : Type) → Action α → Prop

/-- **An action put together** of actions of a kind, of records put on bridges, and of stretches of
writing. It may depend on what they come to, and it may go on after a failure. -/
inductive Orderly (P : Kind) : {α : Type} → (Put → Action α) → Prop where
  | own {α : Type} {x : Action α} (hx : P α x) : Orderly P fun _ => x
  | put (n : Nat) (r : Foreign) : Orderly P fun put => put n r
  | bind {α β : Type} {F : Put → Action α} {G : α → Put → Action β} (hF : Orderly P F)
      (hG : ∀ a, Orderly P (G a)) : Orderly P fun put => F put >>= fun a => G a put
  | tryCatch {α : Type} {F : Put → Action α} {G : Failure → Put → Action α} (hF : Orderly P F)
      (hG : ∀ failure, Orderly P (G failure)) :
      Orderly P fun put => tryCatch (F put) fun failure => G failure put
  | writing {F : Put → Action Unit} (hF : Orderly P F) :
      Orderly P fun put => Sink.whileWriting (F put)

namespace Orderly

variable {P Q : Kind} {α γ : Type} {F : Put → Action α} {put put' : Put}

theorem mono (hF : Orderly P F) (h : ∀ {α : Type} {x : Action α}, P α x → Q α x) : Orderly Q F := by
  induction hF with
  | own hx => exact .own (h hx)
  | put n r => exact .put n r
  | bind _ _ ihF ihG => exact .bind ihF ihG
  | tryCatch _ _ ihF ihG => exact .tryCatch ihF ihG
  | writing _ ih => exact .writing ih

/-- **An orderly action keeps what its parts keep**, and putting a record on a bridge. -/
theorem keeps {f : Host → γ} (hF : Orderly (fun _ => Keeps f) F) (hput : ∀ n r, Keeps f (put n r))
    (hw : ∀ {x : Action Unit}, Keeps f x → Keeps f (Sink.whileWriting x)) : Keeps f (F put) := by
  induction hF with
  | own hx => exact hx
  | put n r => exact hput n r
  | bind _ _ ihF ihG => exact ihF.bind ihG
  | tryCatch _ _ ihF ihG => exact ihF.tryCatch ihG
  | writing _ ih => exact hw ih

/-- **Two runs of an orderly action go together** if those of its parts do, and those of putting a
record on a bridge. -/
theorem together {R : Host → Host → Prop} (hF : Orderly P F)
    (hP : ∀ {α : Type} {x : Action α}, P α x → Together R x x)
    (hput : ∀ n r, Together R (put n r) (put' n r))
    (hw : ∀ {x y : Action Unit}, Together R x y →
      Together R (Sink.whileWriting x) (Sink.whileWriting y)) : Together R (F put) (F put') := by
  induction hF with
  | own hx => exact hP hx
  | put n r => exact hput n r
  | bind _ _ ihF ihG => exact ihF.bind ihG
  | tryCatch _ _ ihF ihG => exact ihF.tryCatch ihG
  | writing _ ih => exact hw ih

theorem forM {xs : List γ} {G : γ → Put → Action Unit} (hP : P Unit (pure ()))
    (hG : ∀ a, Orderly P (G a)) : Orderly P fun put => xs.forM fun a => G a put := by
  induction xs with
  | nil => exact .own hP
  | cons a xs ih => exact .bind (hG a) fun _ => ih

end Orderly

/-- **Writing comes to what is done meanwhile**, with one more sink writing. -/
theorem Sink.run_whileWriting (x : Action Unit) (h : Host) :
    (whileWriting x).run h
      = ((x.run { h with writing := h.writing + 1 }).1,
        let k := (x.run { h with writing := h.writing + 1 }).2
        { k with writing := k.writing - 1 }) := by
  rw [whileWriting, run_bind, run_update]
  rfl

/-- Two stretches of writing go together, if it can be noted that they begin and end. -/
theorem Sink.together_whileWriting {R : Host → Host → Prop} {x y : Action Unit}
    (hxy : Together R x y)
    (hw : ∀ {h k : Host}, R h k → k.writing = h.writing)
    (hR : ∀ {h k : Host} (writing : Nat), R h k → R { h with writing } { k with writing }) :
    Together R (Sink.whileWriting x) (Sink.whileWriting y) := by
  refine (together_update fun hr => ?_).bind fun _ => hxy.ensuring fun hr => ?_
  · rw [hw hr]
    exact hR _ hr
  · rw [hw hr]
    exact hR _ hr

/-! ## Chains -/

/-- **What logging goes by.** -/
structure Surroundings where
  objects : Objects
  now : Moment
  bridges : List Bridge
  published : List (String × Nat)
  rootBridges : List Nat
  rootThreshold : Int
  writing : Nat

/-- What logging goes by on a host. -/
def Host.surroundings (h : Host) : Surroundings where
  objects := h.objects
  now := h.now
  bridges := h.bridges
  published := h.published
  rootBridges := h.rootBridges
  rootThreshold := h.rootThreshold
  writing := h.writing

/-- **What the stages of a chain do by themselves** is of a kind. -/
structure Admits (P : Kind) : Prop where
  result : ∀ {α : Type} (x : Except Failure α), P α (Action.ofExcept x)
  surroundings : P Surroundings (look Host.surroundings)
  noted : ∀ {α : Type} (x : Noted α), P α (ofNoted x)

/-- An action goes on with what logging goes by. -/
theorem Admits.goOn {P : Kind} {α : Type} (hP : Admits P) {G : Surroundings → Put → Action α}
    (hG : ∀ given, Orderly P (G given)) :
    Orderly P fun put => get >>= fun h => G h.surroundings put :=
  .bind (F := fun _ => look Host.surroundings) (.own hP.surroundings) hG

section Chains

variable {P : Kind} (hP : Admits P) {sinks : Sinks}

include hP

mutual

/-- **A chain is orderly if its sinks are.** -/
theorem Chain.orderly_handle (e : Event) : (c : Chain) →
    (c.All fun s => ∀ e, Orderly P fun put => sinks put e s) →
    Orderly P fun put => c.handle (sinks put) e
  | .sink s, hs => hs ⟨[], s⟩ List.mem_cons_self e
  | .masking p inner, hs => by
    simp only [handle]
    refine hP.goOn (G := fun given put =>
      ofNoted (p.apply given.objects e) >>= fun masked => handle (sinks put) masked inner)
      fun given => ?_
    exact .bind (.own (hP.noted _)) fun masked => orderly_handle masked inner (all_masking.mp hs)
  | .fanOut branches, hs => by
    simp only [handle]
    refine .bind (orderly_handleAll e branches hs) fun failures => .own ?_
    unfold report
    split
    · exact hP.result (.ok ())
    · exact hP.result (.error _)
    · exact hP.result (.error _)

theorem Chain.orderly_handleAll (e : Event) : (cs : List Chain) →
    (∀ l ∈ leavesAll cs, ∀ e, Orderly P fun put => sinks put e l.sink) →
    Orderly P fun put => handleAll (sinks put) e cs
  | [], _ => .own (hP.result (.ok []))
  | c :: cs, hs => by
    have hrest (failures : List Failure) : Orderly P fun put => do
        return failures ++ (← handleAll (sinks put) e cs) :=
      .bind (orderly_handleAll e cs fun l hl => hs l (List.mem_append_right _ hl))
        fun _ => .own (hP.result (.ok _))
    simp only [handleAll]
    split
    · refine .bind (.tryCatch ?_ fun failure => .own (hP.result (.ok [failure]))) hrest
      exact .bind (orderly_handle e c fun l hl => hs l (List.mem_append_left _ hl))
        fun _ => .own (hP.result (.ok []))
    · exact .bind (.own (hP.result (.ok []))) hrest

end

end Chains

/-! ## Calls -/

section Calls

variable {P : Kind} (hP : Admits P)

include hP

/-- A record that reaches the bridges of the root. -/
theorem Foreign.orderly_reachRoot (number : Int) (r : Foreign) :
    Orderly P fun put => reachRoot put number r := by
  let reach (put : Put) (n : Nat) (b : Bridge) : Action Unit :=
    if b.threshold ≤ number then put n r else pure ()
  refine hP.goOn (G := fun given put => given.rootBridges.forM fun n => do
    (← get).bridges[n]?.forM (reach put n)) fun given => .forM (hP.result (.ok ())) fun n => ?_
  refine hP.goOn (G := fun given put => given.bridges[n]?.forM (reach put n)) fun given => ?_
  cases given.bridges[n]? with
  | none => exact .own (hP.result (.ok ()))
  | some b =>
    show Orderly P fun put => reach put n b
    unfold reach
    split
    · exact .put n r
    · exact .own (hP.result (.ok ()))

/-- **A call on a logger of another library is orderly.** -/
theorem Foreign.orderly_callVia (logger : String) (method : CallMethod) (message : String)
    (args : List Value) (extras : List (String × Value)) (site : Site Value) :
    Orderly P fun put => callVia put logger method message args extras site := by
  have hnote (text : String) : P Unit (Action.note method.rank text) :=
    hP.noted ⟨[⟨method.rank, text⟩], .ok ()⟩
  let name := if logger = "" then "root" else logger
  refine hP.goOn (G := fun given put =>
    if isOwn name || given.rootThreshold ≤ method.rank.number then do
      let r ← Action.ofExcept (ofCall given.objects given.now name method message args extras site)
      if isOwn name then
        Action.note method.rank (← Action.ofExcept (r.text given.objects))
      r.reachRoot put method.rank.number
    else pure ()) fun given => ?_
  split
  · refine .bind (.own (hP.result _)) fun r => ?_
    split
    · exact .bind (.own (hP.result _)) fun text => .bind (.own (hnote text)) fun _ =>
        orderly_reachRoot hP _ r
    · exact orderly_reachRoot hP _ r
  · exact .own (hP.result (.ok ()))

end Calls

/-! ## The sinks of the library -/

/-- The client of a sink that sends to the log service. -/
def Sink.client? : Sink → Option Nat
  | .shipping _ t => some t.client
  | _ => none

/-- **What the sinks of the library do by themselves** is of a kind, as long as the clients they
send with are allowed. -/
structure Serves (allowed : Nat → Prop) (P : Kind) : Prop extends Admits P where
  line : ∀ (w : Writer) (line : String), P Unit (w.writeLine line)
  stream : ∀ (text name : String), P Unit (Endpoint.write text (.memory name))
  send : ∀ (t : Shipping) (timestamp : Int) (line : String), allowed t.client →
    P Unit (t.send timestamp line)
  keep : ∀ (e : Event) (k : Keeper), P Unit (Sink.deliver.keep e k)

section Own

variable {P Q : Kind} {allowed : Nat → Prop}

/-- What sinks do by themselves may be of two kinds at once. -/
theorem Serves.and {allowed' : Nat → Prop} (hP : Serves allowed P) (hQ : Serves allowed' Q) :
    Serves (fun n => allowed n ∧ allowed' n) fun α x => P α x ∧ Q α x where
  result x := ⟨hP.result x, hQ.result x⟩
  surroundings := ⟨hP.surroundings, hQ.surroundings⟩
  noted x := ⟨hP.noted x, hQ.noted x⟩
  line w line := ⟨hP.line w line, hQ.line w line⟩
  stream text name := ⟨hP.stream text name, hQ.stream text name⟩
  send t timestamp line ht := ⟨hP.send t timestamp line ht.1, hQ.send t timestamp line ht.2⟩
  keep e k := ⟨hP.keep e k, hQ.keep e k⟩

theorem Serves.mono (hP : Serves allowed P) (h : ∀ {α : Type} {x : Action α}, P α x → Q α x) :
    Serves allowed Q where
  result x := h (hP.result x)
  surroundings := h hP.surroundings
  noted x := h (hP.noted x)
  line w line := h (hP.line w line)
  stream text name := h (hP.stream text name)
  send t timestamp line ht := h (hP.send t timestamp line ht)
  keep e k := h (hP.keep e k)

/-- A record that is put on the bridge of a name. -/
theorem Bridge.orderly_talkVia (hP : Serves allowed P) (name : String) (r : Foreign) :
    Orderly P fun put => talkVia put name r := by
  exact hP.goOn (G := fun given put =>
      Action.ofExcept (named given.published name) >>= fun n => put n r)
    fun given => .bind (.own (hP.result _)) fun n => .put n r

/-- **The sinks of the library are orderly.** -/
theorem Sinks.orderly_own (hP : Serves allowed P) (e : Event) {s : Sink}
    (hs : ∀ n, s.client? = some n → allowed n) : Orderly P fun put => own put e s := by
  have hline (line : Objects → Except Failure String) (w : Writer) :
      Orderly P fun _ => get >>= fun h => Action.ofExcept (line h.objects) >>= w.writeLine :=
    hP.goOn (G := fun given _ => Action.ofExcept (line given.objects) >>= w.writeLine)
      fun given => .bind (.own (hP.result _)) fun text => .own (hP.line w text)
  unfold own
  cases s with
  | structured scope w => exact .writing (hline (Payload.ofEvent scope e).structuredLine w)
  | flat scope w => exact .writing (hline (Payload.ofEvent scope e).flatLine w)
  | shipping scope t =>
    refine .writing (.bind (.own (hP.result _)) fun timestamp => ?_)
    refine hP.goOn (G := fun given _ =>
      Action.ofExcept ((Payload.ofEvent scope e).structuredLine given.objects) >>= t.send timestamp)
      fun given => ?_
    exact .bind (.own (hP.result _)) fun line => .own (hP.send t timestamp line (hs _ rfl))
  | announcing scope stream bridge logger =>
    refine .writing (.bind (Bridge.orderly_talkVia hP bridge _) fun _ => ?_)
    exact hP.goOn (G := fun given _ => Endpoint.write
        (e.message ++ " emitting=" ++ (if 0 < given.writing then "True" else "False") ++ "\n")
        (.memory stream)) fun given => .own (hP.stream _ stream)
  | keeping k =>
    simp only [Sink.deliver]
    split
    · exact .own (hP.result (.error _))
    · exact .own (hP.keep e k)
    · exact .bind (Bridge.orderly_talkVia hP _ _) fun _ => .own (hP.keep e k)

end Own

end DiscreetLog
