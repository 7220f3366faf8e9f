import DiscreetLog.Proofs.Chain.Visits

/-!
# Calls

What a program does with what has been set up: it makes log calls on loggers that it has derived,
other libraries log on loggers of their own, and records are put on bridges. Each such call is
orderly, given what the sinks do, so that a run of calls leaves the bridges as they were and tells
no hosts apart that are alike (`together_runAll`).
-/

namespace DiscreetLog

open DiscreetLog.Action

/-- **A call by which something is logged.** -/
inductive LogCall where
  /-- A call on a logger, derived before. -/
  | log (on : Logger) (ds : List Derivation) (level : Level) (message : String)
      (positional : List Value) (named : List (String × Value)) (site : Site Value)
  /-- A call on a logger of another library. -/
  | record (logger : String) (method : CallMethod) (message : String) (args : List Value)
      (extras : List (String × Value)) (site : Site Value)
  /-- A record is put on a bridge. -/
  | put (n : Nat) (r : Foreign)

namespace LogCall

/-- **What a call does**, given what the sinks do and how a record is put on a bridge. -/
def perform (sinks : Sinks) (put : Put) : LogCall → Action Unit
  | .log l ds level message positional named site => do
    let c ← ofNoted (l.chain.derive (← get).objects ds)
    Logger.logTo (sinks put) ⟨c⟩ level message positional named site
  | .record logger method message args extras site =>
    Foreign.callVia put logger method message args extras site
  | .put n r => put n r

/-- **What a call comes to on a host**, given what the sinks do. -/
def run (sinks : Sinks) (c : LogCall) (h : Host) : Except Failure Unit × Host :=
  (c.perform sinks (Bridge.emitTo sinks)).run h

/-- **What calls come to one after the other**, whether one fails or not. -/
def runAll (sinks : Sinks) : List LogCall → Host → List (Except Failure Unit) × Host
  | [], h => ([], h)
  | c :: cs, h =>
    let first := c.run sinks h
    let rest := runAll sinks cs first.2
    (first.1 :: rest.1, rest.2)

/-- The sinks of the logger that a call is made on, if it is made on one, are all of a sort. -/
def On (A : Sink → Prop) : LogCall → Prop
  | .log l .. => l.chain.All A
  | _ => True

/-- A log call is orderly if the sinks of its logger are. -/
theorem orderly_logTo {P : Kind} (hP : Admits P) {sinks : Sinks} {l : Logger}
    (hs : l.chain.All fun s => ∀ e, Orderly P fun put => sinks put e s) (level : Level)
    (message : String) (positional : List Value) (named : List (String × Value))
    (site : Site Value) :
    Orderly P fun put => l.logTo (sinks put) level message positional named site := by
  unfold Logger.logTo
  split
  · exact hP.goOn (G := fun given put => l.chain.handle (sinks put)
      ⟨given.now, level, message, some site, Attr.ofArguments positional named⟩)
      fun given => Chain.orderly_handle hP _ l.chain hs
  · exact .own (hP.result (.ok ()))

section Bridging

variable {sinks : Sinks}
  (hs : ∀ e s, Orderly (fun _ => Keeps Host.bridging) fun put => sinks put e s)

include hs

/-- **A call leaves the bridges as they are**, whether it fails or not. -/
theorem keeps_bridging (c : LogCall) :
    Keeps Host.bridging (c.perform sinks (Bridge.emitTo sinks)) := by
  have hput := Bridge.keeps_bridging_emitTo hs
  cases c with
  | log l ds level message positional named site =>
    refine keeps_get.bind fun h => (keeps_ofNoted (fun _ _ => rfl) _).bind fun c => ?_
    exact (orderly_logTo admits_bridging (fun l _ e => hs e l.sink) level message positional named
      site).keeps hput Sink.keeps_bridging_whileWriting
  | record logger method message args extras site =>
    exact (Foreign.orderly_callVia admits_bridging logger method message args extras site).keeps
      hput Sink.keeps_bridging_whileWriting
  | put n r => exact hput n r

/-- **Calls leave the bridges as they are.** -/
theorem bridging_runAll (cs : List LogCall) (h : Host) :
    (runAll sinks cs h).2.bridging = h.bridging := by
  induction cs generalizing h with
  | nil => rfl
  | cons c cs ih => exact (ih _).trans (keeps_bridging hs c h)

end Bridging

section Together

variable {S : Host → Host → Prop} (hS : Likeness S) {sinks : Sinks} {A : Sink → Prop}
  (hs : ∀ e s, A s → Orderly (Fair S) fun put => sinks put e s)
  (hbind : ∀ s as, A s → A (s.bind as)) (hopen : ∀ s name, A s → A (s.openGroup name))

include hS hs hbind hopen

/-- **A call comes to the same on hosts that are alike**, and leaves them alike. -/
theorem together_perform {c : LogCall} (hc : c.On A) :
    Together (Leading A S) (c.perform sinks (Bridge.emitTo sinks))
      (c.perform sinks (Bridge.emitTo sinks)) := by
  have hS := hS.leading A
  have hs (e : Event) (s : Sink) (hA : A s) :
      Orderly (Fair (Leading A S)) fun put => sinks put e s := (hs e s hA).mono Fair.leading
  have hput := Bridge.together_emitTo hS hs fun hr => hr.2
  cases c with
  | log l ds level message positional named site =>
    intro h k hr
    have hderive : l.chain.derive k.objects ds = l.chain.derive h.objects ds := by
      rw [hS.objects hr]
    have hnoted := hS.noted (l.chain.derive h.objects ds).notes hr
    rw [perform, run_bind, run_bind, run_get, run_get]
    dsimp only
    rw [run_bind, run_bind, run_ofNoted, run_ofNoted, hderive]
    cases hd : (l.chain.derive h.objects ds).result with
    | error failure => exact ⟨rfl, hnoted⟩
    | ok c =>
      have hc : c.All A := hc.derive hbind hopen hd
      exact hS.orderly (orderly_logTo hS.admits (fun l hl e => hs e l.sink (hc l hl)) level message
        positional named site) hput hnoted
  | record logger method message args extras site =>
    have hcall := hS.orderly
      (Foreign.orderly_callVia hS.admits logger method message args extras site) hput
    exact hcall
  | put n r => exact hput n r

/-- **Calls come to the same on hosts that are alike**, and leave them alike. -/
theorem together_runAll {cs : List LogCall} (hcs : ∀ c ∈ cs, c.On A) {h k : Host}
    (hr : Leading A S h k) :
    (runAll sinks cs k).1 = (runAll sinks cs h).1
      ∧ Leading A S (runAll sinks cs h).2 (runAll sinks cs k).2 := by
  induction cs generalizing h k with
  | nil => exact ⟨rfl, hr⟩
  | cons c cs ih =>
    obtain ⟨hfirst, hr⟩ := together_perform hS hs hbind hopen (hcs c List.mem_cons_self) hr
    obtain ⟨hrest, hr⟩ := ih (fun c hc => hcs c (List.mem_cons_of_mem _ hc)) hr
    exact ⟨congrArg₂ List.cons hfirst hrest, hr⟩

end Together

/-- **Calls on the sinks of the library leave the frame of the host as it is.** -/
theorem frame_runAll (cs : List LogCall) (h : Host) : (runAll .own cs h).2.frame = h.frame := by
  have hon (c : LogCall) : c.On fun _ => True := by
    cases c with
    | log => exact fun _ _ => trivial
    | record => trivial
    | put => trivial
  exact (together_runAll (likeness_frame h.frame) (fun e s _ => Sinks.fair_frame h.frame e s)
    (fun _ _ _ => trivial) (fun _ _ _ => trivial) (fun c _ => hon c)
    ⟨⟨rfl, rfl⟩, fun _ _ _ _ => trivial⟩).2.1.2

end LogCall

end DiscreetLog
