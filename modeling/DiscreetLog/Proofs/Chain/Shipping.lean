import DiscreetLog.Proofs.Chain.Stream
import DiscreetLog.Proofs.Setup.Service
import Mathlib.Data.List.Forall2

/-!
# What a sink makes of its client

A sink for the log service and the sinks that are derived from it share one client. They are asked,
in any order, to create their place in the service and to handle events, and the client answers
every call from a script: the call succeeds, it is refused, or there are no credentials.

Which calls are made is read off what these calls meet (`Shipping.Comes`). The group is created, and
then the stream, unless the group is refused for another reason than that it is there already; an
event is sent once, if there is a timestamp and a line for it. What the client says is passed on as
the cause of a failure of the sink (`Shipping.Reports`). Nothing is kept from one call to the next:
what comes later depends on what the client still has to say, not on what it has said
(`Shipping.Alike`).
-/

namespace DiscreetLog

open DiscreetLog.Action

/-! ## Clients -/

namespace Outcome

/-- An outcome is an answer of the service, or of the library that looks for credentials. -/
def isAnswer : Outcome → Bool
  | .broken .. => false
  | _ => true

/-- **An outcome that is as good as a success** when something is created. -/
def isTolerated : Outcome → Bool
  | .success => true
  | .refused refusal => refusal.code = some Shipping.alreadyThere
  | _ => false

end Outcome

namespace Client

/-- **Calls are made on a client one after the other**, each with the outcome that it meets. -/
def met : Client → List Call → List (Call × Outcome)
  | _, [] => []
  | c, call :: calls => (call, (c.call call).1) :: (c.call call).2.met calls

/-- A client has nothing but answers in its script. -/
def Answers (c : Client) : Prop := ∀ op, ∀ outcome ∈ c.script op, outcome.isAnswer = true

variable {c d : Client}

theorem met_append (c : Client) (made more : List Call) :
    c.met (made ++ more) = c.met made ++ (c.after made).met more := by
  induction made generalizing c with
  | nil => rfl
  | cons call made ih => exact congrArg (List.cons _) (ih (c.call call).2)

/-- The calls are kept in their order. -/
theorem calls_after (c : Client) (made : List Call) : (c.after made).calls = c.calls ++ made := by
  induction made generalizing c with
  | nil => exact (List.append_nil _).symm
  | cons call made ih =>
    have hcall : (c.call call).2.calls = c.calls ++ [call] := rfl
    rw [after, List.foldl_cons, ← after, ih, hcall, List.append_assoc]
    rfl

/-- What is still to come after a call was to come before it. -/
theorem script_call (c : Client) (call : Call) (op : Operation) :
    (c.call call).2.script op
      = if call.operation = op then (c.script op).tail else c.script op := by
  cases hcall : call.operation <;> cases op <;> simp [Client.call, advance, script, hcall]

theorem Answers.call (ha : c.Answers) (call : Call) :
    (c.call call).1.isAnswer = true ∧ (c.call call).2.Answers := by
  refine ⟨?_, fun op outcome ho => ?_⟩
  · show ((c.script call.operation).headD .success).isAnswer = true
    cases hs : c.script call.operation with
    | nil => rfl
    | cons outcome script => exact ha call.operation outcome (hs ▸ List.mem_cons_self)
  · rw [script_call] at ho
    split at ho
    · exact ha op outcome (List.mem_of_mem_tail ho)
    · exact ha op outcome ho

theorem Answers.after (ha : c.Answers) (made : List Call) : (c.after made).Answers := by
  induction made generalizing c with
  | nil => exact ha
  | cons call made ih => exact ih (ha.call call).2

/-- **Clients that have the same to say** have the same to say after the same calls. -/
theorem script_after (hs : ∀ op, d.script op = c.script op) (made : List Call) (op : Operation) :
    (d.after made).script op = (c.after made).script op := by
  induction made generalizing c d with
  | nil => exact hs op
  | cons call made ih =>
    refine ih fun op => ?_
    rw [script_call, script_call, hs]

end Client

namespace Shipping

/-! ## Single calls -/

/-- **What a call is reported as**, given whether it went well. -/
structure Reports (well : Prop) (call : Call) (outcome : Outcome) (result : Except Failure Unit) :
    Prop where
  /-- A failure is reported exactly if the call did not go well. -/
  fails : (∃ failure, result = .error failure) ↔ ¬ well
  /-- It is a failure of the sink, raised from the one that the client reported. -/
  wraps : ∀ failure, result = .error failure → failure.kind = "SinkError"
    ∧ ∃ said, outcome.failure? call.operation = some said ∧ failure.cause = some said

namespace Reports

variable {well : Prop} {call : Call} {outcome : Outcome}

theorem ok (hw : well) : Reports well call outcome (.ok ()) where
  fails := iff_of_false (fun ⟨_, hf⟩ => nomatch hf) (not_not_intro hw)
  wraps := nofun

theorem error (hw : ¬ well) {failure said : Failure} (hkind : failure.kind = "SinkError")
    (hsaid : outcome.failure? call.operation = some said) (hcause : failure.cause = some said) :
    Reports well call outcome (.error failure) := by
  refine ⟨iff_of_true ⟨failure, rfl⟩ hw, fun failure' hf => ?_⟩
  cases hf
  exact ⟨hkind, said, hsaid, hcause⟩

end Reports

/-- **An action makes calls on a client**, comes to a result, and leaves the containers alone. -/
structure Makes (n : Nat) (h : Host) (c : Client) (x : Action Unit) (made : List Call)
    (result : Except Failure Unit) : Prop where
  result : (x.run h).1 = result
  client : (x.run h).2.clients[n]? = some (c.after made)
  objects : (x.run h).2.objects = h.objects

namespace Makes

variable {n : Nat} {h k : Host} {c : Client} {x : Action Unit} {made more : List Call}

/-- What is read off a run. -/
theorem of_run {result : Except Failure Unit} (hr : x.run h = (result, k))
    (hclient : k.clients[n]? = some (c.after made)) (hobjects : k.objects = h.objects) :
    Makes n h c x made result :=
  ⟨by rw [hr], by rw [hr]; exact hclient, by rw [hr]; exact hobjects⟩

/-- What follows on an action that succeeds makes its calls after those of the action. -/
theorem bind {y : Unit → Action Unit} {result : Except Failure Unit}
    (hx : Makes n h c x made (.ok ()))
    (hy : Makes n (x.run h).2 (c.after made) (y ()) more result) :
    Makes n h c (x >>= y) (made ++ more) result := by
  have hrun : (x >>= y).run h = (y ()).run (x.run h).2 := run_bind_of_ok hx.result
  refine ⟨?_, ?_, ?_⟩
  · rw [hrun, hy.result]
  · rw [hrun, hy.client, Client.after_append]
  · rw [hrun, hy.objects, hx.objects]

/-- Nothing follows on an action that fails, and no more calls are made. -/
theorem bind_error {y : Unit → Action Unit} {failure : Failure}
    (hx : Makes n h c x made (.error failure)) : Makes n h c (x >>= y) made (.error failure) :=
  of_run (run_bind_of_error hx.result) hx.client hx.objects

/-- A stretch of writing makes the calls that are made meanwhile. -/
theorem whileWriting {result : Except Failure Unit}
    (hx : Makes n { h with writing := h.writing + 1 } c x made result) :
    Makes n h c (Sink.whileWriting x) made result :=
  of_run ((Sink.run_whileWriting x h).trans (Prod.ext hx.result rfl)) hx.client hx.objects

end Makes

section Calls

variable {h : Host} {c : Client} {outcome : Outcome} (t : Shipping)

/-- **What a creation comes to**, given what the client says. -/
theorem run_create (hc : h.clients[t.client]? = some c) (resource : Resource) {call : Call}
    (ho : (c.call call).1 = outcome) :
    let k : Host := { h with clients := h.clients.set t.client (c.call call).2 }
    (t.create resource call).run h = match outcome.failure? call.operation with
      | none => (.ok (), { k with
          notes := k.notes ++ [⟨.info, "Created CloudWatch resource: " ++ resource.shown⟩] })
      | some (.callRefused _ refusal) =>
        if refusal.code = some alreadyThere then (.ok (), k)
        else (.error (.resourceRefused resource refusal), k)
      | some .noCredentials => (.error .credentialsMissing, k)
      | some failure => (.error failure, k) := by
  rw [create, run_tryCatch, run_bind, Client.run_callOn hc, ho]
  cases outcome with
  | refused refusal =>
    by_cases hcode : refusal.code = some alreadyThere <;> simp [Outcome.failure?, hcode]
  | _ => rfl

/-- **One thing is created**: one call is made, and all is well if the thing is there. -/
theorem exists_makes_create (hc : h.clients[t.client]? = some c) (ha : c.Answers)
    (resource : Resource) (call : Call) (hcall : resource.creation = call.operation) :
    ∃ result, Makes t.client h c (t.create resource call) [call] result
      ∧ Reports ((c.call call).1.isTolerated = true) call (c.call call).1 result := by
  have hclient := Client.getElem?_set hc call
  have hanswer := (ha.call call).1
  cases ho : (c.call call).1 with
  | success => exact ⟨_, .of_run (run_create t hc resource ho) hclient rfl, .ok rfl⟩
  | refused refusal =>
    have hrun := run_create t hc resource ho
    by_cases hcode : refusal.code = some alreadyThere
    · exact ⟨_, .of_run (hrun.trans (if_pos hcode)) hclient rfl, .ok (decide_eq_true hcode)⟩
    · refine ⟨_, .of_run (hrun.trans (if_neg hcode)) hclient rfl, ?_⟩
      exact .error (fun hw => hcode (of_decide_eq_true hw)) rfl rfl (by rw [Failure.cause, hcall])
  | noCredentials =>
    exact ⟨_, .of_run (run_create t hc resource ho) hclient rfl, .error nofun rfl rfl rfl⟩
  | broken =>
    rw [ho] at hanswer
    cases hanswer

/-- **What a shipment comes to**, given what the client says. -/
theorem run_send (hc : h.clients[t.client]? = some c) {timestamp : Int} {line : String}
    (ho : (c.call (.putEvent t.group t.stream timestamp line)).1 = outcome) :
    let c' := (c.call (.putEvent t.group t.stream timestamp line)).2
    (t.send timestamp line).run h
      = (match outcome.failure? .putEvents with
          | none => .ok ()
          | some (.callRefused _ refusal) => .error (.eventRefused refusal)
          | some .noCredentials => .error .credentialsMissing
          | some failure => .error failure,
        { h with clients := h.clients.set t.client c' }) := by
  rw [send, run_tryCatch, Client.run_callOn hc, ho]
  cases outcome <;> rfl

/-- **An event is sent**: one call is made, and all is well if it succeeds. -/
theorem exists_makes_send (hc : h.clients[t.client]? = some c) (ha : c.Answers) (timestamp : Int)
    (line : String) :
    let call : Call := .putEvent t.group t.stream timestamp line
    ∃ result, Makes t.client h c (t.send timestamp line) [call] result
      ∧ Reports ((c.call call).1 = .success) call (c.call call).1 result := by
  intro call
  have hclient := Client.getElem?_set hc call
  have hanswer := (ha.call call).1
  cases ho : (c.call call).1 with
  | success => exact ⟨_, .of_run (run_send t hc ho) hclient rfl, .ok rfl⟩
  | refused refusal => exact ⟨_, .of_run (run_send t hc ho) hclient rfl, .error nofun rfl rfl rfl⟩
  | noCredentials => exact ⟨_, .of_run (run_send t hc ho) hclient rfl, .error nofun rfl rfl rfl⟩
  | broken =>
    rw [ho] at hanswer
    cases hanswer

end Calls

/-! ## Errands -/

/-- **What a sink for the log service can be asked to do**, or one that is derived from it. -/
inductive Errand where
  /-- The group and the stream are created. -/
  | ensure (derivations : List Derivation)
  /-- An event is handled. -/
  | handle (derivations : List Derivation) (e : Event)

/-- A sink creates its place in the log service. Other sinks have none. -/
def ensureOf : Sink → Action Unit
  | .shipping _ t => t.ensure
  | _ => pure ()

/-- **An errand is carried out.** -/
def Errand.perform (scope : Scope) (t : Shipping) : Errand → Action Unit
  | .ensure derivations => ensureOf ((Sink.shipping scope t).derive derivations)
  | .handle derivations e => (Chain.sink ((Sink.shipping scope t).derive derivations)).accept e

/-- **What is sent of an event**: its timestamp and its line, if it has both. -/
def sent (σ : Objects) (scope : Scope) (e : Event) : Except Failure (Int × String) := do
  return (← e.time.millis, ← (Payload.ofEvent scope e).structuredLine σ)

/-- **How an errand goes**: the calls that are made, with what they meet, and the result. -/
structure Episode where
  met : List (Call × Outcome)
  result : Except Failure Unit

/-- The calls of an episode. -/
def Episode.calls (episode : Episode) : List Call := episode.met.map Prod.fst

/-- **How errands have to go.** -/
inductive Comes (σ : Objects) (scope : Scope) (t : Shipping) : Errand → Episode → Prop where
  /-- There is no group, and the stream is not tried. -/
  | withoutGroup {ds : List Derivation} {group : Outcome} {result : Except Failure Unit}
      (hg : ¬ group.isTolerated = true)
      (hr : Reports (group.isTolerated = true) (.createGroup t.group) group result) :
      Comes σ scope t (.ensure ds) ⟨[(.createGroup t.group, group)], result⟩
  /-- There is a group, and the stream is tried. -/
  | withGroup {ds : List Derivation} {group stream : Outcome} {result : Except Failure Unit}
      (hg : group.isTolerated = true)
      (hr : Reports (stream.isTolerated = true) (.createStream t.group t.stream) stream result) :
      Comes σ scope t (.ensure ds)
        ⟨[(.createGroup t.group, group), (.createStream t.group t.stream, stream)], result⟩
  /-- There is something to send, and it is sent once. -/
  | sent {ds : List Derivation} {e : Event} {timestamp : Int} {line : String} {outcome : Outcome}
      {result : Except Failure Unit} (hs : sent σ (scope.derive ds) e = .ok (timestamp, line))
      (hr : Reports (outcome = .success) (.putEvent t.group t.stream timestamp line) outcome
        result) :
      Comes σ scope t (.handle ds e)
        ⟨[(.putEvent t.group t.stream timestamp line, outcome)], result⟩
  /-- There is nothing to send, and no call is made. -/
  | unsent {ds : List Derivation} {e : Event} {failure : Failure}
      (hs : sent σ (scope.derive ds) e = .error failure) :
      Comes σ scope t (.handle ds e) ⟨[], .error failure⟩

section Errands

variable {h : Host} {c : Client} (scope : Scope) (t : Shipping)

theorem derive_shipping (ds : List Derivation) :
    (Sink.shipping scope t).derive ds = .shipping (scope.derive ds) t :=
  Sink.derive_of_scope? rfl ds

theorem derive_structured (w : Writer) (ds : List Derivation) :
    (Sink.structured scope w).derive ds = .structured (scope.derive ds) w :=
  Sink.derive_of_scope? rfl ds

/-- **The group and the stream are created** as they have to be. -/
theorem exists_comes_ensure (hc : h.clients[t.client]? = some c) (ha : c.Answers)
    (ds : List Derivation) :
    ∃ episode, Comes h.objects scope t (.ensure ds) episode
      ∧ Makes t.client h c t.ensure episode.calls episode.result
      ∧ c.met episode.calls = episode.met := by
  obtain ⟨result, hgroup, hreports⟩ :=
    exists_makes_create t hc ha ⟨t.group, none⟩ (.createGroup t.group) rfl
  cases result with
  | error failure =>
    have hg := hreports.fails.mp ⟨failure, rfl⟩
    exact ⟨⟨[(_, _)], _⟩, .withoutGroup hg hreports, hgroup.bind_error, rfl⟩
  | ok =>
    -- that nothing was reported of the group is all that the second call goes by
    have hg : (c.call (.createGroup t.group)).1.isTolerated = true := by
      by_contra hg
      obtain ⟨_, hf⟩ := hreports.fails.mpr hg
      cases hf
    obtain ⟨result, hstream, hreports⟩ := exists_makes_create t hgroup.client (ha.after _)
      ⟨t.group, some t.stream⟩ (.createStream t.group t.stream) rfl
    exact ⟨⟨[(_, _), (_, _)], _⟩, .withGroup hg hreports, hgroup.bind hstream, rfl⟩

/-- What is done while a sink for the log service writes: an event is sent, or it fails. -/
theorem run_sending (e : Event) (h : Host) :
    (do
      let timestamp ← Action.ofExcept e.time.millis
      t.send timestamp (← Action.ofExcept
        ((Payload.ofEvent scope e).structuredLine (← get).objects)) : Action Unit).run h
      = match sent h.objects scope e with
        | .ok (timestamp, line) => (t.send timestamp line).run h
        | .error failure => (.error failure, h) := by
  rw [run_bind, run_ofExcept, sent]
  cases e.time.millis with
  | error failure => rfl
  | ok timestamp =>
    dsimp only
    rw [Sink.run_line _ (t.send timestamp), Payload.structuredLine]
    cases (Payload.ofEvent scope e).render h.objects <;> rfl

/-- **An event is handled** as it has to be. -/
theorem exists_comes_handle (hc : h.clients[t.client]? = some c) (ha : c.Answers)
    (ds : List Derivation) (e : Event) :
    ∃ episode, Comes h.objects scope t (.handle ds e) episode
      ∧ Makes t.client h c ((Errand.handle ds e).perform scope t) episode.calls episode.result
      ∧ c.met episode.calls = episode.met := by
  have hrun := run_sending (scope.derive ds) t e { h with writing := h.writing + 1 }
  rw [Errand.perform, derive_shipping]
  cases hs : sent h.objects (scope.derive ds) e with
  | error failure =>
    rw [hs] at hrun
    exact ⟨⟨[], _⟩, .unsent hs, .whileWriting (.of_run hrun hc rfl), rfl⟩
  | ok what =>
    obtain ⟨timestamp, line⟩ := what
    rw [hs] at hrun
    obtain ⟨result, hsend, hreports⟩ := exists_makes_send t
      (h := { h with writing := h.writing + 1 }) hc ha timestamp line
    refine ⟨⟨[(_, _)], result⟩, .sent hs hreports, .whileWriting ?_, rfl⟩
    exact .of_run (hrun.trans (Prod.ext hsend.result rfl)) hsend.client hsend.objects

/-- **An errand is carried out** as it has to be. -/
theorem exists_comes (hc : h.clients[t.client]? = some c) (ha : c.Answers) (errand : Errand) :
    ∃ episode, Comes h.objects scope t errand episode
      ∧ Makes t.client h c (errand.perform scope t) episode.calls episode.result
      ∧ c.met episode.calls = episode.met := by
  cases errand with
  | ensure ds =>
    rw [Errand.perform, derive_shipping]
    exact exists_comes_ensure scope t hc ha ds
  | handle ds e => exact exists_comes_handle scope t hc ha ds e

/-- The errands of a run, one after the other. -/
def carryOut (errands : List Errand) : Host → List (Except Failure Unit) × Host :=
  runEach (errands.map fun errand => errand.perform scope t)

/-- **Errands are carried out one after the other** as each of them has to be. -/
theorem exists_comes_carryOut (hc : h.clients[t.client]? = some c) (ha : c.Answers)
    (errands : List Errand) :
    ∃ episodes : List Episode, List.Forall₂ (Comes h.objects scope t) errands episodes
      ∧ (carryOut scope t errands h).1 = episodes.map (·.result)
      ∧ (carryOut scope t errands h).2.clients[t.client]?
          = some (c.after (episodes.flatMap (·.calls)))
      ∧ (carryOut scope t errands h).2.objects = h.objects
      ∧ c.met (episodes.flatMap (·.calls)) = episodes.flatMap (·.met) := by
  induction errands generalizing h c with
  | nil => exact ⟨[], .nil, rfl, hc, rfl, rfl⟩
  | cons errand errands ih =>
    -- the others start where the first has left the client, which still has answers only
    obtain ⟨episode, hcomes, hmakes, hmet⟩ := exists_comes scope t hc ha errand
    obtain ⟨episodes, hrest, hresults, hclient, hobjects, hmets⟩ := ih hmakes.client (ha.after _)
    rw [hmakes.objects] at hrest hobjects
    refine ⟨episode :: episodes, .cons hcomes hrest, ?_, ?_, hobjects, ?_⟩
    · exact congrArg₂ List.cons hmakes.result hresults
    · rw [List.flatMap_cons, Client.after_append]
      exact hclient
    · rw [List.flatMap_cons, List.flatMap_cons, Client.met_append, hmet, hmets]

/-! ## Two runs -/

/-- **Two hosts have seen the same calls** since their clients were the given ones, and have the
same containers. -/
def Alike (n : Nat) (c d : Client) (h k : Host) : Prop :=
  k.objects = h.objects
    ∧ ∃ made, h.clients[n]? = some (c.after made) ∧ k.clients[n]? = some (d.after made)

section Alike

variable {n : Nat} {d : Client}

/-- How many sinks are writing is nothing that the two have to have in common. -/
theorem together_whileWriting {x : Action Unit} (hx : Together (Alike n c d) x x) :
    Together (Alike n c d) (Sink.whileWriting x) (Sink.whileWriting x) :=
  Together.bind (together_update fun hr => hr) fun _ => hx.ensuring fun hr => hr

variable (hs : ∀ op, d.script op = c.script op)

include hs

theorem together_callOn (call : Call) :
    Together (Alike n c d) (Client.callOn n call) (Client.callOn n call) := by
  rintro h k ⟨hobjects, made, hh, hk⟩
  have hsaid : ((d.after made).call call).1 = ((c.after made).call call).1 :=
    congrArg (fun script => script.headD .success) (Client.script_after hs made call.operation)
  rw [Client.run_callOn hh, Client.run_callOn hk, hsaid]
  refine ⟨rfl, hobjects, made ++ [call], ?_, ?_⟩
  · rw [Client.after_append]
    exact Client.getElem?_set hh call
  · rw [Client.after_append]
    exact Client.getElem?_set hk call

theorem together_create (resource : Resource) (call : Call) :
    Together (Alike t.client c d) (t.create resource call) (t.create resource call) := by
  refine Together.tryCatch ((together_callOn hs call).bind fun _ => ?_) fun failure => ?_
  · exact together_update fun hr => hr
  · split
    · split
      · exact together_pure ()
      · exact together_throw _
    · exact together_throw _
    · exact together_throw _

theorem together_send (timestamp : Int) (line : String) :
    Together (Alike t.client c d) (t.send timestamp line) (t.send timestamp line) := by
  refine (together_callOn hs _).tryCatch fun failure => ?_
  split <;> exact together_throw _

/-- **An errand goes together with itself** on hosts whose clients have the same to say. -/
theorem together_perform (errand : Errand) :
    Together (Alike t.client c d) (errand.perform scope t) (errand.perform scope t) := by
  cases errand with
  | ensure ds =>
    rw [Errand.perform, derive_shipping]
    exact (together_create t hs _ _).bind fun _ => together_create t hs _ _
  | handle ds e =>
    rw [Errand.perform, derive_shipping]
    have hobjects : Together (Alike t.client c d) (look Host.objects) (look Host.objects) :=
      together_look fun hr => hr.1
    refine together_whileWriting ((together_ofExcept _).bind fun timestamp => ?_)
    exact hobjects.bind fun σ =>
      (together_ofExcept ((Payload.ofEvent (scope.derive ds) e).structuredLine σ)).bind fun line =>
        together_send t hs timestamp line

/-- **Runs go on alike** on two hosts that have seen the same calls. -/
theorem alike_carryOut {k : Host} (hr : Alike t.client c d h k) (errands : List Errand) :
    (carryOut scope t errands k).1 = (carryOut scope t errands h).1
      ∧ Alike t.client c d (carryOut scope t errands h).2 (carryOut scope t errands k).2 := by
  induction errands generalizing h k with
  | nil => exact ⟨rfl, hr⟩
  | cons errand errands ih =>
    obtain ⟨hfirst, hr'⟩ := together_perform scope t hs errand hr
    obtain ⟨hrest, hr''⟩ := ih hr'
    exact ⟨congrArg₂ List.cons hfirst hrest, hr''⟩

end Alike

/-! ## Whole runs -/

/-- **What is sent of an event is what a sink that writes lines writes of it**, if it is derived
in the same way from one with the same scope. -/
theorem writes_of_sent {ds : List Derivation} {e : Event} {timestamp : Int} {line : String}
    (hs : sent h.objects (scope.derive ds) e = .ok (timestamp, line)) {w : Endpoint}
    (hw : w.IsOpen h) :
    ∃ h', ((Chain.sink ((Sink.structured scope [w]).derive ds)).accept e).run h = (.ok (), h')
      ∧ w.text h' = w.text h ++ (line ++ "\n") := by
  obtain ⟨_, -, hs⟩ := Results.bind_eq_ok.mp hs
  obtain ⟨_, hline, hs⟩ := Results.bind_eq_ok.mp hs
  cases hs
  obtain ⟨j, hj, rfl⟩ := Results.map_eq_ok.mp hline
  have hwrites := Sink.run_deliver_structured (scope.derive ds) hw
    (Bridge.talkVia Bridge.emit) e
  rw [hj] at hwrites
  obtain ⟨h', hrun, hgrown⟩ := hwrites
  rw [derive_structured]
  exact ⟨h', hrun, hgrown.text⟩

/-- **Episodes account for a run of errands.** -/
structure Accounts (h : Host) (c : Client) (errands : List Errand) (episodes : List Episode) :
    Prop where
  /-- Every errand goes as it has to go. -/
  comes : List.Forall₂ (Comes h.objects scope t) errands episodes
  results : (carryOut scope t errands h).1 = episodes.map (·.result)
  /-- The calls of the episodes are made on the client, and no others. -/
  client : (carryOut scope t errands h).2.clients[t.client]?
    = some (c.after (episodes.flatMap (·.calls)))
  calls : (c.after (episodes.flatMap (·.calls))).calls = c.calls ++ episodes.flatMap (·.calls)
  /-- They meet what the client has in its script. -/
  met : c.met (episodes.flatMap (·.calls)) = episodes.flatMap (·.met)
  /-- What is sent of an event is what a sink that writes lines would write of it. -/
  lines : ∀ {ds : List Derivation} {e : Event} {timestamp : Int} {line : String},
    sent h.objects (scope.derive ds) e = .ok (timestamp, line) →
      ∀ (w : Endpoint) (k : Host), k.objects = h.objects → w.IsOpen k →
        ∃ k', ((Chain.sink ((Sink.structured scope [w]).derive ds)).accept e).run k = (.ok (), k')
          ∧ w.text k' = w.text k ++ (line ++ "\n")
  /-- Whatever has failed by then, later errands go as they go on any other host with the same
  containers, if the client there has the same still to say. -/
  later : ∀ (d : Client) (k : Host), k.objects = h.objects → k.clients[t.client]? = some d →
    (∀ op, d.script op = (c.after (episodes.flatMap (·.calls))).script op) →
      ∀ errands', let now := carryOut scope t errands' (carryOut scope t errands h).2
        let there := carryOut scope t errands' k
        there.1 = now.1
          ∧ Alike t.client (c.after (episodes.flatMap (·.calls))) d now.2 there.2

/-- **Errands are accounted for**, whatever the client has in its script. -/
theorem exists_accounts (hc : h.clients[t.client]? = some c) (ha : c.Answers)
    (errands : List Errand) : ∃ episodes, Accounts scope t h c errands episodes := by
  obtain ⟨episodes, hcomes, hresults, hclient, hobjects, hmet⟩ :=
    exists_comes_carryOut scope t hc ha errands
  refine ⟨episodes, ?_⟩
  constructor
  case comes => exact hcomes
  case results => exact hresults
  case client => exact hclient
  case calls => exact Client.calls_after c _
  case met => exact hmet
  case lines =>
    intro ds e timestamp line hs w k hk hw
    exact writes_of_sent scope (hk ▸ hs) hw
  case later =>
    intro d k hk hd hs errands'
    exact alike_carryOut scope t hs ⟨hk.trans hobjects.symm, [], hclient, hd⟩ errands'

/-- The group is there already, and there are no credentials for the stream; an event is refused;
the group is refused without a code; an event is sent, from a group; and one cannot be rendered. -/
theorem exists_accounts_five :
    let c : Client := ⟨[.refused ⟨some alreadyThere, none⟩, .refused ⟨none, none⟩],
      [.noCredentials], [.refused ⟨some "Throttling", some "slow"⟩, .success], []⟩
    let h : Host := { Host.fresh [] ⟨⟨2024, 5, 1⟩, 10, 0, 0, 0, some 0⟩ [] "/" "host" with
      clients := [c] }
    let scope : Scope := .root .info false
    let t : Shipping := ⟨0, "/app", "web"⟩
    let event (attrs : List Attr) : Event := ⟨h.now, .info, "m", none, attrs⟩
    let errands : List Errand := [.ensure [],
      .handle [.bind [⟨"k", .int 7⟩]] (event []), .ensure [.openGroup "g"],
      .handle [.openGroup "g"] (event [⟨"k", .text "a"⟩]),
      .handle [] (event [⟨"k", .atom none (.foreign none .nothing)⟩])]
    let run := carryOut scope t errands h
    h.clients[t.client]? = some c ∧ c.Answers
      ∧ run.1.map (Except.mapError Failure.kind) = [.error "SinkError", .error "SinkError",
          .error "SinkError", .ok (), .error "RuntimeError"]
      ∧ run.2.clients[t.client]?.map (·.calls) = some [.createGroup "/app",
          .createStream "/app" "web",
          .putEvent "/app" "web" 1714557600000
            ("\x7b\"time\": \"2024-05-01T10:00:00+00:00\", \"level\": \"INFO\", "
              ++ "\"message\": \"m\", \"k\": 7\x7d"),
          .createGroup "/app",
          .putEvent "/app" "web" 1714557600000
            ("\x7b\"time\": \"2024-05-01T10:00:00+00:00\", \"level\": \"INFO\", "
              ++ "\"message\": \"m\", \"g\": \x7b\"k\": \"a\"\x7d\x7d")]
      ∧ ∃ episodes, Accounts scope t h c errands episodes := by
  intro c h scope t event errands run
  have hc : h.clients[t.client]? = some c := rfl
  have ha : c.Answers := fun op => by cases op <;> decide
  exact ⟨hc, ha, by decide +kernel, by decide +kernel, exists_accounts scope t hc ha errands⟩

end Errands

end Shipping

end DiscreetLog
