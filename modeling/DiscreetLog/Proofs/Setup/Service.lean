import DiscreetLog.Setup
import DiscreetLog.Proofs.Host.Actions
import Mathlib.Data.List.Basic

/-!
# A sink for the log service

Before there is a sink that sends to the log service, a client may have to be asked for, and the
group and the stream are created. Whatever comes of it, nothing on the host but the client changes,
and the calls that were made on it create things (`Shipped`).
-/

namespace DiscreetLog

open DiscreetLog.Action

namespace Client

/-- A client after some calls. -/
def after (c : Client) (made : List Call) : Client := made.foldl (fun c call => (c.call call).2) c

theorem after_append (c : Client) (made more : List Call) :
    c.after (made ++ more) = (c.after made).after more := List.foldl_append

variable {n : Nat} {h : Host} {c : Client}

/-- **A call comes to what the client says.** -/
theorem run_callOn (hc : h.clients[n]? = some c) (call : Call) :
    (callOn n call).run h
      = (match (c.call call).1.failure? call.operation with
          | none => .ok ()
          | some failure => .error failure,
        { h with clients := h.clients.set n (c.call call).2 }) := by
  rw [callOn, run_bind, run_get]
  dsimp only
  rw [hc]
  dsimp only
  rw [run_bind, run_update]
  dsimp only
  cases (c.call call).1.failure? call.operation <;> rfl

/-- The client after the call stands in the place of the one before. -/
theorem getElem?_set (hc : h.clients[n]? = some c) (call : Call) :
    (h.clients.set n (c.call call).2)[n]? = some (c.after [call]) :=
  List.getElem?_set_self (List.getElem?_eq_some_iff.mp hc).1

end Client

/-- **Calls that create things are made on a client**, and notes are made of them. -/
def Made (n : Nat) (h k : Host) : Prop :=
  ∃ (made : List Call) (notes : List Note), (∀ call ∈ made, call.operation ≠ .putEvents)
    ∧ k = { h with
        clients := h.clients.modify n (·.after made)
        notes := h.notes ++ notes }

namespace Made

variable {n : Nat}

/-- Notes alone. -/
theorem noted (n : Nat) (h : Host) (notes : List Note) :
    Made n h { h with notes := h.notes ++ notes } := by
  have hclients : h.clients.modify n (·.after []) = h.clients := List.modify_id n h.clients
  exact ⟨[], notes, nofun, by rw [hclients]⟩

theorem refl (n : Nat) (h : Host) : Made n h h := by
  have hnoted := noted n h []
  rwa [List.append_nil] at hnoted

theorem trans (h k m : Host) (hk : Made n h k) (hm : Made n k m) : Made n h m := by
  obtain ⟨made, notes, hmade, rfl⟩ := hk
  obtain ⟨more, rest, hmore, rfl⟩ := hm
  refine ⟨made ++ more, notes ++ rest, ?_, ?_⟩
  · intro call hcall
    exact (List.mem_append.mp hcall).elim (hmade call) (hmore call)
  · simp only [List.modify_modify_eq, List.append_assoc, Client.after_append]
    rfl

theorem callOn (n : Nat) {call : Call} (hcall : call.operation ≠ .putEvents) :
    Leads (Made n) (Client.callOn n call) := by
  intro h
  cases hc : h.clients[n]? with
  | none =>
    rw [Client.callOn, run_bind, run_get]
    dsimp only
    rw [hc]
    exact refl n h
  | some c =>
    have hclients : h.clients.set n (c.call call).2 = h.clients.modify n (·.after [call]) := by
      obtain ⟨hn, rfl⟩ := List.getElem?_eq_some_iff.mp hc
      rw [List.modify_eq_set_get _ hn]
      rfl
    rw [Client.run_callOn hc]
    exact ⟨[call], [], by simpa using hcall, by simp [hclients]⟩

theorem create (t : Shipping) (resource : Resource) {call : Call}
    (hcall : call.operation ≠ .putEvents) : Leads (Made t.client) (t.create resource call) := by
  refine Leads.tryCatch trans ((callOn t.client hcall).bind trans fun _ h => ?_) fun failure h => ?_
  · exact noted _ h [_]
  · split
    · split <;> exact refl _ h
    · exact refl _ h
    · exact refl _ h

theorem ensure (t : Shipping) : Leads (Made t.client) t.ensure :=
  (create t _ Operation.noConfusion).bind trans fun _ => create t _ Operation.noConfusion

end Made

/-- **What a sink for the log service takes to be made.** -/
structure Shipped (client : Option Nat) (h k : Host) : Prop where
  /-- Nothing changes but the clients, how they were asked for, and the notes. -/
  rest : k = { h with
    clients := k.clients
    connecting := k.connecting
    connections := k.connections
    notes := k.notes }
  /-- Calls that create things are made on the client, or on a new one if none is given. -/
  clients : ∃ made : List Call, (∀ call ∈ made, call.operation ≠ .putEvents)
    ∧ (k.clients = h.clients.modify (client.getD h.clients.length) (·.after made)
      ∨ client = none ∧ ∃ c, h.connecting.headD (.ok .reliable) = .ok c
        ∧ k.clients = h.clients ++ [c.after made])
  /-- A new client is asked for at most once. -/
  connections : k.connecting = h.connecting ∧ k.connections = h.connections
    ∨ client = none ∧ k.connecting = h.connecting.tail ∧ ∃ c, k.connections = h.connections ++ [c]
  notes : ∃ notes, k.notes = h.notes ++ notes

namespace Shipped

variable {client : Option Nat} {h k : Host}

theorem refl (client : Option Nat) (h : Host) : Shipped client h h :=
  ⟨rfl, ⟨[], nofun, .inl (List.modify_id _ _).symm⟩, .inl ⟨rfl, rfl⟩, [], (List.append_nil _).symm⟩

/-- Notes are made afterwards. -/
theorem noted (hk : Shipped client h k) (notes : List Note) :
    Shipped client h { k with notes := k.notes ++ notes } := by
  obtain ⟨earlier, hnotes⟩ := hk.notes
  refine ⟨?_, hk.clients, hk.connections, earlier ++ notes, ?_⟩
  · exact congrArg (fun m : Host => { m with notes := k.notes ++ notes }) hk.rest
  · rw [hnotes, List.append_assoc]

/-- The disk stays as it is. -/
theorem disk (hk : Shipped client h k) : k.disk = h.disk := by
  rw [hk.rest]

/-- The files have nothing to do with it. -/
theorem withFiles (hk : Shipped client h k) (files : List LogFile) :
    Shipped client { h with files } { k with files } :=
  ⟨congrArg (fun m : Host => { m with files }) hk.rest, hk.clients, hk.connections, hk.notes⟩

end Shipped

/-- A host on which a client was asked for. -/
def Host.asking (region : Option String) (h : Host) : Host :=
  { h with
    connecting := h.connecting.tail
    connections := h.connections ++ [.ofEnvironment h.environment region] }

/-- **What asking for a client comes to.** -/
theorem Client.run_connect (region : Option String) (h : Host) :
    (connect region).run h = match h.connecting.headD (.ok .reliable) with
      | .error failure => (.error failure, h.asking region)
      | .ok c => (.ok h.clients.length, { h.asking region with clients := h.clients ++ [c] }) := by
  rw [connect, run_bind, run_get]
  dsimp only
  rw [run_bind, run_update]
  dsimp only
  rw [run_bind, run_ofExcept]
  cases h.connecting.headD (.ok .reliable) <;> rfl

/-- **A sink for the log service is made** with the client that was given, or with a new one. -/
theorem Settings.shipped (s : Settings) (service : String) (client : Option Nat) :
    Leads (Shipped client) (s.shippingSink service client) := by
  let target (n : Nat) : Shipping :=
    ⟨n, s.cloudGroup, if s.cloudStream = "" then service else s.cloudStream⟩
  have hmade (n : Nat) : Leads (Made n) (do
      (target n).ensure
      return Sink.shipping (.root s.threshold true) (target n)) :=
    (Made.ensure (target n)).bind Made.trans fun _ h => Made.refl n h
  intro h
  cases client with
  | some n =>
    obtain ⟨made, notes, hcalls, hk⟩ := hmade n h
    have hrun : (s.shippingSink service (some n)).run h = (do
      (target n).ensure
      return Sink.shipping (.root s.threshold true) (target n) : Action Sink).run h := rfl
    rw [hrun, hk]
    exact ⟨rfl, ⟨made, hcalls, .inl rfl⟩, .inl ⟨rfl, rfl⟩, notes, rfl⟩
  | none =>
    rw [shippingSink.eq_def, run_bind, Client.run_connect]
    cases hc : h.connecting.headD (.ok .reliable) with
    | error failure =>
      exact ⟨rfl, (Shipped.refl none h).clients, .inr ⟨rfl, rfl, _, rfl⟩, [],
        (List.append_nil _).symm⟩
    | ok c =>
      obtain ⟨made, notes, hcalls, hk⟩ := hmade h.clients.length
        { h.asking (some s.region) with clients := h.clients ++ [c] }
      have hclients : (h.clients ++ [c]).modify h.clients.length (·.after made)
          = h.clients ++ [c.after made] := by
        generalize h.clients = clients
        induction clients with
        | nil => rfl
        | cons _ clients ih => exact congrArg (List.cons _) ih
      dsimp only
      rw [hk]
      exact ⟨rfl, ⟨made, hcalls, .inr ⟨rfl, c, hc, hclients⟩⟩, .inr ⟨rfl, rfl, _, rfl⟩, notes, rfl⟩

end DiscreetLog
