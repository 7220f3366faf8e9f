import DiscreetLog.Setup
import DiscreetLog.Proofs.Host.Calls
import DiscreetLog.Proofs.Host.Endpoints

/-!
# Hosts that differ by a set-up

A set-up that fails leaves a file that is closed, perhaps one without text on the disk, a client on
which some calls were made, and notes. Loggers cannot make out any of it, as long as they do not
send with that client: they write to other files, or fail to write to one that is closed, they send
with other clients, and they never read the disk, the environment or the notes. So hosts that differ
in no more than that are alike (`likeness_alike`), and the sinks of the library do the same on both
(`Sinks.fair_alike`).
-/

namespace DiscreetLog

open DiscreetLog.Action

/-! ## The likeness -/

/-- **What stands on a host** whether a set-up has been tried or not. -/
def Host.standing (h : Host) : Host :=
  { h with
    environment := []
    disk := .empty
    files := []
    clients := []
    notes := []
    connecting := []
    connections := [] }

/-- **Two hosts of which the second has seen a set-up fail**: it has opened some files more, which
are closed, and has used a client. Both had certain notes at a time, and have got the same since. -/
structure Alike (opened : List LogFile) (used : Nat) (before after : List Note) (h k : Host) :
    Prop where
  standing : k.standing = h.standing
  files : k.files = h.files ++ opened
  clients : ∀ n, n ≠ used → k.clients[n]? = h.clients[n]?
  /-- A file that is not there has no text. -/
  texts : ∀ path, (k.disk.read? path).getD "" = (h.disk.read? path).getD ""
  room : k.disk.full = h.disk.full
  notes : ∃ notes, h.notes = before ++ notes ∧ k.notes = after ++ notes

section Alike

variable {opened : List LogFile} {used : Nat} {before after : List Note}

namespace Alike

variable {h k : Host}

/-- What is read off what stands is the same on both hosts. -/
theorem same {γ : Type} {f : Host → γ} (hf : ∀ m : Host, f m.standing = f m)
    (hr : Alike opened used before after h k) : f k = f h := by
  rw [← hf k, hr.standing, hf h]

/-- What stands is changed on both hosts in the same way. -/
theorem change {f : Host → Host} (hf : ∀ m : Host, f m = { f m.standing with
      environment := m.environment, disk := m.disk, files := m.files, clients := m.clients
      notes := m.notes, connecting := m.connecting, connections := m.connections })
    (hr : Alike opened used before after h k) : Alike opened used before after (f h) (f k) := by
  rw [hf h, hf k, hr.standing]
  exact ⟨rfl, hr.files, hr.clients, hr.texts, hr.room, hr.notes⟩

end Alike

/-- **Logging cannot make out which of two such hosts it is on.** -/
theorem likeness_alike : Likeness (Alike opened used before after) where
  surroundings hr := hr.same (f := Host.surroundings) fun _ => rfl
  noted notes hr := by
    obtain ⟨earlier, hh, hk⟩ := hr.notes
    refine ⟨hr.standing, hr.files, hr.clients, hr.texts, hr.room, earlier ++ notes, ?_, ?_⟩
    · rw [Host.noted, hh, List.append_assoc]
    · rw [Host.noted, hk, List.append_assoc]
  swallowing failure hr := hr.change (f := (Host.swallowing · failure)) fun _ => rfl
  marking n emitting hr := hr.change (f := Bridge.mark n emitting) fun _ => rfl
  counting writing hr := hr.change (f := fun m => { m with writing }) fun _ => rfl

/-! ## The sinks of the library -/

namespace Alike

variable {h k : Host}

/-- **A file is the same on both hosts**, unless it is one of those more, which are closed. -/
theorem file (hopened : ∀ f ∈ opened, f.closed = true) (hr : Alike opened used before after h k)
    (n : Nat) :
    (∃ f, h.files[n]? = some f ∧ k.files[n]? = some f)
      ∨ h.files[n]? = none ∧ ∀ f, k.files[n]? = some f → f.closed = true := by
  rw [hr.files]
  rcases Nat.lt_or_ge n h.files.length with hn | hn
  · exact .inl ⟨_, List.getElem?_eq_getElem hn,
      (List.getElem?_append_left hn).trans (List.getElem?_eq_getElem hn)⟩
  · refine .inr ⟨List.getElem?_eq_none hn, fun f hf => ?_⟩
    rw [List.getElem?_append_right hn] at hf
    exact hopened f (List.mem_of_getElem? hf)

/-- A file of both hosts is changed. -/
theorem set_file (hr : Alike opened used before after h k) {n : Nat} {f : LogFile}
    (hf : h.files[n]? = some f) (f' : LogFile) :
    k.files.set n f' = h.files.set n f' ++ opened := by
  rw [hr.files, List.set_append_left _ _ (List.getElem?_eq_some_iff.mp hf).1]

/-- **What is done with an open file comes to the same on both hosts**, or there is none on
either. -/
theorem together_file (hopened : ∀ f ∈ opened, f.closed = true) (n : Nat)
    {x : LogFile → Action Unit}
    (hx : ∀ {h k : Host} {f : LogFile}, Alike opened used before after h k →
      h.files[n]? = some f →
      ((x f).run k).1 = ((x f).run h).1
        ∧ Alike opened used before after ((x f).run h).2 ((x f).run k).2) :
    let y : Action Unit := do
      match (← get).files[n]? with
      | some f => if f.closed then throw .closedFile else x f
      | none => throw .closedFile
    Together (Alike opened used before after) y y := by
  intro y h k hr
  rw [run_bind, run_bind, run_get, run_get]
  dsimp only
  rcases hr.file hopened n with ⟨f, hf, hf'⟩ | ⟨hf, hf'⟩
  · rw [hf, hf']
    dsimp only
    split
    · exact ⟨rfl, hr⟩
    · exact hx hr hf
  · rw [hf]
    cases hmore : k.files[n]? with
    | none => exact ⟨rfl, hr⟩
    | some f =>
      dsimp only
      rw [hf' f hmore]
      exact ⟨rfl, hr⟩

/-- **Writing comes to the same**, whatever it is written to. -/
theorem together_write (hopened : ∀ f ∈ opened, f.closed = true) (text : String) (w : Endpoint) :
    Together (Alike opened used before after) (w.write text) (w.write text) := by
  cases w with
  | stdout =>
    exact together_unless (fun hr => hr.same (f := Host.stdoutClosed) fun _ => rfl) _
      (together_update fun hr =>
        hr.change (f := fun m => { m with stdout := m.stdout ++ text }) fun _ => rfl)
  | stderr =>
    exact together_unless (fun hr => hr.same (f := Host.stderrClosed) fun _ => rfl) _
      (together_update fun hr =>
        hr.change (f := fun m => { m with stderr := m.stderr ++ text }) fun _ => rfl)
  | memory name =>
    intro h k hr
    have hs : Endpoint.streamOf k name = Endpoint.streamOf h name :=
      hr.same (f := (Endpoint.streamOf · name)) fun _ => rfl
    rw [Endpoint.write, run_bind, run_bind, run_get, run_get]
    dsimp only
    rw [hs]
    split
    · exact ⟨rfl, hr⟩
    · exact ⟨rfl, hr.change (f := fun m => { m with
        streams := Ordered.assign name { Endpoint.streamOf h name with
          fresh := (Endpoint.streamOf h name).fresh ++ text } m.streams }) fun _ => rfl⟩
  | file n =>
    exact together_file hopened n fun hr hf =>
      ⟨rfl, hr.standing, hr.set_file hf _, hr.clients, hr.texts, hr.room, hr.notes⟩

/-- What a file of both hosts holds back reaches the disk of both. -/
theorem settle (hr : Alike opened used before after h k) {n : Nat} {f : LogFile}
    (hf : h.files[n]? = some f) (closed : Bool) :
    Alike opened used before after (Endpoint.settle n f closed h)
      (Endpoint.settle n f closed k) := by
  refine ⟨hr.standing, hr.set_file hf _, hr.clients, fun path => ?_, ?_, hr.notes⟩
  case refine_2 => rw [Endpoint.settle_full, Endpoint.settle_full, hr.room]
  unfold Endpoint.settle
  dsimp only
  rw [hr.room]
  split
  · exact hr.texts path
  · rw [Disk.getD_read?_append, Disk.getD_read?_append, hr.texts path]

/-- **Flushing comes to the same**, whatever is flushed. -/
theorem together_flush (hopened : ∀ f ∈ opened, f.closed = true) (w : Endpoint) :
    Together (Alike opened used before after) w.flush w.flush := by
  cases w with
  | stdout =>
    exact together_unless (fun hr => hr.same (f := Host.stdoutClosed) fun _ => rfl) _
      (together_pure ())
  | stderr =>
    exact together_unless (fun hr => hr.same (f := Host.stderrClosed) fun _ => rfl) _
      (together_pure ())
  | memory name => exact together_pure ()
  | file n =>
    refine together_file hopened n fun {h k f} hr hf => ?_
    rw [run_bind, run_bind, run_get, run_get]
    dsimp only
    rw [LogFile.isStuck, LogFile.isStuck, hr.room]
    split
    · exact ⟨rfl, hr⟩
    · exact ⟨rfl, hr.settle hf false⟩

/-- **A call on another client comes to the same.** -/
theorem together_callOn {n : Nat} (hn : n ≠ used) (call : Call) :
    Together (Alike opened used before after) (Client.callOn n call) (Client.callOn n call) := by
  intro h k hr
  rw [Client.callOn, run_bind, run_bind, run_get, run_get]
  dsimp only
  rw [hr.clients n hn]
  cases h.clients[n]? with
  | none => exact ⟨rfl, hr⟩
  | some c =>
    have hcalled : Alike opened used before after
        { h with clients := h.clients.set n (c.call call).2 }
        { k with clients := k.clients.set n (c.call call).2 } := by
      refine ⟨hr.standing, hr.files, fun m hm => ?_, hr.texts, hr.room, hr.notes⟩
      rw [List.getElem?_set', List.getElem?_set', hr.clients m hm]
    dsimp only
    rw [run_bind, run_bind, run_update, run_update]
    dsimp only
    split <;> exact ⟨rfl, hcalled⟩

end Alike

/-- **The sinks of the library do the same on both hosts**, as long as they do not send with the
client that was used. -/
theorem serves_alike (hopened : ∀ f ∈ opened, f.closed = true) :
    Serves (· ≠ used) fun _ x => Together (Alike opened used before after) x x where
  result x := together_ofExcept x
  surroundings := together_look likeness_alike.surroundings
  noted x := together_ofNoted likeness_alike.noted x
  line w line := Together.bind (.forM fun e => Alike.together_write hopened _ e) fun _ =>
    .forM fun e => Alike.together_flush hopened e
  stream text _ := Alike.together_write hopened text _
  send t timestamp line ht := by
    refine (Alike.together_callOn ht _).tryCatch fun failure => ?_
    split <;> exact together_throw _
  keep e k := together_update fun hr => hr.change (f := fun m => { m with
    stores := m.stores.modify k.store (· ++ [⟨e, k.bound, k.groups⟩]) }) fun _ => rfl

/-- A sink does not send with a client. -/
def Sink.Spares (used : Nat) (s : Sink) : Prop := ∀ n, s.client? = some n → n ≠ used

theorem Sink.Spares.bind {s : Sink} (hs : s.Spares used) (as : List Attr) :
    (s.bind as).Spares used := by
  cases s <;> exact hs

theorem Sink.Spares.openGroup {s : Sink} (hs : s.Spares used) (name : String) :
    (s.openGroup name).Spares used := by
  cases s <;> exact hs

theorem Sinks.fair_alike (hopened : ∀ f ∈ opened, f.closed = true) (e : Event) {s : Sink}
    (hs : s.Spares used) :
    Orderly (Fair (Alike opened used before after)) fun put => own put e s :=
  orderly_own ((serves_still.mono fun hx => hx.of_part Host.bridging).and (serves_alike hopened)) e
    fun n hn => ⟨trivial, hs n hn⟩

end Alike

end DiscreetLog
