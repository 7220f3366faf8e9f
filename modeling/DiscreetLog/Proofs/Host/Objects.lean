import DiscreetLog.Proofs.Host.Likeness

/-!
# What logging leaves alone

The sinks of the library write elsewhere than they read: to streams and files, to clients and to
stores. The rest of a host is the same after a sink has handled an event (`Host.still`), and all of
it but the marks that bridges and sinks make for themselves is the same after any record that was
put on a bridge (`Host.frame`). In particular the containers that a program holds are the same,
whatever a chain does.
-/

namespace DiscreetLog

open DiscreetLog.Action

/-! ## Writing and sending -/

/-- **What sinks leave as it is**: everything but the texts that were written, the clients, the
events that were kept, and the notes. -/
def Host.still (h : Host) : Host :=
  { h with
    streams := []
    stdout := ""
    stderr := ""
    files := h.files.map fun f => { f with pending := "" }
    disk := .empty
    clients := []
    stores := []
    notes := [] }

/-- A file of which only the pending text changes. -/
theorem Host.still_set_file {h : Host} {n : Nat} {f : LogFile} (hf : h.files[n]? = some f)
    (f' : LogFile) (disk : Disk) (hff' : { f' with pending := "" } = { f with pending := "" }) :
    ({ h with files := h.files.set n f', disk } : Host).still = h.still := by
  have hfiles : (h.files.set n f').map (fun f => { f with pending := "" })
      = h.files.map fun f => { f with pending := "" } := by
    obtain ⟨hn, rfl⟩ := List.getElem?_eq_some_iff.mp hf
    rw [List.map_set, hff', ← List.map_set, List.set_getElem_self]
  simp only [still, hfiles]

theorem Endpoint.keeps_write (text : String) (w : Endpoint) : Keeps Host.still (w.write text) := by
  cases w with
  | memory name =>
    refine keeps_get.bind fun h => ?_
    dsimp only
    split
    · exact keeps_throw _
    · exact keeps_update fun _ => rfl
  | stdout =>
    refine keeps_get.bind fun h => ?_
    split
    · exact keeps_throw _
    · exact keeps_update fun _ => rfl
  | stderr =>
    refine keeps_get.bind fun h => ?_
    split
    · exact keeps_throw _
    · exact keeps_update fun _ => rfl
  | file n =>
    intro h
    rw [write, run_bind, run_get]
    dsimp only
    cases hf : h.files[n]? with
    | none => rfl
    | some f =>
      dsimp only
      split
      · rfl
      · exact Host.still_set_file hf _ _ rfl

theorem Endpoint.keeps_flush (w : Endpoint) : Keeps Host.still w.flush := by
  cases w with
  | memory name => exact keeps_pure ()
  | stdout =>
    refine keeps_get.bind fun h => ?_
    split
    · exact keeps_throw _
    · exact keeps_pure ()
  | stderr =>
    refine keeps_get.bind fun h => ?_
    split
    · exact keeps_throw _
    · exact keeps_pure ()
  | file n =>
    intro h
    rw [flush, run_bind, run_get]
    dsimp only
    cases hf : h.files[n]? with
    | none => rfl
    | some f =>
      dsimp only
      split
      · rfl
      · rename_i hopen
        rw [run_bind, run_get]
        dsimp only
        split
        · rfl
        · have hsame : ({ f with pending := "", closed := false } : LogFile)
              = { f with pending := "" } := by rw [← Bool.eq_false_iff.mpr hopen]
          exact Host.still_set_file hf _ _ hsame

theorem Writer.keeps_writeLine (w : Writer) (line : String) : Keeps Host.still (w.writeLine line) :=
  Keeps.bind (.forM fun e => e.keeps_write _) fun _ => .forM fun e => e.keeps_flush

theorem Client.keeps_callOn (n : Nat) (call : Call) : Keeps Host.still (callOn n call) := by
  refine keeps_get.bind fun h => ?_
  split
  · exact keeps_throw _
  · refine Keeps.bind (keeps_update ?_) fun _ => ?_
    · exact fun _ => rfl
    · split
      · exact keeps_throw _
      · exact keeps_pure ()

theorem Shipping.keeps_send (t : Shipping) (timestamp : Int) (line : String) :
    Keeps Host.still (t.send timestamp line) := by
  refine (Client.keeps_callOn _ _).tryCatch fun failure => ?_
  split <;> exact keeps_throw _

/-- **The sinks of the library write elsewhere than they read.** -/
theorem serves_still : Serves (fun _ => True) fun _ => Keeps Host.still where
  result x := keeps_ofExcept x
  surroundings := keeps_look _
  noted x := keeps_ofNoted (fun _ _ => rfl) x
  line w line := w.keeps_writeLine line
  stream text _ := Endpoint.keeps_write text _
  send t timestamp line _ := t.keeps_send timestamp line
  keep _ _ := keeps_update fun _ => rfl

/-- **The sinks of the library leave the bridges as they are.** -/
theorem Sinks.orderly_bridging (e : Event) (s : Sink) :
    Orderly (fun _ => Keeps Host.bridging) fun put => own put e s :=
  orderly_own (serves_still.mono fun hx => hx.of_part Host.bridging) e fun _ _ => trivial

/-! ## Records on bridges -/

/-- A host without the marks that bridges and sinks make while they are at work, and without the
failures that stayed with a bridge. -/
def Host.unmarked (h : Host) : Host :=
  { h with
    bridges := h.bridges.map fun b => { b with emitting := false }
    writing := 0
    swallowed := [] }

/-- **What logging leaves as it is**: what sinks do, but for the marks that are made meanwhile. -/
def Host.frame (h : Host) : Host := h.still.unmarked

theorem likeness_frame (v : Host) : Likeness fun h k => h = k ∧ h.frame = v := by
  refine likeness_of_part (fun _ _ => rfl) (fun _ _ => rfl) (fun h n emitting => ?_)
    (fun _ _ => rfl) v
  have hmap (bs : List Bridge) (n : Nat) :
      (bs.modify n fun b => { b with emitting }).map (fun b => { b with emitting := false })
        = bs.map fun b => { b with emitting := false } := by
    induction bs generalizing n with
    | nil => cases n <;> rfl
    | cons b bs ih =>
      cases n with
      | zero => rfl
      | succ n => rw [List.modify_succ_cons, List.map_cons, List.map_cons, ih n]
  exact congrArg (fun bridges => { h.still with bridges, writing := 0, swallowed := [] })
    (hmap h.bridges n)

theorem Sinks.fair_frame (v : Host) (e : Event) (s : Sink) :
    Orderly (Fair fun h k => h = k ∧ h.frame = v) fun put => own put e s := by
  refine orderly_own (serves_still.mono fun hx => ?_) e fun _ _ => trivial
  exact ⟨hx.of_part Host.bridging, keeps_iff_together.mp (hx.of_part Host.unmarked) v⟩

/-- **A record that is put on a bridge leaves the frame of the host as it is**, however many bridges
it goes through. -/
theorem Bridge.keeps_frame_emit (n : Nat) (r : Foreign) : Keeps Host.frame (emit n r) :=
  keeps_iff_together.mpr fun v => together_emitTo (likeness_frame v)
    (fun e s _ => Sinks.fair_frame v e s) (A := fun _ => True) (fun _ _ _ _ _ => trivial) n r

/-! ## Chains -/

/-- A stretch of writing keeps a part in which it is not noted. -/
theorem Sink.keeps_whileWriting {γ : Type} {f : Host → γ}
    (hf : ∀ (h : Host) writing, f { h with writing } = f h) {x : Action Unit} (hx : Keeps f x) :
    Keeps f (whileWriting x) :=
  Keeps.bind (keeps_update fun h => hf h _) fun _ => hx.ensuring fun h => hf h _

/-- **A chain keeps the objects**, if its sinks do. -/
theorem Chain.keeps_handle {deliver : Event → Sink → Action Unit}
    (hd : ∀ e s, Keeps Host.objects (deliver e s)) (e : Event) (c : Chain) :
    Keeps Host.objects (c.handle deliver e) := by
  have hP : Admits fun _ => Keeps Host.objects :=
    ⟨fun x => keeps_ofExcept x, keeps_look _, fun x => keeps_ofNoted (fun _ _ => rfl) x⟩
  have hc : Orderly (fun _ => Keeps Host.objects) fun _ => c.handle deliver e :=
    orderly_handle hP e c fun l _ e => .own (hd e l.sink)
  have hput (n : Nat) (r : Foreign) : Keeps Host.objects ((fun _ _ => pure () : Put) n r) :=
    keeps_pure ()
  exact hc.keeps hput (Sink.keeps_whileWriting fun _ _ => rfl)

/-- **The sinks of the library keep the objects.** -/
theorem Sink.keeps_deliver_emit (e : Event) (s : Sink) :
    Keeps Host.objects (deliver (Bridge.talkVia Bridge.emit) e s) := by
  have hemit (n : Nat) (r : Foreign) : Keeps Host.objects (Bridge.emit n r) :=
    (Bridge.keeps_frame_emit n r).of_part Host.objects
  have hs : Serves (fun _ => True) fun _ => Keeps Host.objects :=
    serves_still.mono fun hx => hx.of_part Host.objects
  exact (Sinks.orderly_own hs e fun _ _ => trivial).keeps hemit
    (Sink.keeps_whileWriting fun _ _ => rfl)

end DiscreetLog
