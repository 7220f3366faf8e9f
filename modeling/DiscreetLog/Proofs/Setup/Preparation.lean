import DiscreetLog.Proofs.Host.Endpoints
import DiscreetLog.Proofs.Setup.Service

/-!
# What comes before anything is installed

A set-up first makes a chain: a file may be opened for it, and a sink for the log service be made.
Until the chain is there nothing of the host changes but the files, the client and the notes
(`Prepared`). Where there is no chain in the end, the file that was opened is closed again.
-/

namespace DiscreetLog

open DiscreetLog.Action

namespace Host

/-- A host on which a file has been opened for appending. -/
def opening (path : FilePath) (h : Host) : Host :=
  { h with files := h.files ++ [⟨path, "", false⟩], disk := h.disk.touch path }

/-- A file of a host is open and holds back what there is no room for. -/
def isStuck (file? : Option Nat) (h : Host) : Bool :=
  match file? with
  | none => false
  | some n => match h.files[n]? with
    | none => false
    | some f => !f.closed && f.isStuck h.disk

/-- A host on which a file has been closed, if there is one. -/
def closing (file? : Option Nat) (h : Host) : Host :=
  match file? with
  | none => h
  | some n => match h.files[n]? with
    | none => h
    | some f => if f.closed then h else Endpoint.settle n f true h

theorem isStuck_iff {n : Nat} {h : Host} :
    h.isStuck (some n) = true
      ↔ ∃ f, h.files[n]? = some f ∧ f.closed = false ∧ f.isStuck h.disk = true := by
  rw [isStuck]
  cases h.files[n]? <;> simp

/-- An open file that is closed. -/
theorem closing_of_open {n : Nat} {f : LogFile} {h : Host} (hf : h.files[n]? = some f)
    (hopen : f.closed = false) : h.closing (some n) = Endpoint.settle n f true h := by
  rw [closing, hf]
  dsimp only
  rw [hopen, if_neg Bool.false_ne_true]

end Host

/-! ## The writer -/

namespace Writer

/-- **The writer of a file**, if there is one, and of the standard output, if it is asked for. -/
def ofFile (file? : Option Nat) (toStdout : Bool) : Option Writer :=
  let standard := if toStdout then [Endpoint.stdout] else []
  match file? with
  | some n => some (.file n :: standard)
  | none => if toStdout then some standard else none

/-- The only file that such a writer writes to. -/
theorem eq_of_ofFile {file? : Option Nat} {toStdout : Bool} {w : Writer} {n : Nat}
    (hw : ofFile file? toStdout = some w) (hn : .file n ∈ w) : file? = some n := by
  cases file? with
  | none =>
    cases toStdout <;> cases hw
    simp at hn
  | some m =>
    cases hw
    cases toStdout <;> simp_all

/-- **Opening a file** fails, and changes nothing, or there is one file more. -/
theorem run_openFile (path : FilePath) (h : Host) :
    (∃ failure, (openFile path).run h = (.error failure, h))
    ∨ (openFile path).run h = (.ok (.file h.files.length), h.opening path) := by
  rw [openFile, run_bind, run_get]
  dsimp only
  split
  · exact .inl ⟨_, rfl⟩
  · split
    · exact .inl ⟨_, rfl⟩
    · exact .inr rfl

/-- **Opening the outputs** fails, and changes nothing, or opens the file that is asked for. -/
theorem run_ofOutputs (outputFile : String) (toStdout : Bool) (h : Host) :
    (∃ failure, (ofOutputs outputFile toStdout).run h = (.error failure, h))
    ∨ outputFile = "" ∧ (ofOutputs outputFile toStdout).run h = (.ok (ofFile none toStdout), h)
    ∨ outputFile ≠ "" ∧ (ofOutputs outputFile toStdout).run h
        = (.ok (ofFile (some h.files.length) toStdout),
          h.opening (.ofName h.directory outputFile)) := by
  rw [ofOutputs]
  by_cases hname : outputFile = ""
  · exact .inr (.inl ⟨hname, by cases toStdout <;> rw [if_pos hname] <;> rfl⟩)
  · rw [if_neg hname, run_bind, run_get]
    dsimp only
    rw [run_bind]
    rcases run_openFile (.ofName h.directory outputFile) h with ⟨failure, hopen⟩ | hopen
    · exact .inl ⟨failure, by rw [hopen]⟩
    · exact .inr (.inr ⟨hname, by rw [hopen]; rfl⟩)

/-- **Closing a file of the host** closes it in any case, and fails where it is stuck. -/
theorem run_close_file (n : Nat) (h : Host) :
    (Endpoint.file n).close.run h
      = (if h.isStuck (some n) then .error .noRoom else .ok (), h.closing (some n)) := by
  show (Endpoint.file n).shut.run h = _
  rw [Endpoint.shut, run_bind, run_get, Host.closing, Host.isStuck]
  dsimp only
  cases h.files[n]? with
  | none => rfl
  | some f =>
    obtain ⟨path, pending, closed⟩ := f
    cases closed with
    | true => rfl
    | false =>
      dsimp only
      rw [if_neg Bool.false_ne_true, run_bind, run_get]
      dsimp only
      rw [run_bind, run_update]
      dsimp only
      simp only [Bool.not_false, Bool.true_and, Bool.false_eq_true, if_false]
      split <;> rfl

/-- **Closing an endpoint fails for want of room** at most, and touches nothing but streams, files
and the disk. -/
theorem run_close (e : Endpoint) (h : Host) :
    (e.close.run h).1 ∈ [.ok (), .error .noRoom]
    ∧ ∃ streams files disk, (e.close.run h).2 = { h with streams, files, disk } := by
  cases e with
  | memory name => exact ⟨List.mem_cons_self, _, _, _, rfl⟩
  | stdout => exact ⟨List.mem_cons_self, _, _, _, rfl⟩
  | stderr => exact ⟨List.mem_cons_self, _, _, _, rfl⟩
  | file n =>
    rw [run_close_file]
    refine ⟨?_, ?_⟩
    · cases h.isStuck (some n)
      · exact List.mem_cons_self
      · exact List.mem_cons_of_mem _ List.mem_cons_self
    · rw [Host.closing]
      dsimp only
      split
      · exact ⟨_, _, _, rfl⟩
      · split <;> exact ⟨_, _, _, rfl⟩

/-- **Closing a writer fails for want of room** at most, and touches nothing but streams, files and
the disk. -/
theorem run_closeIfAny (w : Option Writer) (h : Host) :
    ((closeIfAny w).run h).1 ∈ [.ok (), .error .noRoom]
    ∧ ∃ streams files disk, ((closeIfAny w).run h).2 = { h with streams, files, disk } := by
  cases w with
  | none => exact ⟨List.mem_cons_self, _, _, _, rfl⟩
  | some w =>
    show ((w.forM (·.close)).run h).1 ∈ _ ∧ ∃ streams files disk,
      ((w.forM (·.close)).run h).2 = { h with streams, files, disk }
    induction w generalizing h with
    | nil => exact ⟨List.mem_cons_self, _, _, _, rfl⟩
    | cons e w ih =>
      show ((e.close >>= fun _ => w.forM (·.close)).run h).1 ∈ _ ∧ ∃ streams files disk,
        ((e.close >>= fun _ => w.forM (·.close)).run h).2 = { h with streams, files, disk }
      obtain ⟨hresult, streams, files, disk, hk⟩ := run_close e h
      rw [run_bind]
      rcases he : e.close.run h with ⟨failure | a, k⟩ <;> rw [he] at hresult hk
      · exact ⟨by simpa using hresult, streams, files, disk, hk⟩
      · obtain ⟨hrest, streams, files, disk, hm⟩ := ih k
        dsimp only at hk
        exact ⟨hrest, streams, files, disk, by rw [hm, hk]⟩

/-- **Closing an endpoint opens nothing** and makes no room. -/
theorem open_before_close (e : Endpoint) (h : Host) :
    (e.close.run h).2.disk.full = h.disk.full
    ∧ ∀ (n : Nat) (f : LogFile), (e.close.run h).2.files[n]? = some f → f.closed = false →
      h.files[n]? = some f := by
  cases e with
  | memory name => exact ⟨rfl, fun _ _ hf _ => hf⟩
  | stdout => exact ⟨rfl, fun _ _ hf _ => hf⟩
  | stderr => exact ⟨rfl, fun _ _ hf _ => hf⟩
  | file m =>
    rw [run_close_file, Host.closing]
    dsimp only
    split
    · exact ⟨rfl, fun _ _ hf _ => hf⟩
    · split
      · exact ⟨rfl, fun _ _ hf _ => hf⟩
      · refine ⟨Endpoint.settle_full .., fun n f hf hopen => ?_⟩
        replace hf : (h.files.set m _)[n]? = some f := hf
        have hset := List.getElem?_set.symm.trans hf
        split at hset
        · split at hset <;> cases hset
          cases hopen
        · exact hset

/-- **Closing a writer fails over a file that is stuck**, and that is closed then. -/
theorem stuck_of_closeIfAny {w : Option Writer} {h k : Host} {failure : Failure}
    (hrun : (closeIfAny w).run h = (.error failure, k)) :
    ∃ n f, (∃ es, w = some es ∧ .file n ∈ es) ∧ h.files[n]? = some f ∧ f.closed = false
      ∧ f.isStuck h.disk = true ∧ ∃ g, k.files[n]? = some g ∧ g.closed = true := by
  cases w with
  | none => cases hrun
  | some w =>
    suffices h : ∃ n f, .file n ∈ w ∧ h.files[n]? = some f ∧ f.closed = false
        ∧ f.isStuck h.disk = true ∧ ∃ g, k.files[n]? = some g ∧ g.closed = true by
      obtain ⟨n, f, hmem, hrest⟩ := h
      exact ⟨n, f, ⟨w, rfl, hmem⟩, hrest⟩
    replace hrun : (w.forM (·.close)).run h = (.error failure, k) := hrun
    induction w generalizing h with
    | nil => cases hrun
    | cons e w ih =>
      replace hrun : (e.close >>= fun _ => w.forM (·.close)).run h = (.error failure, k) := hrun
      rw [run_bind] at hrun
      rcases he : e.close.run h with ⟨failure' | a, m⟩ <;> rw [he] at hrun
      · cases hrun
        cases e with
        | memory name => cases he
        | stdout => cases he
        | stderr => cases he
        | file n =>
          rw [run_close_file] at he
          cases hstuck : h.isStuck (some n) <;> rw [hstuck] at he <;> cases he
          obtain ⟨f, hf, hopen, hheld⟩ := Host.isStuck_iff.mp hstuck
          refine ⟨n, f, List.mem_cons_self, hf, hopen, hheld,
            { f with pending := "", closed := true }, ?_, rfl⟩
          rw [Host.closing_of_open hf hopen]
          exact List.getElem?_set_self (List.getElem?_eq_some_iff.mp hf).1
      · obtain ⟨n, f, hmem, hf, hopen, hstuck, hg⟩ := ih hrun
        obtain ⟨hfull, hbefore⟩ := open_before_close e h
        rw [he] at hfull hbefore
        refine ⟨n, f, List.mem_cons_of_mem _ hmem, hbefore n f hf hopen, hopen, ?_, hg⟩
        rw [LogFile.isStuck] at hstuck ⊢
        rwa [← hfull]

/-- **Closing the writer of a set-up closes its file**, and leaves the standard output open. -/
theorem run_closeIfAny_ofFile (file? : Option Nat) (toStdout : Bool) (h : Host) :
    (closeIfAny (ofFile file? toStdout)).run h
      = (if h.isStuck file? then .error .noRoom else .ok (), h.closing file?) := by
  have hstandard (k : Host) :
      ((if toStdout then [Endpoint.stdout] else []).forM (·.close)).run k = (.ok (), k) := by
    cases toStdout <;> rfl
  cases file? with
  | none => cases toStdout <;> rfl
  | some n =>
    show ((Endpoint.file n).close >>= fun _ =>
      (if toStdout then [Endpoint.stdout] else []).forM (·.close)).run h = _
    rw [run_bind, run_close_file]
    cases h.isStuck (some n)
    · exact hstandard _
    · rfl

end Writer

/-! ## The chain -/

/-- **A host on which a set-up has made something** before it installs anything: files may have been
opened and a sink for the log service made. -/
structure Prepared (client : Option Nat) (opened : List LogFile) (h k : Host) : Prop where
  /-- A file that was not there before may be there, and has no text. -/
  disk : k.disk = h.disk ∨ ∃ path, h.disk.read? path = none ∧ k.disk = h.disk.write path ""
  shipped : Shipped client { h with files := h.files ++ opened, disk := k.disk } k

namespace Settings

variable (s : Settings)

/-- The file that a set-up with the settings opens on a host, if it opens one. -/
def opened (h : Host) (closed : Bool) : List LogFile :=
  if s.outputFile = "" then [] else [⟨.ofName h.directory s.outputFile, "", closed⟩]

/-- The number of the file that a set-up with the settings opens, if it opens one. -/
def file? (h : Host) : Option Nat := if s.outputFile = "" then none else some h.files.length

end Settings

namespace Prepared

variable {s : Settings} {client : Option Nat} {opened : List LogFile} {h k : Host}

theorem refl (client : Option Nat) (h : Host) : Prepared client [] h h := by
  refine ⟨.inl rfl, ?_⟩
  rw [List.append_nil]
  exact .refl client h

/-- There is as much room on the disk as before. -/
theorem full (hk : Prepared client opened h k) : k.disk.full = h.disk.full := by
  rcases hk.disk with hdisk | ⟨path, -, hdisk⟩
  · rw [hdisk]
  · rw [hdisk]
    rfl

/-- Notes are made afterwards. -/
theorem noted (hk : Prepared client opened h k) (notes : List Note) :
    Prepared client opened h { k with notes := k.notes ++ notes } :=
  ⟨hk.disk, hk.shipped.noted notes⟩

/-- The outputs are opened first. -/
theorem outputs {w : Option Writer}
    (hw : (Writer.ofOutputs s.outputFile s.toStdout).run h = (.ok w, k)) {m : Host}
    (hm : Shipped client k m) :
    w = Writer.ofFile (s.file? h) s.toStdout ∧ Prepared client (s.opened h false) h m := by
  have hdisk := hm.disk
  rcases Writer.run_ofOutputs s.outputFile s.toStdout h with
    ⟨failure, hopen⟩ | ⟨hname, hopen⟩ | ⟨hname, hopen⟩
  · rw [hopen] at hw
    cases hw
  · rw [hopen] at hw
    cases hw
    simp only [Settings.file?, Settings.opened, if_pos hname]
    refine ⟨trivial, .inl hdisk, ?_⟩
    rw [List.append_nil, hdisk]
    exact hm
  · rw [hopen] at hw
    cases hw
    simp only [Settings.file?, Settings.opened, if_neg hname]
    refine ⟨trivial, ?_, ?_⟩
    · rw [hdisk, Host.opening, Disk.touch]
      dsimp only
      cases hread : h.disk.read? (.ofName h.directory s.outputFile) with
      | none => exact .inr ⟨_, hread, rfl⟩
      | some text => exact .inl rfl
    · rw [hdisk]
      exact hm

/-- **What was opened is closed again.** -/
theorem close (hk : Prepared client (s.opened h false) h k) :
    Prepared client (s.opened h true) h (k.closing (s.file? h)) := by
  simp only [Settings.opened, Settings.file?] at hk ⊢
  by_cases hname : s.outputFile = ""
  · simp only [if_pos hname] at hk ⊢
    exact hk
  · simp only [if_neg hname] at hk ⊢
    generalize FilePath.ofName h.directory s.outputFile = path at hk ⊢
    have hfiles : k.files = h.files ++ [⟨path, "", false⟩] := by rw [hk.shipped.rest]
    have hfile : k.files[h.files.length]? = some ⟨path, "", false⟩ := by
      rw [hfiles, List.getElem?_concat_length]
    have hset : k.files.set h.files.length ⟨path, "", true⟩ = h.files ++ [⟨path, "", true⟩] := by
      rw [hfiles, List.set_append_right _ _ (Nat.le_refl _), Nat.sub_self]
      rfl
    have hclosing : k.closing (some h.files.length)
        = { k with files := h.files ++ [⟨path, "", true⟩] } := by
      rw [← hset]
      simp only [Host.closing, hfile, Endpoint.settle]
      rfl
    rw [hclosing]
    exact ⟨hk.disk, hk.shipped.withFiles _⟩

end Prepared

/-- What a set-up makes of a chain. -/
theorem Settings.run_withMasking (s : Settings) (c : Chain) (h : Host) :
    ∃ d notes, (s.withMasking c).run h = (.ok d, { h with notes := h.notes ++ notes }) := by
  unfold withMasking
  split
  · exact ⟨c, _, rfl⟩
  · exact ⟨_, [], by rw [List.append_nil]; rfl⟩

/-- **Making the sinks for the log service** leaves the writer open, or fails and closes it. -/
theorem Settings.run_shippingSinks (s : Settings) (service : String) (client file? : Option Nat)
    (toStdout : Bool) (h : Host) :
    ∃ k, Shipped client h k
      ∧ ((∃ failure, (s.shippingSinks service client (Writer.ofFile file? toStdout)).run h
          = (.error failure, k.closing file?))
        ∨ ∃ sinks, (s.shippingSinks service client (Writer.ofFile file? toStdout)).run h
          = (.ok sinks, k)) := by
  rw [shippingSinks]
  split
  · exact ⟨h, .refl client h, .inr ⟨[], rfl⟩⟩
  · refine ⟨_, s.shipped service client h, ?_⟩
    rw [run_tryCatch, run_bind]
    rcases (s.shippingSink service client).run h with ⟨failure | sink, k⟩
    · dsimp only
      rw [run_bind, Writer.run_closeIfAny_ofFile]
      -- closing may fail in turn, which is the failure then
      cases k.isStuck file? <;> exact .inl ⟨_, rfl⟩
    · exact .inr ⟨[sink], rfl⟩

/-- **Making a chain** takes an open file at most, for which there is a writer then. Where it fails,
no file is left open. -/
theorem Settings.chain_cases (s : Settings) (service : String) (client : Option Nat) (h : Host) :
    (∃ failure opened k, (s.chain service client).run h = (.error failure, k)
      ∧ (opened = [] ∨ opened = s.opened h true) ∧ Prepared client opened h k)
    ∨ ∃ c k, (s.chain service client).run h = (.ok (c, Writer.ofFile (s.file? h) s.toStdout), k)
      ∧ Prepared client (s.opened h false) h k := by
  rw [chain]
  split
  · exact .inl ⟨_, [], h, rfl, .inl rfl, .refl client h⟩
  · rw [run_bind]
    rcases hw : (Writer.ofOutputs s.outputFile s.toStdout).run h with ⟨failure | w, m⟩
    · rcases Writer.run_ofOutputs s.outputFile s.toStdout h with
        ⟨_, hopen⟩ | ⟨-, hopen⟩ | ⟨-, hopen⟩ <;> rw [hw] at hopen <;> cases hopen
      exact .inl ⟨failure, [], h, rfl, .inl rfl, .refl client h⟩
    · obtain ⟨k, hk, hsinks⟩ := s.run_shippingSinks service client (s.file? h) s.toStdout m
      obtain ⟨rfl, hprepared⟩ := Prepared.outputs hw hk
      dsimp only
      rw [run_bind]
      rcases hsinks with ⟨failure, hsinks⟩ | ⟨sinks, hsinks⟩ <;> rw [hsinks]
      · exact .inl ⟨failure, _, _, rfl, .inr rfl, hprepared.close⟩
      · dsimp only
        rw [run_bind]
        obtain ⟨c, notes, hc⟩ := s.run_withMasking
          (together ((Writer.ofFile (s.file? h) s.toStdout).toList.map s.lineSink ++ sinks)) k
        rw [hc]
        exact .inr ⟨c, _, rfl, hprepared.noted notes⟩

end DiscreetLog
