import DiscreetLog.Proofs.Setup.Failure

/-!
# Set-ups one after the other

A program may set its logging up several times, with and without success, and take it down again.
After each of these calls everything in place belongs to one installation: that of the last set-up
that succeeded, unless logging has been taken down since (`Stage.Sound`). Its file is open and no
other that a set-up has opened, its bridge is at the root and no other, its logger is the logger of
the program. Only the number from which the root logs outlasts a taking down.

An installation is what a set-up that succeeds leaves in place (`fixtures_setUp`); one that fails in
time leaves in place what was there (`exists_leftover`). A set-up that fails too late leaves things
in place that belong to no installation (`after_iff`).
-/

namespace DiscreetLog

open DiscreetLog.Action

/-! ## What is in place -/

/-- The path of a file, and whether it is closed. -/
def LogFile.state (f : LogFile) : FilePath × Bool := (f.path, f.closed)

/-- **What is in place for the whole program.** -/
structure Fixtures where
  files : List (FilePath × Bool)
  /-- The chains that the bridges at the root lead to. -/
  root : List (Option Chain)
  rootThreshold : Int
  defaultLogger : Option Logger
  ownedWriter : Option Writer
  stdoutClosed : Bool
  stderrClosed : Bool

/-- What is in place on a host. -/
def Host.fixtures (h : Host) : Fixtures where
  files := h.files.map LogFile.state
  root := h.rootBridges.map fun n => h.bridges[n]?.map Bridge.target
  rootThreshold := h.rootThreshold
  defaultLogger := h.defaultLogger
  ownedWriter := h.ownedWriter
  stdoutClosed := h.stdoutClosed
  stderrClosed := h.stderrClosed

/-- Files of which one is closed, if there is one. -/
def Fixtures.close (file? : Option Nat) (files : List (FilePath × Bool)) : List (FilePath × Bool) :=
  match file? with
  | none => files
  | some n => files.modify n fun f => (f.1, true)

/-- Closing a file that is closed, or that is not there, changes nothing. -/
theorem Fixtures.close_of_closed {files : List (FilePath × Bool)} {n : Nat}
    (hn : ∀ f, files[n]? = some f → f.2 = true) : close (some n) files = files := by
  refine List.ext_getElem? fun m => ?_
  show (files.modify n _)[m]? = files[m]?
  rw [List.getElem?_modify]
  by_cases hm : n = m
  · subst hm
    cases hf : files[n]? with
    | none => rfl
    | some f =>
      have hstate : (f.1, true) = f := Prod.ext rfl (hn f hf).symm
      simp [hstate]
  · simp [hm]

/-- **Closing a file** changes nothing else that is in place. -/
theorem Host.fixtures_closing (file? : Option Nat) (h : Host) :
    (h.closing file?).fixtures
      = { h.fixtures with files := Fixtures.close file? h.fixtures.files } := by
  cases file? with
  | none => rfl
  | some n =>
    have hstate : h.fixtures.files[n]? = h.files[n]?.map LogFile.state := List.getElem?_map
    rw [Host.closing]
    cases hf : h.files[n]? with
    | none =>
      rw [Fixtures.close_of_closed (by simp [hstate, hf])]
    | some f =>
      dsimp only
      split
      · rename_i hclosed
        rw [Fixtures.close_of_closed (by simpa [hstate, hf, LogFile.state] using hclosed)]
      · obtain ⟨hn, rfl⟩ := List.getElem?_eq_some_iff.mp hf
        have hset : (h.files.set n { h.files[n] with pending := "", closed := true }).map
              LogFile.state = Fixtures.close (some n) h.fixtures.files := by
          have hn' : n < (h.files.map LogFile.state).length := by rwa [List.length_map]
          show _ = (h.files.map LogFile.state).modify n _
          rw [List.map_set, List.modify_eq_set_get _ hn', List.get_eq_getElem, List.getElem_map]
          rfl
        exact congrArg (fun files => { h.fixtures with files }) hset

/-- **What comes before anything is installed** adds files to what is in place. -/
theorem Prepared.fixtures {client : Option Nat} {opened : List LogFile} {h k : Host}
    (hk : Prepared client opened h k) :
    k.fixtures = { h.fixtures with files := h.fixtures.files ++ opened.map LogFile.state } := by
  rw [hk.shipped.rest]
  simp only [Host.fixtures, List.map_append]

/-- Installing a logger leaves the files as they are. -/
theorem Host.fixtures_installing (l : Logger) (w : Option Writer) (bridging : Bool)
    (threshold : Int) (h : Host) :
    (h.installing l w bridging threshold).fixtures =
      { h.fixtures with
        root := if bridging then [some l.chain] else []
        rootThreshold := if bridging then threshold else h.rootThreshold
        defaultLogger := some l
        ownedWriter := w } := by
  cases bridging with
  | false => rfl
  | true => simp [Host.fixtures, Host.installing]

/-! ## Installations -/

/-- **What a set-up that succeeds has installed.** -/
structure Installation where
  logger : Logger
  bridged : Bool
  /-- The file that was opened, if one was: its number and its path. -/
  file : Option (Nat × FilePath)

/-- The file that a set-up with the settings opens on a host, if it opens one. -/
def Settings.file (s : Settings) (h : Host) : Option (Nat × FilePath) :=
  (s.file? h).map fun n => (n, .ofName h.directory s.outputFile)

/-- The file that a set-up opens is the next one of the host. -/
theorem Settings.fst_of_file {s : Settings} {h : Host} {f : Nat × FilePath}
    (hf : s.file h = some f) : f.1 = h.fixtures.files.length := by
  obtain ⟨n, hn, rfl⟩ := Option.map_eq_some_iff.mp hf
  have hn : h.files.length = n := Option.some.inj (Option.ite_none_left_eq_some.mp hn).2
  rw [Host.fixtures, List.length_map, hn]

/-- **A set-up that succeeds** puts its file, its bridge, its logger and its writer in place, and
closes the file of the writer that was there. -/
theorem Logger.fixtures_setUp {service : String} {settings : Option Settings} {bridging : Bool}
    {client : Option Nat} {l : Logger} {h k : Host} {file? : Option Nat} {toStdout : Bool}
    (howned : h.ownedWriter = Writer.ofFile file? toStdout)
    (hrun : (setUp service settings bridging client).run h = (.ok l, k)) :
    let s := Settings.effective settings h
    k.fixtures =
      { h.fixtures with
        files := Fixtures.close file?
          (h.fixtures.files ++ (s.file h).toList.map fun f => (f.2, false))
        root := if bridging then [some l.chain] else []
        rootThreshold := if bridging then s.threshold.number else h.rootThreshold
        defaultLogger := some l
        ownedWriter := Writer.ofFile (s.file? h) s.toStdout } := by
  intro s
  cases ending hrun with
  | @installed _ m _ notes hm hclose =>
    rw [howned, Writer.run_closeIfAny_ofFile] at hclose
    cases hstuck : Host.isStuck file? ((Settings.effective settings h).installing h l bridging m)
      <;> rw [hstuck] at hclose <;> cases hclose
    have hloaded : (h.loaded settings).fixtures = h.fixtures := by rw [h.loaded_eq]; rfl
    have hopened : (s.opened h false).map LogFile.state
        = (s.file h).toList.map fun f => (f.2, false) := by
      simp only [Settings.opened, Settings.file, Settings.file?]
      split <;> rfl
    have hm := hm.fixtures
    rw [hloaded, hopened] at hm
    have hthreshold : m.rootThreshold = h.rootThreshold := congrArg Fixtures.rootThreshold hm
    show ((m.installing _ _ _ _).closing file?).fixtures = _
    rw [Host.fixtures_closing, Host.fixtures_installing, hm, hthreshold]

/-- **Taking down** leaves nothing in place but the number from which the root logs. -/
theorem Logger.fixtures_takeDown {h : Host} {file? : Option Nat} {toStdout : Bool}
    (howned : h.ownedWriter = Writer.ofFile file? toStdout) :
    (takeDown.run h).2.fixtures =
      { h.fixtures with
        files := Fixtures.close file? h.fixtures.files
        root := []
        defaultLogger := none
        ownedWriter := none } := by
  have hrun : takeDown.run h = (Writer.closeIfAny h.ownedWriter).run
      { h with rootBridges := [], defaultLogger := none, ownedWriter := none } := rfl
  rw [hrun, howned, Writer.run_closeIfAny_ofFile]
  exact Host.fixtures_closing _ _

/-! ## Files that are open -/

/-- **Of the files opened since a start** one is open, or none; the earlier ones are left. -/
structure OneOpen (start files : List (FilePath × Bool)) (file : Option (Nat × FilePath)) :
    Prop where
  earlier : start <+: files
  open_iff : ∀ n path, start.length ≤ n ∧ files[n]? = some (path, false) ↔ file = some (n, path)

namespace OneOpen

variable {start files : List (FilePath × Bool)} {file : Option (Nat × FilePath)}

/-- Nothing has been opened yet. -/
theorem refl (start : List (FilePath × Bool)) : OneOpen start start none where
  earlier := List.prefix_rfl
  open_iff n path := by
    refine iff_of_false ?_ nofun
    rintro ⟨hn, hfile⟩
    rw [List.getElem?_eq_none hn] at hfile
    cases hfile

/-- Files that are closed already. -/
theorem append_closed (hf : OneOpen start files file) {opened : List (FilePath × Bool)}
    (hopened : ∀ f ∈ opened, f.2 = true) : OneOpen start (files ++ opened) file where
  earlier := hf.earlier.trans (List.prefix_append _ _)
  open_iff n path := by
    rw [← hf.open_iff]
    refine and_congr_right fun _ => ?_
    rcases Nat.lt_or_ge n files.length with hn | hn
    · rw [List.getElem?_append_left hn]
    · rw [List.getElem?_append_right hn, List.getElem?_eq_none hn]
      refine iff_of_false (fun h => ?_) nofun
      exact Bool.noConfusion (hopened _ (List.mem_of_getElem? h))

/-- **The open file is closed.** -/
theorem close (hf : OneOpen start files file) :
    OneOpen start (Fixtures.close (file.map Prod.fst) files) none := by
  cases file with
  | none => exact hf
  | some f =>
    obtain ⟨m, path⟩ := f
    obtain ⟨hm, hopen⟩ := (hf.open_iff m path).mpr rfl
    refine ⟨?_, fun n path' => iff_of_false ?_ nofun⟩
    · rw [List.prefix_iff_eq_take]
      show start = (files.modify m _).take start.length
      rw [List.take_modify, ← List.prefix_iff_eq_take.mp hf.earlier, List.modify_eq_self hm]
    · rintro ⟨hn, hfile⟩
      obtain ⟨f, hf', hstate⟩ :=
        Option.map_eq_some_iff.mp ((List.getElem?_modify ..).symm.trans hfile)
      split at hstate
      · cases hstate
      · -- any other file was closed before
        rename_i hne
        have hsame : f = (path', false) := hstate
        cases (hf.open_iff n path').mp ⟨hn, hsame ▸ hf'⟩
        exact hne rfl

/-- Closing the open file leaves files alone that come after it. -/
theorem close_append (hf : OneOpen start files file) (opened : List (FilePath × Bool)) :
    Fixtures.close (file.map Prod.fst) (files ++ opened)
      = Fixtures.close (file.map Prod.fst) files ++ opened := by
  cases file with
  | none => rfl
  | some f =>
    obtain ⟨m, path⟩ := f
    obtain ⟨-, hopen⟩ := (hf.open_iff m path).mpr rfl
    have hm : m < files.length := (List.getElem?_eq_some_iff.mp hopen).1
    refine List.ext_getElem? fun n => ?_
    show ((files ++ opened).modify m _)[n]? = (files.modify m _ ++ opened)[n]?
    rw [List.getElem?_modify]
    rcases Nat.lt_or_ge n files.length with hn | hn
    · rw [List.getElem?_append_left hn, List.getElem?_append_left (by rwa [List.length_modify]),
        List.getElem?_modify]
    · have hne : m ≠ n := by omega
      simp only [hne, if_false]
      rw [List.getElem?_append_right hn, List.getElem?_append_right (by rwa [List.length_modify]),
        List.length_modify]
      exact Option.map_id'

/-- **A file is opened**, none being open. -/
theorem append_open (hf : OneOpen start files none) (path : FilePath) :
    OneOpen start (files ++ [(path, false)]) (some (files.length, path)) where
  earlier := hf.earlier.trans (List.prefix_append _ _)
  open_iff n path' := by
    have hstart : start.length ≤ files.length := hf.earlier.length_le
    rcases Nat.lt_trichotomy n files.length with hn | rfl | hn
    · rw [List.getElem?_append_left hn, hf.open_iff]
      refine iff_of_false nofun fun h => ?_
      cases h
      exact Nat.lt_irrefl _ hn
    · rw [List.getElem?_concat_length]
      constructor
      · rintro ⟨-, h⟩
        cases h
        rfl
      · intro h
        cases h
        exact ⟨hstart, rfl⟩
    · rw [List.getElem?_eq_none (by rw [List.length_append]; exact hn)]
      refine iff_of_false nofun fun h => ?_
      cases h
      exact Nat.lt_irrefl _ hn

/-- **The open file is closed and another is opened**, or none. -/
theorem replace (hf : OneOpen start files file) {new : Option (Nat × FilePath)}
    (hnew : ∀ f, new = some f → f.1 = files.length) :
    OneOpen start (Fixtures.close (file.map Prod.fst)
      (files ++ new.toList.map fun f => (f.2, false))) new := by
  rw [hf.close_append]
  have hlength : (Fixtures.close (file.map Prod.fst) files).length = files.length := by
    cases file with
    | none => rfl
    | some f => exact List.length_modify ..
  cases new with
  | none => exact hf.close.append_closed nofun
  | some f =>
    obtain ⟨n, path⟩ := f
    have hopened := hf.close.append_open path
    rwa [hlength, ← hnew _ rfl] at hopened

end OneOpen

/-! ## The life of a program -/

/-- **What happens in the life of a program.** -/
inductive LifeCall where
  | setUp (service : String) (settings : Option Settings) (bridging : Bool) (client : Option Nat)
  | takeDown
  /-- Anything else, as long as it leaves in place what is there. -/
  | meanwhile (change : Host → Host) (kept : ∀ h, (change h).fixtures = h.fixtures)

/-- What is in place is part of what logging leaves as it is. -/
theorem Host.fixtures_of_frame {h k : Host} (hk : k.frame = h.frame) : k.fixtures = h.fixtures := by
  have hframe (m : Host) : m.frame.fixtures = m.fixtures := by
    simp only [fixtures, frame, unmarked, still, List.map_map, List.getElem?_map, Option.map_map]
    rfl
  rw [← hframe k, hk, hframe h]

/-- **Something is logged** meanwhile. -/
def LifeCall.use (calls : List LogCall) : LifeCall :=
  .meanwhile (fun h => (LogCall.runAll .own calls h).2)
    fun h => Host.fixtures_of_frame (LogCall.frame_runAll calls h)

/-- **How far a program is**: its host, and what has been installed there. -/
structure Stage where
  host : Host
  /-- The installation of the last set-up that succeeded, unless logging was taken down since. -/
  current : Option Installation
  /-- The number of the level of the last set-up that succeeded with a bridge. -/
  threshold : Int

namespace Stage

/-- Nothing has been installed yet. -/
def start (h : Host) : Stage := ⟨h, none, h.rootThreshold⟩

/-- **A call is made.** -/
def after (s : Stage) : LifeCall → Stage
  | .setUp service settings bridging client =>
    match (Logger.setUp service settings bridging client).run s.host with
    | (.ok l, h) =>
      let chosen := Settings.effective settings s.host
      { host := h
        current := some ⟨l, bridging, chosen.file s.host⟩
        threshold := if bridging then chosen.threshold.number else s.threshold }
    | (.error _, h) => { s with host := h }
  | .takeDown => { s with host := (Logger.takeDown.run s.host).2, current := none }
  | .meanwhile change _ => { s with host := change s.host }

end Stage

/-- **A call ends in time**: a set-up succeeds, or it fails while it can still be undone. -/
def LifeCall.InTime (s : Stage) : LifeCall → Prop
  | .setUp service settings bridging client =>
    (∃ l, ((Logger.setUp service settings bridging client).run s.host).1 = .ok l)
      ∨ ¬Logger.PastUndoing service settings client s.host
  | .takeDown | .meanwhile .. => True

/-- **All of some calls end in time**, made one after the other. -/
def LifeCall.AllInTime : Stage → List LifeCall → Prop
  | _, [] => True
  | s, call :: calls => call.InTime s ∧ AllInTime (s.after call) calls

/-- **What is in place belongs to an installation**, if there is one. -/
structure Fixtures.Sound (start : Fixtures) (current : Option Installation) (threshold : Int)
    (x : Fixtures) : Prop where
  /-- Of the files opened since the start, that of the installation is open and no other. -/
  files : OneOpen start.files x.files (current.bind Installation.file)
  /-- There is a bridge at the root if the installation has one, and it leads to its logger. -/
  root : x.root = current.elim [] fun i => if i.bridged then [some i.logger.chain] else []
  /-- The logger of the program is that of the installation. -/
  defaultLogger : x.defaultLogger = current.map Installation.logger
  rootThreshold : x.rootThreshold = threshold
  /-- The owned writer writes to the file of the installation. -/
  ownedWriter : ∃ toStdout,
    x.ownedWriter = Writer.ofFile ((current.bind Installation.file).map Prod.fst) toStdout
  /-- The standard streams are as they were at the start. -/
  stdoutClosed : x.stdoutClosed = start.stdoutClosed
  stderrClosed : x.stderrClosed = start.stderrClosed

namespace Stage

/-- What is in place on the host of a stage belongs to the installation of the stage. -/
def Sound (start : Fixtures) (s : Stage) : Prop :=
  start.Sound s.current s.threshold s.host.fixtures

namespace Sound

variable {start : Fixtures} {s : Stage}

/-- **Each call that ends in time keeps what is in place sound.** -/
theorem after (hs : s.Sound start) {call : LifeCall} (htime : call.InTime s) :
    (s.after call).Sound start := by
  obtain ⟨toStdout, howned⟩ := hs.ownedWriter
  cases call with
  | setUp service settings bridging client =>
    simp only [Stage.after]
    rcases hrun : (Logger.setUp service settings bridging client).run s.host with ⟨failure | l, k⟩
    · have hundone : ¬Logger.PastUndoing service settings client s.host := by
        rcases htime with ⟨l, hl⟩ | hundone
        · rw [hrun] at hl
          cases hl
        · exact hundone
      obtain ⟨opened, hk⟩ := Logger.exists_leftover hrun hundone
      have hclosed : ∀ f ∈ opened.map LogFile.state, f.2 = true :=
        List.forall_mem_map.mpr hk.closed.2
      have hfixtures : k.fixtures = { s.host.fixtures with
          files := s.host.fixtures.files ++ opened.map LogFile.state } := hk.prepared.fixtures
      show start.Sound s.current s.threshold k.fixtures
      rw [hfixtures]
      exact { hs with files := hs.files.append_closed hclosed }
    · show start.Sound _ _ k.fixtures
      rw [Logger.fixtures_setUp howned hrun]
      refine { hs with
        files := hs.files.replace fun _ => Settings.fst_of_file
        root := rfl
        defaultLogger := rfl
        rootThreshold := ?_
        ownedWriter := ⟨(Settings.effective settings s.host).toStdout, ?_⟩ }
      · have hthreshold : s.host.rootThreshold = s.threshold := hs.rootThreshold
        dsimp only
        rw [hthreshold]
      · dsimp only [Option.bind_some, Settings.file]
        rw [Option.map_map]
        exact congrArg (Writer.ofFile · _) Option.map_id'.symm
  | takeDown =>
    show start.Sound none s.threshold (Logger.takeDown.run s.host).2.fixtures
    rw [Logger.fixtures_takeDown howned]
    exact { hs with
      files := hs.files.close
      root := rfl
      defaultLogger := rfl
      ownedWriter := ⟨false, rfl⟩ }
  | meanwhile change kept =>
    show start.Sound s.current s.threshold (change s.host).fixtures
    rw [kept]
    exact hs

/-- **A call that does not end in time** leaves something in place that belongs to no installation:
the file that it has opened, or the closed file of the installation that it was to replace. -/
theorem not_after (hs : s.Sound start) {call : LifeCall} (hlate : ¬call.InTime s) :
    ¬(s.after call).Sound start := by
  obtain ⟨toStdout, howned⟩ := hs.ownedWriter
  cases call with
  | setUp service settings bridging client =>
    obtain ⟨hfails, hpast⟩ := not_or.mp hlate
    simp only [Stage.after]
    rcases hrun : (Logger.setUp service settings bridging client).run s.host with ⟨failure | l, k⟩
    · intro hs'
      replace hs' : start.Sound s.current s.threshold k.fixtures := hs'
      have hstate {h : Host} {n : Nat} {f : LogFile} (hf : h.files[n]? = some f) :
          h.fixtures.files[n]? = some f.state := List.getElem?_map.trans (congrArg _ hf)
      rcases Logger.failed_late hrun (not_not.mp hpast) with
        ⟨-, f, hopen, hfiles⟩ | ⟨-, -, n, f, g, ⟨w, hw, hn⟩, hf, -, -, hg, hclosed⟩
      · -- the file that was opened is open, and was not there before
        have hlength : s.host.fixtures.files.length = s.host.files.length := List.length_map ..
        have hf : k.fixtures.files[s.host.files.length]? = some (f.path, false) := by
          rw [hstate (h := k) (f := f) (by rw [hfiles, List.getElem?_concat_length]), LogFile.state,
            hopen]
        have hcurrent := (hs'.files.open_iff _ _).mp ⟨hlength ▸ hs.files.earlier.length_le, hf⟩
        obtain ⟨-, hbefore⟩ := (hs.files.open_iff _ _).mpr hcurrent
        rw [← hlength, List.getElem?_eq_none (Nat.le_refl _)] at hbefore
        cases hbefore
      · -- the file of the installation is closed
        replace hw := howned.symm.trans hw
        obtain ⟨⟨_, path⟩, hcurrent, rfl⟩ := Option.map_eq_some_iff.mp (Writer.eq_of_ofFile hw hn)
        obtain ⟨-, hafter⟩ := (hs'.files.open_iff _ path).mpr hcurrent
        rw [hstate hg] at hafter
        have hstill : g.closed = false := congrArg Prod.snd (Option.some.inj hafter)
        rw [hclosed] at hstill
        cases hstill
    · exact absurd ⟨l, by rw [hrun]⟩ hfails
  | takeDown => exact absurd trivial hlate
  | meanwhile change kept => exact absurd trivial hlate

/-- **What is in place is sound after the calls that end in time**, and only after those. -/
theorem after_iff (hs : s.Sound start) (call : LifeCall) :
    (s.after call).Sound start ↔ call.InTime s :=
  ⟨fun hs' => not_not.mp fun hlate => hs.not_after hlate hs', hs.after⟩

/-- **What is in place stays sound in a course of calls** as long as they all end in time. -/
theorem forall_prefix_iff (hs : s.Sound start) (calls : List LifeCall) :
    (∀ made, made <+: calls → (made.foldl Stage.after s).Sound start)
      ↔ LifeCall.AllInTime s calls := by
  induction calls generalizing s with
  | nil => exact iff_of_true (fun made hmade => List.prefix_nil.mp hmade ▸ hs) trivial
  | cons call calls ih =>
    constructor
    · intro hsound
      have hafter : (s.after call).Sound start := hsound [call] (List.prefix_append [call] calls)
      exact ⟨(hs.after_iff call).mp hafter, (ih hafter).mp fun made hmade =>
        hsound (call :: made) (List.prefix_cons_inj call |>.mpr hmade)⟩
    · rintro ⟨htime, hrest⟩ made hmade
      rcases List.prefix_cons_iff.mp hmade with rfl | ⟨made, rfl, hbefore⟩
      · exact hs
      · exact (ih (hs.after htime)).mpr hrest made hbefore

/-- **In the course of a program everything in place belongs to one installation**, as long as every
call ends in time. Set-ups may succeed and fail, at any stage and with any outcomes, logging may be
taken down, and other things may happen meanwhile. Whenever a call has ended, the installation is
that of the last set-up that succeeded since logging was last taken down, or there is none. Of the
files that set-ups have opened its file is open and no other. A bridge is at the root if it was
asked for, one bridge, and it leads to the chain of the logger that was returned. That is the logger
of the program, and there is none without an installation. The root logs from the number of the
level that the last set-up with a bridge has chosen, however long ago, or from the one at the start.
The standard streams are not closed.

Once a call does not end in time this is over. Such a call is a set-up that fails on a host without
a name, or since there is no room for what the file of an earlier one holds back. -/
theorem of_calls (calls : List LifeCall) {h : Host} (howned : h.ownedWriter = none)
    (hroot : h.rootBridges = []) (hdefault : h.defaultLogger = none) :
    ((∀ made, made <+: calls → (made.foldl Stage.after (Stage.start h)).Sound h.fixtures)
      ↔ LifeCall.AllInTime (Stage.start h) calls)
    ∧ ∀ (call : LifeCall) (s : Stage), ¬call.InTime s →
      (∃ failure, s.host.hostName = .error failure)
      ∨ ∃ n f, (∃ w, s.host.ownedWriter = some w ∧ .file n ∈ w) ∧ s.host.files[n]? = some f
        ∧ f.closed = false ∧ f.isStuck s.host.disk = true := by
  have hstart : (Stage.start h).Sound h.fixtures := {
    files := .refl _
    root := by
      show h.rootBridges.map _ = []
      rw [hroot]
      rfl
    defaultLogger := hdefault
    rootThreshold := rfl
    ownedWriter := ⟨false, howned⟩
    stdoutClosed := rfl
    stderrClosed := rfl }
  refine ⟨hstart.forall_prefix_iff calls, fun call s hlate => ?_⟩
  · cases call with
    | setUp service settings bridging client =>
      obtain ⟨hfails, hpast⟩ := not_or.mp hlate
      rcases hrun : (Logger.setUp service settings bridging client).run s.host with ⟨failure | l, k⟩
      · rcases Logger.failed_late hrun (not_not.mp hpast) with
          ⟨hname, -⟩ | ⟨-, -, n, f, g, hw, hf, hopen, hstuck, -⟩
        · exact .inl ⟨failure, hname⟩
        · exact .inr ⟨n, f, hw, hf, hopen, hstuck⟩
      · exact absurd ⟨l, by rw [hrun]⟩ hfails
    | takeDown => exact absurd trivial hlate
    | meanwhile change kept => exact absurd trivial hlate

/-- A set-up with a file and a bridge, a record of another library, a set-up with another file that
fails since the group may not be created, and a set-up with a third file. The third file is open,
there is no bridge any more, and the root logs from where the first set-up has put it. -/
theorem of_calls_thrice :
    let h : Host :=
      { Host.fresh [] ⟨⟨2024, 5, 1⟩, 10, 0, 0, 0, some 0⟩ [] "/" "host" with
        clients := [⟨[.refused ⟨some "AccessDenied", none⟩], [], [], []⟩] }
    let settings (file group : String) : Settings :=
      ⟨"json", none, file, false, [], group, "", "us-east-1"⟩
    let site : Site Value := ⟨.text "app.py", .int 3, .text "login"⟩
    let calls : List LifeCall :=
      [.setUp "app" (some (settings "a.log" "")) true none,
        .use [.record "lib" (.plain .info) "slow" [] [] site],
        .setUp "app" (some (settings "b.log" "group")) true (some 0),
        .setUp "app" (some (settings "c.log" "")) false none]
    let s := calls.foldl Stage.after (Stage.start h)
    h.ownedWriter = none ∧ h.rootBridges = [] ∧ h.defaultLogger.isNone = true
      ∧ s.Sound h.fixtures
      ∧ s.current.bind Installation.file = some (2, ["c.log"])
      ∧ s.host.files.map LogFile.state
        = [(["a.log"], true), (["b.log"], true), (["c.log"], false)]
      ∧ s.host.rootBridges = [] ∧ s.threshold = 20 := by
  intro h settings site calls s
  have hsucceeds {x : Except Failure Logger} (hx : x.isOk = true) : ∃ l, x = .ok l := by
    cases x with
    | error failure => cases hx
    | ok l => exact ⟨l, rfl⟩
  have htime : LifeCall.AllInTime (Stage.start h) calls := by
    refine ⟨.inl (hsucceeds (by decide +kernel)), trivial, .inr ?_,
      .inl (hsucceeds (by decide +kernel)), trivial⟩
    rintro ⟨⟨plan, m, hplan⟩, -⟩
    let second := [calls[0], calls[1]].foldl Stage.after (Stage.start h)
    have hfails : ((Logger.prepare "app" (some (settings "b.log" "group")) (some 0)).run
        second.host).1.isOk = false := by decide +kernel
    rw [show (Logger.prepare "app" (some (settings "b.log" "group")) (some 0)).run second.host = _
      from hplan] at hfails
    cases hfails
  exact ⟨rfl, rfl, rfl, (of_calls calls rfl rfl rfl).1.mpr htime calls List.prefix_rfl,
    by decide +kernel⟩

/-- A service logs to a device that takes no text, and asks for the standard output then. The second
set-up fails, and its logger is the logger of the program, which belongs to no installation. -/
theorem not_of_calls :
    let h : Host :=
      { Host.fresh [] ⟨⟨2024, 5, 1⟩, 10, 0, 0, 0, some 0⟩ [] "/" "host" with
        disk := ⟨[[], ["dev"]], [(["dev", "full"], "")], fun path => path = ["dev", "full"]⟩ }
    let settings (format file : String) (toStdout : Bool) : Settings :=
      ⟨format, none, file, toStdout, [], "", "", "us-east-1"⟩
    let site : Site Value := ⟨.text "app.py", .int 3, .text "login"⟩
    let first := (Stage.start h).after
      (.setUp "app" (some (settings "text" "/dev/full" false)) false none)
    let logging : List LogCall := match first.current with
      | some i => [.log i.logger [] .info "hello" [] [] site]
      | none => []
    let s := (first.after (.use logging)).after
      (.setUp "app" (some (settings "json" "" true)) false none)
    s.host.defaultLogger.map Logger.display = some "<Logger handler=<JSONHandler>>"
      ∧ (s.current.map Installation.logger).map Logger.display
        = some "<Logger handler=<TextHandler>>"
      ∧ ¬s.Sound h.fixtures := by
  intro h settings site first logging s
  obtain ⟨hdefault, hcurrent⟩ : s.host.defaultLogger.map Logger.display
        = some "<Logger handler=<JSONHandler>>"
      ∧ (s.current.map Installation.logger).map Logger.display
        = some "<Logger handler=<TextHandler>>" := by decide +kernel
  clear_value s
  refine ⟨hdefault, hcurrent, fun hs => ?_⟩
  have hsame : s.host.defaultLogger = s.current.map Installation.logger := hs.defaultLogger
  rw [hsame, hcurrent] at hdefault
  exact absurd (Option.some.inj hdefault) (by decide)

end Sound

end Stage

end DiscreetLog
