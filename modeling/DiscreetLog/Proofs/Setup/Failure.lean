import DiscreetLog.Proofs.Setup.Alike
import DiscreetLog.Proofs.Setup.Installation

/-!
# A set-up that fails

A set-up takes what it needs in stages: the settings, a file, a client, a group and a stream of the
log service. Each stage may fail, and none installs anything, so what was installed before stays in
place (`Leftover`). What the stages before the failure have left cannot be made out by whoever goes
on logging: the calls that follow come to the same as they would have without the set-up.

Two things are done too late for that. The host is asked for its name when the file is open already,
and the writer of an earlier set-up is closed when the new one is installed already. Where one of
them fails, the set-up fails without being undone (`setUp_failed`).
-/

namespace DiscreetLog

open DiscreetLog.Action

/-- **What a set-up that fails leaves behind**: the environment may have been loaded, and what comes
before anything is installed may have been made. -/
structure Leftover (settings : Option Settings) (client : Option Nat) (opened : List LogFile)
    (h k : Host) : Prop where
  /-- The file of the settings was opened, if any was, and is closed. -/
  files : opened = [] ∨ opened = (Settings.effective settings h).opened h true
  /-- The environment is read only where no settings are chosen. -/
  environment : k.environment = h.environment
    ∨ settings = none ∧ h.enriched = .ok k.environment
  prepared : Prepared client opened { h with environment := k.environment } k

/-- **A call that is undone**: what was installed is in place, the files that were there are as they
were, and a file that was opened is closed. -/
structure Undone (h k : Host) : Prop where
  defaultLogger : k.defaultLogger = h.defaultLogger
  ownedWriter : k.ownedWriter = h.ownedWriter
  bridges : k.bridges = h.bridges
  rootBridges : k.rootBridges = h.rootBridges
  rootThreshold : k.rootThreshold = h.rootThreshold
  files : ∃ opened, k.files = h.files ++ opened ∧ opened.length ≤ 1
    ∧ ∀ f ∈ opened, f.closed = true

namespace Leftover

variable {settings : Option Settings} {client : Option Nat} {opened : List LogFile} {h k : Host}

/-- A set-up that opens no file leaves none behind. -/
theorem of_prepared (hk : Prepared client opened (h.loaded settings) k)
    (hopened : opened = [] ∨ opened = (Settings.effective settings h).opened h true) :
    Leftover settings client opened h k := by
  have henv : k.environment = (h.loaded settings).environment := by rw [hk.shipped.rest]
  refine ⟨hopened, ?_, ?_⟩
  · rw [henv]
    unfold Host.loaded
    split
    · rename_i henriched
      exact .inr ⟨rfl, henriched⟩
    · exact .inl rfl
  · rw [henv, ← h.loaded_eq]
    exact hk

theorem closed (hk : Leftover settings client opened h k) :
    opened.length ≤ 1 ∧ ∀ f ∈ opened, f.closed = true := by
  rcases hk.files with rfl | rfl
  · exact ⟨Nat.zero_le _, nofun⟩
  · unfold Settings.opened
    split
    · exact ⟨Nat.zero_le _, nofun⟩
    · exact ⟨Nat.le_refl _, fun f hf => by rw [List.mem_singleton.mp hf]⟩

/-- **Nothing is left behind but the environment, files, clients and notes.** -/
theorem rest (hk : Leftover settings client opened h k) :
    k = { h with
      environment := k.environment
      disk := k.disk
      files := h.files ++ opened
      clients := k.clients
      notes := k.notes
      connecting := k.connecting
      connections := k.connections } := hk.prepared.shipped.rest

/-- **What is left behind cannot be made out** by those who do not use the client. -/
theorem alike (hk : Leftover settings client opened h k) :
    Alike opened (client.getD h.clients.length) h.notes k.notes h k where
  standing := by rw [hk.rest]; rfl
  files := by rw [hk.rest]
  clients n hn := by
    obtain ⟨made, -, hclients | ⟨rfl, c, -, hclients⟩⟩ := hk.prepared.shipped.clients
    · rw [hclients]
      exact List.getElem?_modify_ne _ _ (Ne.symm hn)
    · rw [hclients]
      rcases Nat.lt_or_ge n h.clients.length with hlt | hge
      · exact List.getElem?_append_left hlt
      · rw [List.getElem?_eq_none hge]
        refine List.getElem?_eq_none ?_
        have : n ≠ h.clients.length := hn
        simp only [List.length_append, List.length_singleton]
        omega
  texts path := by
    rcases hk.prepared.disk with hdisk | ⟨path', hnone, hdisk⟩
    · rw [hdisk]
    · rw [hdisk, Disk.read?_write]
      split
      · rename_i heq
        rw [heq, hnone]
        rfl
      · rfl
  room := hk.prepared.full
  notes := ⟨[], (List.append_nil _).symm, (List.append_nil _).symm⟩

theorem undone (hk : Leftover settings client opened h k) : Undone h k := by
  have hrest := hk.rest
  exact ⟨by rw [hrest], by rw [hrest], by rw [hrest], by rw [hrest], by rw [hrest], opened,
    by rw [hrest], hk.closed⟩

end Leftover

namespace Logger

variable {service : String} {settings : Option Settings} {bridging : Bool} {client : Option Nat}
  {failure : Failure} {h k : Host}

/-- **A set-up is past undoing**: it is prepared, and the logger is installed next since the host
has a name, or there is an open file that nobody closes. -/
structure PastUndoing (service : String) (settings : Option Settings) (client : Option Nat)
    (h : Host) : Prop where
  prepared : ∃ plan k, (prepare service settings client).run h = (.ok plan, k)
  started : (∃ name, h.hostName = .ok name) ∨ (Settings.effective settings h).outputFile ≠ ""

/-- **A set-up that fails in time leaves no more than that.** -/
theorem exists_leftover
    (hrun : (setUp service settings bridging client).run h = (.error failure, k))
    (htime : ¬PastUndoing service settings client h) :
    ∃ opened, Leftover settings client opened h k := by
  cases ending hrun with
  | @unprepared _ h' _ opened _ hbefore hclosed hmade =>
    rcases hbefore with rfl | rfl
    · have henv : k.environment = h'.environment := by rw [hmade.shipped.rest]
      exact ⟨opened, hclosed, .inl henv, by rwa [henv]⟩
    · exact ⟨opened, .of_prepared hmade hclosed⟩
  | unnamed hprepare _ hmade =>
    refine ⟨_, .of_prepared hmade (.inl ?_)⟩
    rw [Settings.opened, if_pos]
    exact Decidable.of_not_not fun hfile => htime ⟨⟨_, _, hprepare⟩, .inr hfile⟩
  | unclosed hprepare hname => exact absurd ⟨⟨_, _, hprepare⟩, .inl ⟨_, hname⟩⟩ htime

/-- **A set-up that fails too late is not undone.** Its file is left open on a host without a name,
or its logger is installed and a file of an earlier set-up is closed without what it held back. -/
theorem failed_late
    (hrun : (setUp service settings bridging client).run h = (.error failure, k))
    (hlate : PastUndoing service settings client h) :
    h.hostName = .error failure
      ∧ (∃ f, f.closed = false ∧ k.files = h.files ++ [f])
    ∨ failure = .noRoom ∧ (∃ l, k.defaultLogger = some l)
      ∧ ∃ n f g, (∃ w, h.ownedWriter = some w ∧ .file n ∈ w)
        ∧ h.files[n]? = some f ∧ f.closed = false ∧ f.isStuck h.disk = true
        ∧ k.files[n]? = some g ∧ g.closed = true := by
  cases ending hrun with
  | unprepared hprepare =>
    obtain ⟨plan, m, hplan⟩ := hlate.prepared
    rw [hplan] at hprepare
    cases hprepare
  | unnamed hprepare hname hmade =>
    have hfile : (Settings.effective settings h).outputFile ≠ "" := by
      rcases hlate.started with ⟨name, hname'⟩ | hfile
      · rw [hname] at hname'
        cases hname'
      · exact hfile
    have hfiles : k.files = h.files ++ (Settings.effective settings h).opened h false := by
      rw [hmade.shipped.rest, h.loaded_eq]
    rw [Settings.opened, if_neg hfile] at hfiles
    exact .inl ⟨hname, _, rfl, hfiles⟩
  | @unclosed _ _ l _ m _ _ hprepare hname hmade hclose =>
    obtain ⟨hresult, streams, files, disk, hk⟩ := Writer.run_closeIfAny h.ownedWriter
      ((Settings.effective settings h).installing h l bridging m)
    obtain ⟨n, f, hw, hf, hopen, hstuck, g, hg, hclosed⟩ := Writer.stuck_of_closeIfAny hclose
    rw [hclose] at hresult hk
    dsimp only at hk
    have hm : m.files = h.files ++ (Settings.effective settings h).opened h false
        ∧ m.disk.full = h.disk.full := by
      rw [hmade.full, hmade.shipped.rest, h.loaded_eq]
      exact ⟨rfl, rfl⟩
    replace hf : m.files[n]? = some f := hf
    replace hstuck : f.isStuck m.disk = true := hstuck
    rw [LogFile.isStuck, hm.2] at hstuck
    have hlt : n < h.files.length := by
      -- the file that was just opened holds nothing back
      refine Nat.lt_of_not_le fun hle => ?_
      rw [hm.1, List.getElem?_append_right hle] at hf
      have hmem := List.mem_of_getElem? hf
      have hpending : f.pending = "" := by
        unfold Settings.opened at hmem
        split at hmem
        · cases hmem
        · rw [List.mem_singleton.mp hmem]
      rw [hpending] at hstuck
      cases hstuck
    rw [hm.1, List.getElem?_append_left hlt] at hf
    refine .inr ⟨by simpa using hresult, ⟨l, by rw [hk]; rfl⟩, n, f, g, hw, hf, hopen, hstuck, hg,
      hclosed⟩

/-- **A set-up that fails is undone, unless it fails too late.** Let it fail at any stage, on any
host and with any outcomes of the calls on its client. If it fails in time, the logger of the
program, the owned writer, the bridges and the number from which the root logs are what they were,
and so are all files that there were; a file that the set-up has opened is closed. It leaves behind
what `Leftover` says and no more.

Whatever is logged from then on, on loggers that there were and on those derived from them, on
loggers of other libraries and on bridges, comes to the same as without the set-up: the outcomes are
the same, and the hosts are alike in the end. They differ in the files, clients and notes that the
set-up has left behind. Only the client of the set-up has to be one that nobody else sends with.

It fails too late on a host without a name, when it has opened a file, and where there is no room
for what the file of an earlier set-up holds back. -/
theorem setUp_failed
    (hrun : (setUp service settings bridging client).run h = (.error failure, k)) :
    (Undone h k ↔ ¬PastUndoing service settings client h)
    ∧ (PastUndoing service settings client h → h.hostName = .error failure
      ∨ failure = .noRoom ∧ ∃ n f, (∃ w, h.ownedWriter = some w ∧ .file n ∈ w)
        ∧ h.files[n]? = some f ∧ f.closed = false ∧ f.isStuck h.disk = true)
    ∧ (¬PastUndoing service settings client h → ∃ opened, k.files = h.files ++ opened
      ∧ Leftover settings client opened h k
      ∧ ∀ calls : List LogCall,
        let used := client.getD h.clients.length
        (∀ b ∈ h.bridges, b.target.All (Sink.Spares used)) →
        (∀ call ∈ calls, call.On (Sink.Spares used)) →
        (LogCall.runAll .own calls k).1 = (LogCall.runAll .own calls h).1
          ∧ Alike opened used h.notes k.notes (LogCall.runAll .own calls h).2
            (LogCall.runAll .own calls k).2) := by
  refine ⟨⟨fun hundone hlate => ?_, fun htime => ?_⟩, fun hlate => ?_, fun htime => ?_⟩
  · obtain ⟨opened, hfiles, -, hclosed⟩ := hundone.files
    rcases failed_late hrun hlate with
      ⟨-, f, hopen, hfiles'⟩ | ⟨-, -, n, f, g, -, hf, hopen, -, hg, hg'⟩
    · have hf : f ∈ opened := by
        rw [List.append_cancel_left (hfiles.symm.trans hfiles')]
        exact List.mem_singleton_self f
      rw [hclosed f hf] at hopen
      cases hopen
    · rw [hfiles, List.getElem?_append_left (List.getElem?_eq_some_iff.mp hf).1, hf] at hg
      cases hg
      rw [hopen] at hg'
      cases hg'
  · obtain ⟨opened, hk⟩ := exists_leftover hrun htime
    exact hk.undone
  · rcases failed_late hrun hlate with ⟨hname, -⟩ | ⟨hfailure, -, n, f, -, hw, hf, hopen, hstuck, -⟩
    · exact .inl hname
    · exact .inr ⟨hfailure, n, f, hw, hf, hopen, hstuck⟩
  · obtain ⟨opened, hk⟩ := exists_leftover hrun htime
    refine ⟨opened, by rw [hk.rest], hk, ?_⟩
    intro calls used hbridges hcalls
    obtain ⟨houtcomes, halike, -⟩ := LogCall.together_runAll (A := Sink.Spares used) likeness_alike
      (fun e s hs => Sinks.fair_alike hk.closed.2 e hs) (fun _ as hs => hs.bind as)
      (fun _ name hs => hs.openGroup name) hcalls ⟨hk.alike, hbridges⟩
    exact ⟨houtcomes, halike⟩

/-- A service logs to a file, and takes records from other libraries. A set-up opens a second file,
and fails since the group may not be created. The second file is closed again, and a log call and a
record of another library come to the same as without the set-up: both reach the first file. -/
theorem setUp_failed_refused :
    let l : Logger := ⟨.sink (.flat (.root .info false) [.file 0])⟩
    let h : Host :=
      { Host.fresh [] ⟨⟨2024, 5, 1⟩, 10, 0, 0, 0, some 0⟩ [] "/" "host" with
        files := [⟨["app.log"], "", false⟩]
        disk := Disk.empty.write ["app.log"] ""
        clients := [⟨[.refused ⟨some "AccessDenied", none⟩], [], [], []⟩]
        bridges := [⟨l.chain, 0, false⟩]
        rootBridges := [0]
        defaultLogger := some l
        ownedWriter := some [.file 0] }
    let settings : Settings := ⟨"json", none, "new.log", false, [], "group", "", "us-east-1"⟩
    let k := ((setUp "app" (some settings) true (some 0)).run h).2
    let site : Site Value := ⟨.text "app.py", .int 3, .text "login"⟩
    let calls : List LogCall :=
      [.log l [] .info "hello" [] [] site, .record "lib" (.plain .warning) "slow" [] [] site]
    (∃ failure, (setUp "app" (some settings) true (some 0)).run h = (.error failure, k))
      ∧ k.ownedWriter = some [.file 0] ∧ k.files.map LogFile.closed = [false, true]
      ∧ (LogCall.runAll .own calls k).1 = (LogCall.runAll .own calls h).1
      ∧ (LogCall.runAll .own calls k).2.disk.files = [(["new.log"], ""), (["app.log"],
        "time=2024-05-01T10:00:00+00:00 level=INFO message=hello\n"
          ++ "time=2024-05-01T10:00:00+00:00 level=WARN message=slow logger=lib\n")] := by
  intro l h settings k site calls
  obtain ⟨failure, hrun⟩ :
      ∃ failure, (setUp "app" (some settings) true (some 0)).run h = (.error failure, k) := by
    have hfails : ((setUp "app" (some settings) true (some 0)).run h).1.isOk = false := by
      decide +kernel
    rcases hr : (setUp "app" (some settings) true (some 0)).run h with ⟨failure | l, k'⟩
    · exact ⟨failure, congrArg (Prod.mk _) (congrArg Prod.snd hr).symm⟩
    · rw [hr] at hfails
      cases hfails
  have hspares (s : Sink) (hs : s = .flat (.root .info false) [.file 0]) : s.Spares 0 := by
    subst hs
    nofun
  have hchain : l.chain.All (Sink.Spares 0) := fun leaf hleaf =>
    hspares _ (congrArg Leaf.sink (List.mem_singleton.mp hleaf))
  have htime : ¬PastUndoing "app" (some settings) (some 0) h := by
    rintro ⟨⟨plan, m, hplan⟩, -⟩
    have hfails : ((prepare "app" (some settings) (some 0)).run h).1.isOk = false := by
      decide +kernel
    rw [hplan] at hfails
    cases hfails
  obtain ⟨hundone, -, hleft⟩ := setUp_failed hrun
  obtain ⟨opened, -, -, hcalls⟩ := hleft htime
  obtain ⟨houtcomes, -⟩ := hcalls calls (fun b hb => by
    rw [List.mem_singleton.mp hb]
    exact hchain) (fun call hcall => by
    rcases List.mem_pair.mp hcall with rfl | rfl
    · exact hchain
    · trivial)
  exact ⟨⟨failure, hrun⟩, (hundone.mpr htime).ownedWriter, by decide +kernel, houtcomes,
    by decide +kernel⟩

/-- A service logs to a device that takes no text, so its first line is held back. Another set-up
asks for the standard output. It fails since what is held back cannot be written in the end, and its
logger is the logger of the program nevertheless. -/
theorem setUp_failed_installed :
    let start : Host :=
      { Host.fresh [] ⟨⟨2024, 5, 1⟩, 10, 0, 0, 0, some 0⟩ [] "/" "host" with
        disk := ⟨[[], ["dev"]], [(["dev", "full"], "")], fun path => path = ["dev", "full"]⟩ }
    let settings (format file : String) (toStdout : Bool) : Settings :=
      ⟨format, none, file, toStdout, [], "", "", "us-east-1"⟩
    let site : Site Value := ⟨.text "app.py", .int 3, .text "login"⟩
    let first : Action Unit := do
      let l ← setUp "app" (some (settings "text" "/dev/full" false)) false none
      l.log .info "hello" [] [] site
    let h := (first.run start).2
    let run := (setUp "app" (some (settings "json" "" true)) false none).run h
    let shown (k : Host) := k.defaultLogger.map Logger.display
    run.1.isOk = false ∧ ¬Undone h run.2
      ∧ shown h = some "<Logger handler=<TextHandler>>"
      ∧ shown run.2 = some "<Logger handler=<JSONHandler>>"
      ∧ h.ownedWriter = some [.file 0] ∧ run.2.ownedWriter = some [.stdout]
      ∧ h.files.map LogFile.closed = [false] ∧ run.2.files.map LogFile.closed = [true] := by
  intro start settings site first h run shown
  have hrun : run.1.isOk = false
      ∧ shown h = some "<Logger handler=<TextHandler>>"
      ∧ shown run.2 = some "<Logger handler=<JSONHandler>>"
      ∧ h.ownedWriter = some [.file 0] ∧ run.2.ownedWriter = some [.stdout]
      ∧ h.files.map LogFile.closed = [false] ∧ run.2.files.map LogFile.closed = [true] := by
    decide +kernel
  refine ⟨hrun.1, fun hundone => ?_, hrun.2⟩
  obtain ⟨-, -, -, howned, howned', -⟩ := hrun
  have hsame := hundone.ownedWriter
  rw [howned, howned'] at hsame
  cases hsame

end Logger

end DiscreetLog
