import DiscreetLog.Output
import DiscreetLog.Proofs.Host.Actions

/-!
# What is written to an endpoint

An endpoint that is open takes every line and has it at its end from then on, behind what was there
before: a stream as what has been written to it since it was last read, a file as what lies on the
disk and what has not reached it yet. `Grown` says that and no more, so that what a run of lines
leaves is read off by going along the run.
-/

namespace DiscreetLog

open DiscreetLog.Action

/-! ## The disk -/

namespace Disk

/-- **The text of a file that was written** is what was written last. -/
theorem read?_write (d : Disk) (path : FilePath) (text : String) (way : FilePath) :
    (d.write path text).read? way = if way = path then some text else d.read? way := by
  show (d.files.filter (·.1 ≠ path) ++ [(path, text)]).lookup way = _
  rw [List.lookup_append]
  split
  · rename_i hw
    subst hw
    have hnone : (d.files.filter (·.1 ≠ way)).lookup way = none :=
      List.lookup_eq_none_iff.mpr fun f hf =>
        bne_iff_ne.mpr (Ne.symm (of_decide_eq_true (List.mem_filter.mp hf).2))
    rw [hnone, Option.none_or, List.lookup_cons_self]
  · rename_i hw
    have hfilter (files : List (FilePath × String)) :
        (files.filter (·.1 ≠ path)).lookup way = files.lookup way := by
      induction files with
      | nil => rfl
      | cons f files ih =>
        obtain ⟨other, held⟩ := f
        by_cases hf : other = path
        · subst hf
          rw [List.filter_cons_of_neg (by simp), ih, List.lookup_cons, beq_false_of_ne hw]
        · rw [List.filter_cons_of_pos (by simpa using hf), List.lookup_cons, List.lookup_cons, ih]
    rw [hfilter, List.lookup_cons, beq_false_of_ne hw]
    exact Option.or_none

/-- What a file says after a text was appended to one. -/
theorem getD_read?_append (d : Disk) (path : FilePath) (text : String) (way : FilePath) :
    ((d.append path text).read? way).getD ""
      = if way = path then (d.read? way).getD "" ++ text else (d.read? way).getD "" := by
  rw [append, read?_write]
  split
  · rename_i h
    rw [h]
    rfl
  · rfl

end Disk

/-! ## Endpoints -/

namespace Endpoint

/-- **The text at an endpoint.** -/
def text (h : Host) : Endpoint → String
  | .memory name => (streamOf h name).fresh
  | .stdout => h.stdout
  | .stderr => h.stderr
  | .file n => match h.files[n]? with
    | some f => (h.disk.read? f.path).getD "" ++ f.pending
    | none => ""

/-- **An endpoint is open.** There is room for what is written to it. -/
def IsOpen (h : Host) : Endpoint → Prop
  | .memory name => (streamOf h name).closed = false
  | .stdout => h.stdoutClosed = false
  | .stderr => h.stderrClosed = false
  | .file n => ∃ path pending, h.files[n]? = some ⟨path, pending, false⟩ ∧ h.disk.full path = false

/-- **An endpoint has grown**: it is open, and has a text more at its end. -/
structure Grown (e : Endpoint) (added : String) (h h' : Host) : Prop where
  isOpen : e.IsOpen h'
  text : e.text h' = e.text h ++ added
  objects : h'.objects = h.objects

variable {e : Endpoint} {h h' h'' : Host}

theorem Grown.refl (ho : e.IsOpen h) : e.Grown "" h h := ⟨ho, String.append_empty.symm, rfl⟩

theorem Grown.trans {s t : String} (hs : e.Grown s h h') (ht : e.Grown t h' h'') :
    e.Grown (s ++ t) h h'' :=
  ⟨ht.isOpen, by rw [ht.text, hs.text, String.append_assoc], ht.objects.trans hs.objects⟩

/-- How many sinks are writing does not matter to an endpoint. -/
theorem Grown.writing {s : String} {m n : Nat}
    (hs : e.Grown s { h with writing := m } h') : e.Grown s h { h' with writing := n } := by
  obtain ⟨ho, ht, hobjects⟩ := hs
  cases e <;> exact ⟨ho, ht, hobjects⟩

/-- **An endpoint that is open takes a text.** -/
theorem run_write (ho : e.IsOpen h) (added : String) :
    ∃ h', (e.write added).run h = (.ok (), h') ∧ e.Grown added h h' := by
  cases e with
  | memory name =>
    let grown : MemoryStream := { streamOf h name with fresh := (streamOf h name).fresh ++ added }
    have hgrown :
        streamOf { h with streams := Ordered.assign name grown h.streams } name = grown := by
      rw [streamOf, Ordered.lookup_assign_self]
      rfl
    refine ⟨{ h with streams := Ordered.assign name grown h.streams }, ?_, ?_, ?_, rfl⟩
    · rw [write, run_bind, run_get]
      dsimp only
      rw [if_neg (Bool.eq_false_iff.mp ho), run_update]
    · exact (congrArg MemoryStream.closed hgrown).trans ho
    · exact congrArg MemoryStream.fresh hgrown
  | stdout =>
    refine ⟨{ h with stdout := h.stdout ++ added }, ?_, ho, rfl, rfl⟩
    rw [write, run_bind, run_get]
    dsimp only
    rw [if_neg (Bool.eq_false_iff.mp ho)]
    rfl
  | stderr =>
    refine ⟨{ h with stderr := h.stderr ++ added }, ?_, ho, rfl, rfl⟩
    rw [write, run_bind, run_get]
    dsimp only
    rw [if_neg (Bool.eq_false_iff.mp ho)]
    rfl
  | file n =>
    obtain ⟨path, pending, hf, hroom⟩ := ho
    have hlt : n < h.files.length := (List.getElem?_eq_some_iff.mp hf).1
    refine ⟨{ h with files := h.files.set n ⟨path, pending ++ added, false⟩ }, ?_, ?_, ?_, rfl⟩
    · rw [write, run_bind, run_get]
      dsimp only
      rw [hf]
      rfl
    · exact ⟨path, pending ++ added, List.getElem?_set_self hlt, hroom⟩
    · simp only [text, hf, List.getElem?_set_self hlt, String.append_assoc]

/-- There is as much room on the disk as before. -/
theorem settle_full (n : Nat) (f : LogFile) (closed : Bool) (h : Host) :
    (settle n f closed h).disk.full = h.disk.full := by
  unfold settle
  dsimp only
  split <;> rfl

/-- **An endpoint that is open is flushed**, and has what it had. -/
theorem run_flush (ho : e.IsOpen h) :
    ∃ h', e.flush.run h = (.ok (), h') ∧ e.Grown "" h h' := by
  cases e with
  | memory name => exact ⟨h, rfl, .refl ho⟩
  | stdout =>
    refine ⟨h, ?_, .refl ho⟩
    rw [flush, run_bind, run_get]
    dsimp only
    rw [if_neg (Bool.eq_false_iff.mp ho)]
    rfl
  | stderr =>
    refine ⟨h, ?_, .refl ho⟩
    rw [flush, run_bind, run_get]
    dsimp only
    rw [if_neg (Bool.eq_false_iff.mp ho)]
    rfl
  | file n =>
    obtain ⟨path, pending, hf, hroom⟩ := id ho
    have hlt : n < h.files.length := (List.getElem?_eq_some_iff.mp hf).1
    have hset : (h.files.set n ⟨path, "", false⟩)[n]? = some ⟨path, "", false⟩ :=
      List.getElem?_set_self hlt
    refine ⟨settle n ⟨path, pending, false⟩ false h, ?_, ⟨path, "", hset, ?_⟩, ?_, rfl⟩
    · rw [flush, run_bind, run_get]
      dsimp only
      rw [hf]
      dsimp only
      rw [if_neg Bool.false_ne_true, run_bind, run_get]
      dsimp only
      rw [LogFile.isStuck, hroom, Bool.and_false, if_neg Bool.false_ne_true]
      rfl
    · rw [settle_full, hroom]
    · -- what the file held back is on the disk now
      have hdisk : ((settle n ⟨path, pending, false⟩ false h).disk.read? path).getD ""
          = (h.disk.read? path).getD "" ++ pending := by
        unfold settle
        dsimp only
        rw [hroom, Bool.or_false]
        split
        · rename_i hp
          rw [String.isEmpty_iff.mp hp, String.append_empty]
        · rw [Disk.getD_read?_append, if_pos rfl]
      have hfiles : (settle n ⟨path, pending, false⟩ false h).files[n]? = some ⟨path, "", false⟩ :=
        hset
      simp only [text, hf, hfiles, hdisk, String.append_empty]

/-- **A line is written to an endpoint that is open.** -/
theorem run_writeLine (ho : e.IsOpen h) (line : String) :
    ∃ h', (Writer.writeLine [e] line).run h = (.ok (), h') ∧ e.Grown (line ++ "\n") h h' := by
  obtain ⟨k, hk, hwritten⟩ := run_write ho (line ++ "\n")
  obtain ⟨h', hh', hflushed⟩ := run_flush hwritten.isOpen
  refine ⟨h', ?_, ?_⟩
  · have hone (f : Endpoint → Action Unit) (h : Host) {h' : Host}
        (hf : (f e).run h = (.ok (), h')) : ([e].forM f).run h = (.ok (), h') := by
      show (f e >>= fun _ => pure ()).run h = _
      rw [run_bind, hf]
      rfl
    rw [Writer.writeLine, run_bind, Writer.write, hone _ _ hk]
    exact hone _ _ hh'
  · have := hwritten.trans hflushed
    rwa [String.append_empty] at this

end Endpoint

end DiscreetLog
