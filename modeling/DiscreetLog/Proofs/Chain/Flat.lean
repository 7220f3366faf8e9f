import DiscreetLog.Proofs.Chain.Stream
import DiscreetLog.Proofs.Line.Pairs
import DiscreetLog.Proofs.Payload.Survival

/-!
# What a flat line says

A sink that writes flat lines writes the leaves of the payload of an event, each under the names on
the way to it. The values are quoted where they need it, the names are not. So it is the names
alone that decide what becomes of a line: it is one line exactly if no name has an end of line, and
is read back as its pairs exactly if no name has an equals sign or another character that the
reader does not take in keys. What a value says does not matter.
-/

namespace DiscreetLog

open Payload (placed)

namespace Line

/-- A leaf with the display of its value. -/
def shown (σ : Objects) (l : String × Value) : Except Failure (String × String) := do
  return (l.1, ← display σ l.2)

/-- What is in a dotted key is a point or in one of its names. -/
theorem mem_intercalate {names : List String} {c : Char} (hc : c ≠ '.') :
    c ∈ (".".intercalate names).toList ↔ ∃ name ∈ names, c ∈ name.toList := by
  induction names with
  | nil => exact iff_of_false (by simp) nofun
  | cons name names ih =>
    cases names with
    | nil => simp
    | cons next names =>
      rw [String.intercalate_cons_cons, String.toList_append, String.toList_append, List.mem_append,
        List.mem_append, ih, List.exists_mem_cons_iff (a := name)]
      simp [hc]

/-- A reader that takes points in keys takes a dotted key if it takes the names. -/
theorem isKey_intercalate {inKey : Char → Bool} (hdot : inKey '.' = true) {names : List String} :
    IsKey inKey (".".intercalate names) ↔ ∀ name ∈ names, IsKey inKey name := by
  constructor
  · intro h name hname c hc
    by_cases hd : c = '.'
    · subst hd
      exact ⟨by decide, hdot⟩
    · exact h c ((mem_intercalate hd).mpr ⟨name, hname, hc⟩)
  · intro h c hc
    by_cases hd : c = '.'
    · subst hd
      exact ⟨by decide, hdot⟩
    · obtain ⟨name, hname, hc⟩ := (mem_intercalate hd).mp hc
      exact h name hname c hc

end Line

namespace Payload

variable {σ : Objects} {p : Payload}

/-- **The pairs that a flat line shows**: the dotted keys with the displays of the values. -/
def shown (σ : Objects) (p : Payload) : Except Failure (List (String × String)) :=
  p.leaves.mapM (Line.shown σ)

/-- **A flat line is the line of its pairs.** -/
theorem flatLine_eq (σ : Objects) (p : Payload) :
    p.flatLine σ = (p.shown σ).map Line.ofPairs := by
  have hpair : Line.pair σ = fun l => (Line.shown σ l).map Line.pairText := by
    funext l
    rw [Line.pair, Line.value, Line.shown]
    cases Line.display σ l.2 <;> rfl
  rw [flatLine, hpair, Results.mapM_map, shown]
  cases p.leaves.mapM (Line.shown σ) <;> rfl

/-- The keys of the pairs are the ways to the leaves. -/
theorem keys_of_shown {pairs : List (String × String)} (h : p.shown σ = .ok pairs) :
    pairs.map (·.1) = (placed p).map fun w => ".".intercalate w.1 := by
  have hall : List.Forall₂ (fun l q => q.1 = l.1) p.leaves pairs :=
    (Results.mapM_eq_ok.mp h).imp fun l q hq => by
      obtain ⟨said, -, rfl⟩ := Results.map_eq_ok.mp hq
      rfl
  have hkeys : pairs.map (·.1) = p.leaves.map (·.1) := by
    clear h
    generalize p.leaves = ls at hall
    induction hall with
    | nil => rfl
    | cons hfirst _ ih => rw [List.map_cons, List.map_cons, ih, hfirst]
  rw [hkeys, leaves_eq, List.map_map]
  rfl

end Payload

namespace Sink

variable {scope : Scope} {e : Endpoint} {h h' : Host} {talk : String → Foreign → Action Unit}
  {event : Event}

/-- **One event is handled**: its line is written, or the host is left as it was. -/
theorem run_deliver_flat (scope : Scope) (ho : e.IsOpen h)
    (talk : String → Foreign → Action Unit) (event : Event) :
    match (Payload.ofEvent scope event).shown h.objects with
    | .ok pairs => ∃ h', (deliver talk event (.flat scope [e])).run h = (.ok (), h')
        ∧ e.Grown (Line.ofPairs pairs ++ "\n") h h'
    | .error failure => (deliver talk event (.flat scope [e])).run h = (.error failure, h) := by
  have hrun := run_writing ho fun σ => (Payload.ofEvent scope event).flatLine σ
  unfold deliver
  rw [Payload.flatLine_eq] at hrun
  cases hp : (Payload.ofEvent scope event).shown h.objects with
  | ok pairs =>
    rw [hp] at hrun
    exact hrun
  | error failure =>
    rw [hp] at hrun
    exact hrun

/-- **A flat line says its pairs where its names let it.** Where a sink that writes flat lines to
an open stream has handled an event, it has written the line of the leaves of the payload: their
dotted keys with the displays of their values. That is one line exactly if no attribute key and no
group name on the way to a leaf has an end of line; and a reader that takes some characters in
keys, points among them, reads the pairs back exactly if every such name has these characters only,
and no equals sign. -/
theorem pairs_of_deliver_flat (ho : e.IsOpen h)
    (hr : (deliver talk event (.flat scope [e])).run h = (.ok (), h')) :
    ∃ pairs, (Payload.ofEvent scope event).shown h.objects = .ok pairs
      ∧ pairs.map (·.1) = (Payload.ofEvent scope event).leaves.map (·.1)
      ∧ e.text h' = e.text h ++ (Line.ofPairs pairs ++ "\n")
      ∧ ('\n' ∈ (Line.ofPairs pairs).toList
        ↔ ∃ w ∈ placed (Payload.ofEvent scope event), ∃ name ∈ w.1, '\n' ∈ name.toList)
      ∧ ∀ inKey : Char → Bool, inKey '.' = true →
        (Line.pairsOf? inKey (Line.ofPairs pairs) = some pairs
          ↔ ∀ w ∈ placed (Payload.ofEvent scope event), ∀ name ∈ w.1, Line.IsKey inKey name) := by
  have hrun := run_deliver_flat scope ho talk event
  rw [hr] at hrun
  cases hp : (Payload.ofEvent scope event).shown h.objects with
  | error failure =>
    rw [hp] at hrun
    cases hrun
  | ok pairs =>
    rw [hp] at hrun
    obtain ⟨_, he, hgrown⟩ := hrun
    cases he
    have hkeys := Payload.keys_of_shown hp
    refine ⟨pairs, rfl, ?_, hgrown.text, ?_, fun inKey hdot => ?_⟩
    · rw [hkeys, Payload.leaves_eq, List.map_map]
      rfl
    · have hsome : (∃ p ∈ pairs, '\n' ∈ p.1.toList)
          ↔ ∃ key ∈ pairs.map (·.1), '\n' ∈ key.toList := by simp
      rw [Line.newline_mem_ofPairs, hsome, hkeys]
      simp only [List.mem_map, exists_exists_and_eq_and,
        Line.mem_intercalate (c := '\n') (by decide)]
    · have hall : (∀ p ∈ pairs, Line.IsKey inKey p.1)
          ↔ ∀ key ∈ pairs.map (·.1), Line.IsKey inKey key := List.forall_mem_map.symm
      rw [Line.pairsOf?_eq_some_iff, hall, hkeys, List.forall_mem_map]
      simp only [Line.isKey_intercalate hdot]

/-- A group with an empty value, a quoted one of two lines and a plain one is written over a stream
that has a line already, and read back. -/
theorem pairs_of_deliver_flat_group :
    let h : Host := { Host.fresh [] ⟨⟨2024, 5, 1⟩, 10, 0, 0, 0, some 0⟩ [] "/" "host" with
      streams := [("out", ⟨"first\n", false⟩)] }
    let e : Endpoint := .memory "out"
    let scope : Scope := ⟨.info, false, ["g"], []⟩
    let event : Event := ⟨h.now, .info, "m", none,
      [⟨"a", .text ""⟩, ⟨"b", .text "x=1 \"y\"\nz"⟩, ⟨"c", .int 7⟩]⟩
    let run := (deliver (fun _ _ => pure ()) event (.flat scope [e])).run h
    e.IsOpen h ∧ run.1 = .ok ()
      ∧ e.text run.2 = "first\n" ++ "time=2024-05-01T10:00:00+00:00 level=INFO message=m "
        ++ "g.a=\"\" g.b=\"x=1 \\\"y\\\"\\nz\" g.c=7\n"
      ∧ ∃ pairs, (Payload.ofEvent scope event).shown h.objects = .ok pairs
        ∧ pairs.map (·.1) = (Payload.ofEvent scope event).leaves.map (·.1)
        ∧ e.text run.2 = e.text h ++ (Line.ofPairs pairs ++ "\n")
        ∧ ('\n' ∈ (Line.ofPairs pairs).toList
          ↔ ∃ w ∈ placed (Payload.ofEvent scope event), ∃ name ∈ w.1, '\n' ∈ name.toList)
        ∧ ∀ inKey : Char → Bool, inKey '.' = true →
          (Line.pairsOf? inKey (Line.ofPairs pairs) = some pairs
            ↔ ∀ w ∈ placed (Payload.ofEvent scope event), ∀ name ∈ w.1, Line.IsKey inKey name) := by
  intro h e scope event run
  have ho : e.IsOpen h := rfl
  have hok : run.1 = .ok () := rfl
  exact ⟨ho, hok, by decide +kernel, pairs_of_deliver_flat ho (Prod.ext hok rfl)⟩

/-- **A name can add a line, and a pair.** An attribute with an end of line in its key is written
on two lines. Where a key has an equals sign the reader finds a pair more, and none of the key. -/
theorem name_adds_line_and_pair :
    let h : Host := .fresh [] ⟨⟨2024, 5, 1⟩, 10, 0, 0, 0, some 0⟩ [] "/" "host"
    let written (key : String) : Except Failure Unit × Host :=
      (deliver (fun _ _ => pure ()) ⟨h.now, .info, "hello", none, [⟨key, .int 1⟩]⟩
        (.flat (.root .info false) [.stdout])).run h
    let line : String := "time=2024-05-01T10:00:00+00:00 level=INFO message=hello "
    (written "a\nb").1 = .ok () ∧ (written "a\nb").2.stdout = line ++ "a\nb=1\n"
      ∧ (written "a=b c").1 = .ok () ∧ (written "a=b c").2.stdout = line ++ "a=b c=1\n"
      ∧ Line.pairsOf? (fun _ => true) (line ++ "a=b c=1")
        = some [("time", "2024-05-01T10:00:00+00:00"), ("level", "INFO"), ("message", "hello"),
          ("a", "b"), ("c", "1")] := by
  intro h written line
  exact ⟨rfl, by decide +kernel, rfl, by decide +kernel, by decide +kernel⟩

end Sink

end DiscreetLog
