import DiscreetLog.Proofs.Chain.Line
import DiscreetLog.Proofs.Host.Endpoints
import DiscreetLog.Proofs.Json.Reading

/-!
# What a stream says

A sink that writes structured lines, and the sinks that are derived from it, handle one event after
the other over a stream that is open. The stream then has one line more for every event whose
payload could be rendered, in the order of the events, and none for the others: an event that fails
leaves the host as it was. The lines are read back as the trees of the payloads, so nothing else
that the sinks can write over the stream is written alike.
-/

namespace DiscreetLog

open DiscreetLog.Action

namespace Sink

/-- **The tree of an event**, on a sink that has been derived from one with the scope. -/
def treeOf (σ : Objects) (scope : Scope) (r : List Derivation × Event) : Except Failure Json :=
  (Payload.ofEvent (scope.derive r.1) r.2).render σ

variable {e : Endpoint} {h : Host}

/-- **A line is written where it can be made**, or the host is left as it was. -/
theorem run_writing (ho : e.IsOpen h) (make : Objects → Except Failure String) :
    match make h.objects with
    | .ok line => ∃ h', (whileWriting do
        Writer.writeLine [e] (← Action.ofExcept (make (← get).objects))).run h = (.ok (), h')
          ∧ e.Grown (line ++ "\n") h h'
    | .error failure => (whileWriting do
        Writer.writeLine [e] (← Action.ofExcept (make (← get).objects))).run h
          = (.error failure, h) := by
  rw [run_whileWriting, run_bind, run_get]
  dsimp only
  rw [run_bind, run_ofExcept]
  cases make h.objects with
  | ok line =>
    have ho' : e.IsOpen { h with writing := h.writing + 1 } := by cases e <;> exact ho
    obtain ⟨h', hrun, hgrown⟩ := Endpoint.run_writeLine ho' line
    dsimp only
    rw [hrun]
    exact ⟨_, rfl, hgrown.writing⟩
  | error failure => rfl

/-- **One event is handled**: its line is written, or the host is left as it was. -/
theorem run_deliver_structured (scope : Scope) (ho : e.IsOpen h)
    (talk : String → Foreign → Action Unit) (event : Event) :
    match (Payload.ofEvent scope event).render h.objects with
    | .ok j => ∃ h', (deliver talk event (.structured scope [e])).run h = (.ok (), h')
        ∧ e.Grown (j.toText .spaced ++ "\n") h h'
    | .error failure =>
      (deliver talk event (.structured scope [e])).run h = (.error failure, h) := by
  have hrun := run_writing ho fun σ => (Payload.ofEvent scope event).structuredLine σ
  unfold deliver
  unfold Payload.structuredLine at hrun ⊢
  cases hj : (Payload.ofEvent scope event).render h.objects with
  | ok j =>
    rw [hj] at hrun
    exact hrun
  | error failure =>
    rw [hj] at hrun
    exact hrun

/-- **Events are handled one after the other**, each on a sink of its own that is derived from the
one. -/
def handleEach (s : Sink) (records : List (List Derivation × Event)) :
    Host → List (Except Failure Unit) × Host :=
  runEach (records.map fun r => (Chain.sink (s.derive r.1)).accept r.2)

/-- The trees of the events whose payloads can be rendered. -/
def treesOf (σ : Objects) (scope : Scope) (records : List (List Derivation × Event)) : List Json :=
  records.filterMap fun r => (treeOf σ scope r).toOption

/-- **A stream grows by the lines of the events that can be rendered**, and an event fails exactly
where it cannot be. -/
theorem handleEach_structured (scope : Scope) (ho : e.IsOpen h)
    (records : List (List Derivation × Event)) :
    (handleEach (.structured scope [e]) records h).1
        = records.map (fun r => (treeOf h.objects scope r).map fun _ => ())
      ∧ e.Grown (String.ofList (Json.lines (treesOf h.objects scope records))) h
        (handleEach (.structured scope [e]) records h).2 := by
  induction records generalizing h with
  | nil => exact ⟨rfl, .refl ho⟩
  | cons r records ih =>
    have hderive : (Sink.structured scope [e]).derive r.1 = .structured (scope.derive r.1) [e] :=
      derive_of_scope? rfl r.1
    have hrun : (Chain.sink ((Sink.structured scope [e]).derive r.1)).accept r.2
        = deliver (Bridge.talkVia Bridge.emit) r.2 (.structured (scope.derive r.1) [e]) := by
      rw [hderive]
      rfl
    have hfirst := run_deliver_structured (scope.derive r.1) ho
      (Bridge.talkVia Bridge.emit) r.2
    rw [← hrun] at hfirst
    rw [handleEach, List.map_cons, runEach, List.map_cons, treesOf, List.filterMap_cons]
    cases ht : treeOf h.objects scope r with
    | ok j =>
      rw [show (Payload.ofEvent (scope.derive r.1) r.2).render h.objects = .ok j from ht] at hfirst
      obtain ⟨h', hh', hgrown⟩ := hfirst
      obtain ⟨hresults, hrest⟩ := ih hgrown.isOpen
      rw [hgrown.objects] at hresults hrest
      have hline : j.toText .spaced ++ "\n"
            ++ String.ofList (Json.lines (treesOf h.objects scope records))
          = String.ofList (Json.lines (j :: treesOf h.objects scope records)) := by
        rw [Json.lines_cons, ← List.singleton_append, String.ofList_append, String.ofList_append,
          ← String.append_assoc]
        rfl
      rw [hh']
      exact ⟨congrArg _ hresults, hline ▸ hgrown.trans hrest⟩
    | error failure =>
      rw [show (Payload.ofEvent (scope.derive r.1) r.2).render h.objects = .error failure from ht]
        at hfirst
      obtain ⟨hresults, hrest⟩ := ih ho
      rw [hfirst]
      exact ⟨congrArg _ hresults, hrest⟩

/-- **What a stream says can be read back.** Events are handled one after the other, by a sink over
an open stream and by the sinks that are derived from it. An event fails exactly where its payload
cannot be rendered. The stream grows by the lines of the others, in order, and by nothing else; no
line has an end but at its end; and what is written is read as the trees of these payloads, so no
other trees are ever written alike. -/
theorem stream_says (scope : Scope) (ho : e.IsOpen h) (records : List (List Derivation × Event)) :
    let run := handleEach (.structured scope [e]) records h
    let trees := treesOf h.objects scope records
    run.1 = records.map (fun r => (treeOf h.objects scope r).map fun _ => ())
      ∧ e.text run.2 = e.text h ++ String.ofList (Json.lines trees)
      ∧ (∀ j ∈ trees, '\n' ∉ j.write .spaced)
      ∧ Json.ofLines? (Json.lines trees) = some trees
      ∧ ∀ others, String.ofList (Json.lines others) = String.ofList (Json.lines trees) →
        others = trees := by
  intro run trees
  obtain ⟨hresults, hgrown⟩ := handleEach_structured scope ho records
  refine ⟨hresults, hgrown.text, fun j _ => Json.newline_not_mem_write (by decide) (by decide) j,
    Json.ofLines?_lines trees, fun others hothers => ?_⟩
  have hsaid := congrArg Json.ofLines? (String.ofList_injective hothers)
  rw [Json.ofLines?_lines, Json.ofLines?_lines] at hsaid
  exact Option.some.inj hsaid

/-- Three events are handled over a stream that has a line already. The first has an object that
has no text, and fails; the second, in a group, has a text of two lines and a number that is none;
the third has a list. -/
theorem stream_says_three :
    let h : Host := { Host.fresh [] ⟨⟨2024, 5, 1⟩, 10, 0, 0, 0, some 0⟩ [] "/" "host" with
      streams := [("out", ⟨"first\n", false⟩)] }
    let e : Endpoint := .memory "out"
    let event (attrs : List Attr) : Event := ⟨h.now, .info, "m", none, attrs⟩
    let records : List (List Derivation × Event) :=
      [([], event [⟨"x", .atom none (.foreign none .nothing)⟩]),
        ([.openGroup "g"], event [⟨"a", .text "one\ntwo"⟩, ⟨"n", .atom none (.float .nan)⟩]),
        ([.bind [⟨"k", .atom none (.bool true)⟩]],
          event [⟨"l", .node none (.list none [.int 7, .atom none .null])⟩])]
    let run := handleEach (.structured (.root .info false) [e]) records h
    let trees := treesOf h.objects (.root .info false) records
    e.IsOpen h
      ∧ run.1.map Except.isOk = [false, true, true]
      ∧ e.text run.2 = "first\n"
        ++ "\x7b\"time\": \"2024-05-01T10:00:00+00:00\", \"level\": \"INFO\", \"message\": \"m\", "
        ++ "\"g\": \x7b\"a\": \"one\\ntwo\", \"n\": NaN\x7d\x7d\n"
        ++ "\x7b\"time\": \"2024-05-01T10:00:00+00:00\", \"level\": \"INFO\", \"message\": \"m\", "
        ++ "\"k\": true, \"l\": [7, null]\x7d\n"
      ∧ (run.1 = records.map (fun r => (treeOf h.objects (.root .info false) r).map fun _ => ())
        ∧ e.text run.2 = e.text h ++ String.ofList (Json.lines trees)
        ∧ (∀ j ∈ trees, '\n' ∉ j.write .spaced)
        ∧ Json.ofLines? (Json.lines trees) = some trees
        ∧ ∀ others, String.ofList (Json.lines others) = String.ofList (Json.lines trees) →
          others = trees) := by
  intro h e event records run trees
  have ho : e.IsOpen h := rfl
  exact ⟨ho, rfl, by decide +kernel, stream_says _ ho records⟩

end Sink

end DiscreetLog
