import DiscreetLog.Proofs.Chain.Line
import DiscreetLog.Proofs.Json.Grammar
import DiscreetLog.Proofs.Number.Rounding

/-!
# Which lines are JSON

A sink that handles an event puts down the text of the tree of its payload. That text is an object
as the grammar of JSON has it if and only if all doubles in the tree are finite. A double in a tree
is always one that an atom in the payload is rendered to: the number itself, or the seconds of a
duration. The seconds are finite for every duration there is, so it is the numbers that a caller
logs that decide.
-/

namespace DiscreetLog

/-! ## Where the doubles of a tree come from -/

/-- **An atom is in a value**, at any depth. -/
inductive Objects.Holds (σ : Objects) : Value → Atom → Prop where
  | atom (label : Option Label) (a : Atom) : Holds σ (.atom label a) a
  | inside {v w : Value} {label : Option Label} {shape : Shape Value} {a : Atom}
      (hc : σ.container? v = some (label, shape)) (hw : w ∈ shape.held) (ha : Holds σ w a) :
      Holds σ v a

/-- **An atom is in an item of a payload.** -/
inductive Payload.Holds (σ : Objects) : Item → Atom → Prop where
  | leaf {v : Value} {a : Atom} (h : σ.Holds v a) : Holds σ (.leaf v) a
  | group {items : Payload} {name : String} {item : Item} {a : Atom} (hm : (name, item) ∈ items)
      (h : Holds σ item a) : Holds σ (.group items) a

namespace Value

variable {σ : Objects} {left : Nat} {around : List Label} {v : Value} {t : Json}

/-- **What a value is rendered as**: as what it is without content, as a container, or as a mark
that stands for it. -/
theorem renderFrom_cases (h : v.renderFrom σ left around = .ok t) :
    (∃ label a, v = .atom label a ∧ a.render = .ok t)
      ∨ (∃ label shape left' around', σ.container? v = some (label, shape)
        ∧ shape.render (Value.display σ) (renderFrom σ left' around') = .ok t)
      ∨ t = .null ∨ t = .text cycleMark := by
  cases hc : σ.container? v with
  | none =>
    cases v with
    | atom label a =>
      rw [renderFrom_atom] at h
      exact .inl ⟨label, a, rfl, h⟩
    | node => cases hc
    | shared l =>
      rw [renderFrom_shared_of_none (Option.map_eq_none_iff.mp hc)] at h
      exact .inr (.inr (.inl (Except.ok.inj h).symm))
  | some found =>
    obtain ⟨label, shape⟩ := found
    have hmark (h : (.ok (.text cycleMark) : Except Failure Json) = .ok t) : t = .text cycleMark :=
      (Except.ok.inj h).symm
    cases hl : label.any around.contains with
    | true =>
      rw [renderFrom_of_again hc hl] at h
      exact .inr (.inr (.inr (hmark h)))
    | false =>
      cases left with
      | zero =>
        unfold renderFrom at h
        cases v with
        | atom => cases hc
        | _ =>
          simp only [hc, hl, Bool.false_eq_true, if_false] at h
          exact .inr (.inr (.inr (hmark h)))
      | succ left =>
        rw [renderFrom_of_open hc hl] at h
        exact .inr (.inl ⟨label, shape, left, _, rfl, h⟩)

/-- Every step into the tree of a container leads to the tree of something that it holds, or to a
text. -/
theorem exists_held_of_child {shape : Shape Value} {u : Json} {s : Json.Step}
    (h : shape.render (Value.display σ) (renderFrom σ left around) = .ok t) (hc : t.Child s u) :
    (∃ w ∈ shape.held, w.renderFrom σ left around = .ok u) ∨ ∃ said, u = .text said := by
  have htext (key : String) : (Value.text key).renderFrom σ left around = .ok (.text key) :=
    renderFrom_atom left around none (.text key)
  obtain ⟨p, w, hp, hw⟩ := Objects.exists_part_of_child htext h hc
  rcases Objects.mem_held_of_part? hp with hm | ⟨key, rfl⟩
  · exact .inl ⟨w, hm, hw⟩
  · rw [htext] at hw
    exact .inr ⟨key, (Except.ok.inj hw).symm⟩

/-- **A double in the tree of a value** is what an atom in the value is rendered to. -/
theorem exists_atom_of_at {path : List Json.Step} {x : Binary64}
    (hr : v.renderFrom σ left around = .ok t) (hat : t.At path (.float x)) :
    ∃ a, σ.Holds v a ∧ a.render = .ok (.float x) := by
  -- a step into the tree is a step into the value
  induction path generalizing v left around t with
  | nil =>
    cases hat
    rcases renderFrom_cases hr with ⟨label, a, rfl, ha⟩ | ⟨_, shape, _, _, -, hs⟩ | h | h
    · exact ⟨a, .atom label a, ha⟩
    · rcases Shape.array_or_object_of_render hs with ⟨_, h⟩ | ⟨_, h⟩ <;> cases h
    · cases h
    · cases h
  | cons s path ih =>
    obtain _ | ⟨hs, hat⟩ := hat
    rcases renderFrom_cases hr with ⟨_, a, rfl, ha⟩ | ⟨_, shape, _, _, hc, hshape⟩ | rfl | rfl
    · exact absurd hs (not_child_of_atom ha _ _)
    · rcases exists_held_of_child hshape hs with ⟨w, hw, hrw⟩ | ⟨said, rfl⟩
      · obtain ⟨a, ha, hx⟩ := ih hrw hat
        exact ⟨a, .inside hc hw ha, hx⟩
      · exact absurd (hat.eq_nil nofun) (by rintro rfl; cases hat)
    · cases hs
    · cases hs

end Value

/-- **A double in the tree of an item** is what an atom in the item is rendered to. -/
theorem Payload.exists_atom_of_at {σ : Objects} {item : Item} {t : Json} {path : List Json.Step}
    {x : Binary64} (hr : renderItem σ item = .ok t) (hat : t.At path (.float x)) :
    ∃ a, Holds σ item a ∧ a.render = .ok (.float x) := by
  induction path generalizing item t with
  | nil =>
    cases item with
    | leaf v =>
      obtain ⟨a, ha, hx⟩ := Value.exists_atom_of_at hr hat
      exact ⟨a, .leaf ha, hx⟩
    | group items =>
      obtain ⟨members, -, rfl⟩ := Results.map_eq_ok.mp hr
      cases hat
  | cons s path ih =>
    cases item with
    | leaf v =>
      obtain ⟨a, ha, hx⟩ := Value.exists_atom_of_at hr hat
      exact ⟨a, .leaf ha, hx⟩
    | group items =>
      obtain ⟨members, hms, rfl⟩ := Results.map_eq_ok.mp hr
      obtain _ | ⟨hs, hat⟩ := hat
      cases hs with
      | member hm =>
        obtain ⟨item, hitem, hri⟩ := exists_of_mem_renderItems hms hm
        obtain ⟨a, ha, hx⟩ := ih hri hat
        exact ⟨a, .group hitem ha, hx⟩

/-! ## Finite numbers -/

/-- **An atom is finite**: a double is, a duration is shorter than a thousand million days, and
everything else is no double. -/
def Atom.IsFinite : Atom → Prop
  | .float x => x.isFinite = true
  | .span micros => micros.natAbs < 1000000000 * Moment.dayLength
  | _ => True

/-- The seconds of a duration are finite. -/
theorem isFinite_ofFraction_span {micros : Int}
    (h : micros.natAbs < 1000000000 * Moment.dayLength) :
    (Binary64.ofFraction micros 1000000).isFinite = true := by
  refine Binary64.isFinite_round _ (by decide) ?_
  have hlt : (micros.natAbs : ℚ) < 86400000000000000000 := by
    rw [show Moment.dayLength = 86400000000 from rfl] at h
    exact_mod_cast h
  calc (micros.natAbs : ℚ) / (1000000 : Nat) < 86400000000000000000 / (1000000 : Nat) := by gcongr
    _ < 2 ^ (64 : Int) := by norm_num
    _ ≤ 2 ^ (1023 : Int) := zpow_le_zpow_right₀ (by norm_num) (by norm_num)

/-- An atom that is finite is rendered as no other double. -/
theorem Atom.IsFinite.isFinite {a : Atom} (ha : a.IsFinite) {x : Binary64}
    (h : a.render = .ok (.float x)) : x.isFinite = true := by
  cases a with
  | float y =>
    cases h
    exact ha
  | span micros =>
    cases h
    exact isFinite_ofFraction_span ha
  | bytes | failure | foreign =>
    obtain ⟨_, -, h⟩ := Results.map_eq_ok.mp h
    cases h
  | _ => cases h

/-! ## Lines -/

namespace Sink

variable {s : Sink} {scope : Scope} {talk : String → Foreign → Action Unit} {e : Event}

/-- **A line is JSON exactly where its doubles are finite.** Where a sink that writes or ships
structured lines has handled an event, it has put down the text of the tree of its payload. That
text is an object of JSON if and only if all doubles in the tree are finite, and they are where
everything in the payload is, durations among it. -/
theorem isObject_iff_of_deliver (hs : s.lineScope? = some scope) {h h' : Host}
    (hr : (deliver talk e s).run h = (.ok (), h')) :
    ∃ j, (Payload.ofEvent scope e).render h.objects = .ok j
      ∧ (s.putLine e (j.toText .spaced)).run h = (.ok (), h')
      ∧ (Json.IsObject (j.toText .spaced).toList ↔ j.AllFinite)
      ∧ ((∀ a, Payload.Holds h.objects (.group (Payload.ofEvent scope e)) a → a.IsFinite) →
        Json.IsObject (j.toText .spaced).toList) := by
  obtain ⟨j, hj, hline⟩ := exists_line_of_deliver hs hr
  have hiff : Json.IsObject (j.toText .spaced).toList ↔ j.AllFinite := by
    obtain ⟨members, -, rfl⟩ := Results.map_eq_ok.mp hj
    rw [Json.toText, String.toList_ofList]
    exact Json.isObject_write_iff Json.Style.readable_spaced members
  refine ⟨j, hj, hline, hiff, fun hfinite => hiff.mpr fun path x hx => ?_⟩
  have hgroup : Payload.renderItem h.objects (.group (Payload.ofEvent scope e)) = .ok j := hj
  obtain ⟨a, ha, hrender⟩ := Payload.exists_atom_of_at hgroup hx
  exact (hfinite a ha).isFinite hrender

/-- A list with a duration and a number is written. -/
theorem isObject_iff_of_deliver_list :
    let h : Host := .fresh [] ⟨⟨2024, 5, 1⟩, 10, 0, 0, 0, some 0⟩ [] "/" "host"
    let s : Sink := .structured (.root .info false) [.stdout]
    let e : Event := ⟨h.now, .info, "m", none,
      [⟨"l", .node none (.list none [.atom none (.span 1500000), .int 7])⟩]⟩
    let run := (deliver (fun _ _ => pure ()) e s).run h
    s.lineScope? = some (.root .info false) ∧ run.1 = .ok ()
      ∧ run.2.stdout = "\x7b\"time\": \"2024-05-01T10:00:00+00:00\", \"level\": \"INFO\", "
        ++ "\"message\": \"m\", \"l\": [1.5, 7]\x7d\n"
      ∧ ∃ j, (Payload.ofEvent (.root .info false) e).render h.objects = .ok j
        ∧ (s.putLine e (j.toText .spaced)).run h = (.ok (), run.2)
        ∧ (Json.IsObject (j.toText .spaced).toList ↔ j.AllFinite)
        ∧ ((∀ a, Payload.Holds h.objects (.group (Payload.ofEvent (.root .info false) e)) a →
          a.IsFinite) → Json.IsObject (j.toText .spaced).toList) := by
  intro h s e run
  have hok : run.1 = .ok () := rfl
  exact ⟨rfl, hok, by decide +kernel,
    isObject_iff_of_deliver (s := s) rfl (Prod.ext hok rfl)⟩

/-- **A number that is none makes a line that is not JSON.** -/
theorem not_isObject_nan :
    let h : Host := .fresh [] ⟨⟨2024, 5, 1⟩, 10, 0, 0, 0, some 0⟩ [] "/" "host"
    let e : Event := ⟨h.now, .info, "hello", none, [⟨"x", .atom none (.float .nan)⟩]⟩
    let run := (deliver (fun _ _ => pure ()) e (.structured (.root .info false) [.stdout])).run h
    ∃ line, run.1 = .ok () ∧ run.2.stdout = line ++ "\n" ∧ ¬ Json.IsObject line.toList := by
  intro h e run
  let members : List (String × Json) := [("time", .text (Moment.text h.now)),
    ("level", .text "INFO"), ("message", .text "hello"), ("x", .float .nan)]
  refine ⟨(Json.object members).toText .spaced, rfl, by decide +kernel, ?_⟩
  rw [Json.toText, String.toList_ofList, Json.isObject_write_iff Json.Style.readable_spaced]
  intro hfinite
  have hx : (Json.object members).At [.member "x"] (.float .nan) :=
    .step (.member (List.mem_of_getElem? (i := 3) rfl)) .here
  exact absurd (hfinite _ _ hx) (by decide)

end Sink

end DiscreetLog
