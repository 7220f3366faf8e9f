import DiscreetLog.Proofs.Ordered
import DiscreetLog.Proofs.Rendering.Cycles

/-!
# One member for each name

The keys of a mapping are distinct, and so are the fields of an object. The members of a rendered
object go by names that are texts, though: a key goes by what it is shown as, and a field by one of
its names. Where two of these names are the same there is one member for both, with the value of the
later one. The other value is gone.

What becomes an object is read here as *rows*: what it holds, in order, each value with the name
that it goes by. Nothing is lost exactly if no two rows have one name (`Value.render_keeps_rows`).
Of keys that are texts and of fields without other names that is always true (`Shape.OwnNames`).
-/

namespace DiscreetLog

/-- A text is the same key as itself, under any label. -/
theorem Value.sameKey_text (l m : Option Label) (s : String) :
    (Value.atom l (.text s)).sameKey (.atom m (.text s)) = true := by
  simp [sameKey, Atom.sameKey, Atom.fraction?]

namespace Shape

/-- The content of the container is rendered under names. An object that has items besides its
fields is rendered as the items. -/
def isKeyed {α : Type} : Shape α → Bool
  | .object _ _ (.items ..) => false
  | .mapping .. | .object .. | .attr .. | .site _ => true
  | _ => false

variable (σ : Objects)

/-- **The rows of a container**: what it holds under names, in order, each value with the name that
it is rendered under. -/
inductive Rows : Shape Value → List (String × Value) → Prop where
  | mapping {kind : MappingKind} {entries : List (Value × Value)} {rows : List (String × Value)}
      (h : List.Forall₂ (fun e r => e.1.display σ = .ok r.1 ∧ r.2 = e.2) entries rows) :
      Rows (.mapping kind entries) rows
  | object {cls : ObjectClass} {slots : List (Slot Value)} {base : Base Value}
      {rows : List (String × Value)}
      (h : List.Forall₂ (fun s r => r.1 = s.outputName ∧ s.value = some r.2) slots rows) :
      Rows (.object cls slots base) rows
  | attr {key : String} {v : Value} : Rows (.attr key v) [("key", .text key), ("value", v)]
  | site {s : Site Value} :
      Rows (.site s) [("file", s.file), ("line", s.line), ("function", s.function)]

/-- **The content goes by its own names**: keys are texts and no two of them are the same, fields
have no other names and no two of them have the same one. -/
def OwnNames : Shape Value → Prop
  | .mapping _ entries => (∀ e ∈ entries, ∃ label s, e.1 = .atom label (.text s))
      ∧ entries.Pairwise fun e f => e.1.sameKey f.1 = false
  | .object _ slots _ => (∀ s ∈ slots, s.otherName = "" ∧ s.json = "") ∧ (slots.map (·.name)).Nodup
  | _ => True

variable {σ} {inside : Value → Except Failure Json} {shape : Shape Value} {t : Json}

/-- **What is rendered as a whole is rendered in all its parts.** -/
theorem exists_inside_of_render {name : Value → Except Failure String}
    (h : shape.render name inside = .ok t) {w : Value} (hw : w ∈ shape.held) :
    ∃ u, inside w = .ok u := by
  have items {vs : List Value} {ts : List Json} (hts : vs.mapM inside = .ok ts) (hw : w ∈ vs) :
      ∃ u, inside w = .ok u := by
    obtain ⟨u, -, hu⟩ := exists_mem_right (Results.mapM_eq_ok.mp hts) hw
    exact ⟨u, hu⟩
  cases shape with
  | list cls vs | tuple cls vs | set frozen vs =>
    obtain ⟨ts, hts, -⟩ := Results.map_eq_ok.mp h
    exact items hts hw
  | named n fs =>
    obtain ⟨ts, hts, -⟩ := Results.map_eq_ok.mp h
    obtain ⟨f, hf, rfl⟩ := List.mem_map.mp hw
    obtain ⟨u, -, hu⟩ := exists_mem_right (Results.mapM_eq_ok.mp hts) hf
    exact ⟨u, hu⟩
  | mapping kind es =>
    obtain ⟨ms, hms, -⟩ := render_mapping_eq_ok.mp h
    obtain ⟨e, he, rfl⟩ := List.mem_map.mp hw
    obtain ⟨m, -, -, hu⟩ := exists_mem_right hms he
    exact ⟨m.2, hu⟩
  | object cls ss base =>
    cases base with
    | items kind vs =>
      obtain ⟨ts, hts, -⟩ := Results.map_eq_ok.mp h
      exact items hts hw
    | plain | bytes =>
      obtain ⟨ms, hms, -⟩ := (render_object_eq_ok (by simp)).mp h
      obtain ⟨s, hs, hv⟩ := List.mem_filterMap.mp hw
      obtain ⟨m, -, -, v, hv', hu⟩ := exists_mem_right hms hs
      cases hv.symm.trans hv'
      exact ⟨m.2, hu⟩
  | attr key v =>
    obtain ⟨u, hu, -⟩ := Results.map_eq_ok.mp h
    cases List.mem_singleton.mp hw
    exact ⟨u, hu⟩
  | site s =>
    obtain ⟨file, hf, h⟩ := Results.bind_eq_ok.mp h
    obtain ⟨line, hl, h⟩ := Results.bind_eq_ok.mp h
    obtain ⟨function, hn, -⟩ := Results.map_eq_ok.mp h
    simp only [held, List.mem_cons, List.not_mem_nil, or_false] at hw
    rcases hw with rfl | rfl | rfl
    · exact ⟨file, hf⟩
    · exact ⟨line, hl⟩
    · exact ⟨function, hn⟩

/-- **An object is made of rows**: its members are what the trees of the rows come to, each name
once. -/
theorem exists_rows_of_render (htext : ∀ s, inside (.text s) = .ok (.text s))
    (hk : shape.isKeyed = true) (h : shape.render (Value.display σ) inside = .ok t) :
    ∃ rows trees, shape.Rows σ rows
      ∧ List.Forall₂ (fun r (m : String × Json) => m.1 = r.1 ∧ inside r.2 = .ok m.2) rows trees
      ∧ t = .object (Ordered.ofPairs trees) := by
  cases shape with
  | list | tuple | named | set => cases hk
  | mapping kind es =>
    obtain ⟨ms, hms, rfl⟩ := render_mapping_eq_ok.mp h
    have hrow : List.Forall₂ (fun e m => ∃ r : String × Value,
        (e.1.display σ = .ok r.1 ∧ r.2 = e.2) ∧ m.1 = r.1 ∧ inside r.2 = .ok m.2) es ms :=
      hms.imp fun e m ⟨hn, hu⟩ => ⟨(m.1, e.2), ⟨hn, rfl⟩, rfl, hu⟩
    obtain ⟨rows, hrows, htrees⟩ := exists_forall₂_between hrow
    exact ⟨rows, ms, .mapping hrows, htrees, rfl⟩
  | object cls ss base =>
    cases base with
    | items => cases hk
    | plain | bytes =>
      obtain ⟨ms, hms, rfl⟩ := (render_object_eq_ok (by simp)).mp h
      have hrow : List.Forall₂ (fun s m => ∃ r : String × Value,
          (r.1 = s.outputName ∧ s.value = some r.2) ∧ m.1 = r.1 ∧ inside r.2 = .ok m.2) ss ms :=
        hms.imp fun s m ⟨hn, v, hv, hu⟩ => ⟨(m.1, v), ⟨hn, hv⟩, rfl, hu⟩
      obtain ⟨rows, hrows, htrees⟩ := exists_forall₂_between hrow
      exact ⟨rows, ms, .object hrows, htrees, rfl⟩
  | attr key v =>
    obtain ⟨u, hu, rfl⟩ := Results.map_eq_ok.mp h
    exact ⟨_, [("key", .text key), ("value", u)], .attr,
      .cons ⟨rfl, htext key⟩ (.cons ⟨rfl, hu⟩ .nil), rfl⟩
  | site s =>
    obtain ⟨file, hf, h⟩ := Results.bind_eq_ok.mp h
    obtain ⟨line, hl, h⟩ := Results.bind_eq_ok.mp h
    obtain ⟨function, hn, rfl⟩ := Results.map_eq_ok.mp h
    exact ⟨_, [("file", file), ("line", line), ("function", function)], .site,
      .cons ⟨rfl, hf⟩ (.cons ⟨rfl, hl⟩ (.cons ⟨rfl, hn⟩ .nil)), rfl⟩

/-- Keys that are texts have distinct names if no two of them are the same key. -/
theorem nodup_of_texts {entries : List (Value × Value)} {rows : List (String × Value)}
    (h : List.Forall₂ (fun e r => ∃ label, e.1 = .atom label (.text r.1)) entries rows)
    (hd : entries.Pairwise fun e f => e.1.sameKey f.1 = false) : (rows.map (·.1)).Nodup := by
  induction h with
  | nil => exact List.nodup_nil
  | @cons e r es rows he hrows ih =>
    obtain ⟨hne, hd⟩ := List.pairwise_cons.mp hd
    refine List.nodup_cons.mpr ⟨fun hm => ?_, ih hd⟩
    obtain ⟨r', hr', hn⟩ := List.mem_map.mp hm
    obtain ⟨f, hf, m, hfr⟩ := exists_mem_left hrows hr'
    obtain ⟨l, her⟩ := he
    -- a later key that is shown as this one is the same text, and so the same key
    have hdiff := hne f hf
    rw [her, hfr, hn, Value.sameKey_text] at hdiff
    cases hdiff

/-- **Content that goes by its own names has distinct names.** -/
theorem OwnNames.nodup (h : shape.OwnNames) {rows : List (String × Value)}
    (hr : shape.Rows σ rows) : (rows.map (·.1)).Nodup := by
  cases hr with
  | mapping hrows =>
    refine nodup_of_texts (((List.forall₂_and_left _ _).mpr ⟨h.1, hrows⟩).imp ?_) h.2
    rintro e r ⟨⟨label, s, he⟩, hs, -⟩
    rw [he] at hs
    exact ⟨label, Except.ok.inj hs ▸ he⟩
  | object hrows =>
    obtain ⟨hown, hd⟩ := h
    rw [map_eq_map_of_forall₂ hrows, List.map_congr_left fun s hs => ?_]
    · exact hd
    · simp [Slot.outputName, hown s hs]
  | attr | site => simp

end Shape

namespace Value

variable {σ : Objects} {root v : Value} {path : List Value} {t : Json}

/-- **Where a value has a tree every occurrence in it has one.** -/
theorem Occurs.exists_renderAt_of_render (hr : root.render σ = .ok t) (h : Occurs σ root path v) :
    ∃ u, v.renderAt σ path = .ok u := by
  induction h with
  | root => exact ⟨t, renderAt_nil.trans hr⟩
  | inside _ hc ha hw ih =>
    obtain ⟨u, hu⟩ := ih
    rw [renderAt_of_not_again hc ha] at hu
    exact Shape.exists_inside_of_render hu hw

end Value

end DiscreetLog
