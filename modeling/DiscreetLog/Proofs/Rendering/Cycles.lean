import DiscreetLog.Proofs.Masking.Refusal
import DiscreetLog.Proofs.Rendering.Depth

/-!
# Rendering cuts cycles and nothing else

The values that rendering gets to are those that one gets to from the root by going from a container
to what it holds. One and the same value may be got to in several ways, and the way decides how it
is rendered: a container that is met again on it is cut off, and the same container may stand
elsewhere and be rendered as a whole. So what is said here is said of an *occurrence*, a value
together with the containers on the way to it.

Whether there is a tree at all is settled by what has to be read on the way (`Value.Readable`). If
all of it can be, every occurrence has a tree, and that of a container which is not met again is put
together from the trees of what it holds (`Value.render_cuts_cycles`).
-/

namespace DiscreetLog

namespace Shape

variable (σ : Objects)

/-- **A container can be read**: the keys of a mapping can be shown as texts, and the fields of an
object hold something, unless it has items besides. -/
def Readable : Shape Value → Prop
  | .mapping _ entries => ∀ e ∈ entries, ∃ name, e.1.display σ = .ok name
  | .object _ slots .plain | .object _ slots (.bytes _) => ∀ s ∈ slots, ∃ v, s.value = some v
  | _ => True

/-- **A tree is put together from the trees of what a container holds**, in order. The members of an
object go by the keys or by the names of the fields, and a later member takes the place of an
earlier one of the same name. -/
def Assembled (tree : Value → Json) (t : Json) : Shape Value → Prop
  | .list _ items | .tuple _ items | .set _ items | .object _ _ (.items _ items) =>
    t = .array (items.map tree)
  | .named _ fields => t = .array (fields.map fun f => tree f.2)
  | .mapping _ entries => ∃ members, List.Forall₂ (fun e (m : String × Json) =>
      e.1.display σ = .ok m.1 ∧ m.2 = tree e.2) entries members
        ∧ t = .object (Ordered.ofPairs members)
  | .object _ slots .plain | .object _ slots (.bytes _) => ∃ members,
      List.Forall₂ (fun s (m : String × Json) =>
        m.1 = s.outputName ∧ ∃ v, s.value = some v ∧ m.2 = tree v) slots members
          ∧ t = .object (Ordered.ofPairs members)
  | .attr key v => t = .object [("key", .text key), ("value", tree v)]
  | .site s => t = .object [("file", tree s.file), ("line", tree s.line),
      ("function", tree s.function)]

end Shape

namespace Value

variable (σ : Objects)

/-- **A value is met again**: it is the same as one on the way to it. -/
def Again (path : List Value) (v : Value) : Prop :=
  ∃ u ∈ path, sameLabel u.label? v.label? = true

/-- **The occurrences of values in a value**, each with the containers on the way to it, the last
one first. No way goes on through a container that is met again. -/
inductive Occurs (root : Value) : List Value → Value → Prop where
  | root : Occurs root [] root
  | inside {path : List Value} {v w : Value} {label : Option Label} {shape : Shape Value}
      (h : Occurs root path v) (hc : σ.container? v = some (label, shape)) (ha : ¬ Again path v)
      (hw : w ∈ shape.held) : Occurs root (v :: path) w

/-- **A value can be read**, apart from what it holds: what is no container has a tree of its own,
and what is one can be read as a container. -/
structure Readable (v : Value) : Prop where
  atom : ∀ label a, v = .atom label a → ∃ t, a.render = .ok t
  container : ∀ label shape, σ.container? v = some (label, shape) → shape.Readable σ

/-- **The rendering of an occurrence.** -/
def renderAt (path : List Value) (v : Value) : Except Failure Json :=
  v.renderFrom σ (σ.rank (path.filterMap label?) v) (path.filterMap label?)

/-- **The tree of an occurrence** that has one. -/
def treeAt (path : List Value) (v : Value) : Json := ((v.renderAt σ path).toOption).getD .null

end Value

variable {σ : Objects}

/-! ## One container -/

/-- **A container that can be read is put together** as soon as everything it holds has a tree. -/
theorem Shape.exists_render {inside : Value → Except Failure Json} {tree : Value → Json}
    {shape : Shape Value} (hr : shape.Readable σ)
    (hin : ∀ v ∈ shape.held, inside v = .ok (tree v)) :
    ∃ t, shape.render (Value.display σ) inside = .ok t ∧ shape.Assembled σ tree t := by
  have items (vs : List Value) (h : ∀ v ∈ vs, inside v = .ok (tree v)) :
      vs.mapM inside = .ok (vs.map tree) := by
    rw [Results.mapM_eq_ok, List.forall₂_map_right_iff]
    exact List.forall₂_same.mpr h
  cases shape with
  | list cls vs | tuple cls vs | set cls vs =>
    exact ⟨_, Results.map_eq_ok.mpr ⟨_, items vs hin, rfl⟩, rfl⟩
  | named name fs =>
    have hfs : (fs.mapM fun f => inside f.2) = .ok (fs.map fun f => tree f.2) := by
      rw [Results.mapM_eq_ok, List.forall₂_map_right_iff]
      exact List.forall₂_same.mpr fun f hf => hin f.2 (List.mem_map_of_mem hf)
    exact ⟨_, Results.map_eq_ok.mpr ⟨_, hfs, rfl⟩, rfl⟩
  | mapping kind es =>
    obtain ⟨members, hm⟩ := exists_forall₂ (R := fun (e : Value × Value) (m : String × Json) =>
      (e.1.display σ = .ok m.1 ∧ m.2 = tree e.2) ∧ inside e.2 = .ok m.2) fun e he => by
        obtain ⟨name, hname⟩ := hr e he
        exact ⟨(name, tree e.2), ⟨hname, rfl⟩, hin e.2 (List.mem_map_of_mem he)⟩
    exact ⟨_, render_mapping_eq_ok.mpr ⟨members, hm.imp fun _ _ h => ⟨h.1.1, h.2⟩, rfl⟩, members,
      hm.imp fun _ _ h => h.1, rfl⟩
  | object cls ss base =>
    cases base with
    | items kind vs => exact ⟨_, Results.map_eq_ok.mpr ⟨_, items vs hin, rfl⟩, rfl⟩
    | plain | bytes =>
      obtain ⟨members, hm⟩ := exists_forall₂ (R := fun (s : Slot Value) (m : String × Json) =>
        m.1 = s.outputName ∧ ∃ v, s.value = some v ∧ inside v = .ok m.2 ∧ m.2 = tree v)
        fun s hs => by
          obtain ⟨v, hv⟩ := hr s hs
          have hheld := hin v (List.mem_filterMap.mpr ⟨s, hs, hv⟩)
          exact ⟨(s.outputName, tree v), rfl, v, hv, hheld, rfl⟩
      refine ⟨_, ?_, members, hm.imp fun _ _ ⟨hn, v, hv, _, ht⟩ => ⟨hn, v, hv, ht⟩, rfl⟩
      exact (render_object_eq_ok (by simp)).mpr
        ⟨members, hm.imp fun _ _ ⟨hn, v, hv, hu, _⟩ => ⟨hn, v, hv, hu⟩, rfl⟩
  | attr key v =>
    exact ⟨_, Results.map_eq_ok.mpr ⟨_, hin v (List.mem_singleton_self v), rfl⟩, rfl⟩
  | site s =>
    refine ⟨_, Results.bind_eq_ok.mpr ⟨_, hin s.file (by simp [held]), ?_⟩, rfl⟩
    refine Results.bind_eq_ok.mpr ⟨_, hin s.line (by simp [held]), ?_⟩
    exact Results.map_eq_ok.mpr ⟨_, hin s.function (by simp [held]), rfl⟩

/-- What is put together is no text. -/
theorem Shape.Assembled.ne_text {tree : Value → Json} {t : Json} {shape : Shape Value}
    (h : shape.Assembled σ tree t) (s : String) : t ≠ .text s := by
  cases shape with
  | list | tuple | set | named | attr | site =>
    rw [show t = _ from h]
    nofun
  | mapping =>
    obtain ⟨members, -, rfl⟩ := h
    nofun
  | object cls ss base =>
    cases base with
    | items =>
      rw [show t = _ from h]
      nofun
    | plain | bytes =>
      obtain ⟨members, -, rfl⟩ := h
      nofun

namespace Value

variable {root v : Value} {path : List Value}

/-- A container that can be read is a value that can. -/
theorem readable_of_container {label : Option Label} {shape : Shape Value}
    (hc : σ.container? v = some (label, shape)) (hs : shape.Readable σ) : v.Readable σ where
  atom label a ha := by
    rw [ha] at hc
    cases hc
  container label' shape' hc' := by
    rw [hc] at hc'
    cases hc'
    exact hs

/-! ## One occurrence -/

/-- The rendering of a value is that of the occurrence with nothing on the way to it. -/
theorem renderAt_nil : v.renderAt σ [] = v.render σ := by
  rw [render, ← Objects.rank_nil]
  rfl

/-- A rendering that comes to something comes to the tree. -/
theorem renderAt_eq_treeAt (h : ∃ t, v.renderAt σ path = .ok t) :
    v.renderAt σ path = .ok (v.treeAt σ path) := by
  obtain ⟨t, ht⟩ := h
  rw [treeAt, ht]
  rfl

theorem renderAt_atom (label : Option Label) (a : Atom) :
    (Value.atom label a).renderAt σ path = a.render :=
  renderFrom_atom _ _ label a

/-- A label that stands for nothing is rendered as nothing. -/
theorem renderAt_of_none {l : Label} (h : σ.shape? l = none) :
    (Value.shared l).renderAt σ path = .ok .null :=
  renderFrom_shared_of_none h

/-- Rendering knows the containers on the way to an occurrence by their labels. -/
theorem any_eq_false_iff {label : Option Label} {shape : Shape Value}
    (hc : σ.container? v = some (label, shape)) :
    label.any (path.filterMap label?).contains = false ↔ ¬ v.Again path := by
  rw [Again, ← Masking.any_contains_iff, Masking.label?_of_container hc, Bool.not_eq_true]

/-- **A container that is met again is cut off.** -/
theorem renderAt_of_again {label : Option Label} {shape : Shape Value}
    (hc : σ.container? v = some (label, shape)) (ha : v.Again path) :
    v.renderAt σ path = .ok (.text cycleMark) :=
  renderFrom_of_again hc (Bool.not_eq_false _ |>.mp fun hl => (any_eq_false_iff hc).mp hl ha)

/-- **What a container holds has a lower rank**, as long as the container is not met again. -/
theorem rank_held_lt {label : Option Label} {shape : Shape Value} {w : Value}
    (hc : σ.container? v = some (label, shape)) (ha : ¬ v.Again path) (hw : w ∈ shape.held) :
    σ.rank ((v :: path).filterMap label?) w < σ.rank (path.filterMap label?) v := by
  rw [Masking.filterMap_label?_cons hc]
  exact Objects.rank_lt hc ((any_eq_false_iff hc).mpr ha) hw

/-- **A container that is not met again is rendered** with the renderings of what it holds, which
has the container on the way to it. -/
theorem renderAt_of_not_again {label : Option Label} {shape : Shape Value}
    (hc : σ.container? v = some (label, shape)) (ha : ¬ v.Again path) :
    v.renderAt σ path = shape.render (Value.display σ) (renderAt σ (v :: path)) := by
  have hl := (any_eq_false_iff hc).mpr ha
  obtain ⟨n, hn⟩ := Nat.exists_eq_succ_of_ne_zero (Nat.ne_of_gt (rank_pos hc hl))
  rw [renderAt, hn, renderFrom_of_open hc hl, ← Masking.filterMap_label?_cons hc]
  refine render_congr fun w hw => renderFrom_eq ?_ (Nat.le_refl _)
  have hlt := rank_held_lt hc ha hw
  omega

/-! ## All occurrences -/

/-- **Every occurrence has a rendering** if all of them can be read. -/
theorem Occurs.exists_renderAt (hr : ∀ path v, Occurs σ root path v → v.Readable σ)
    (h : Occurs σ root path v) : ∃ t, v.renderAt σ path = .ok t := by
  -- by induction on the rank, which a step into a container takes down
  induction hn : σ.rank (path.filterMap label?) v using Nat.strongRecOn generalizing path v with
  | _ n ih =>
  subst hn
  cases hc : σ.container? v with
  | none =>
    cases v with
    | atom label a =>
      rw [renderAt_atom]
      exact (hr path _ h).atom label a rfl
    | node => cases hc
    | shared l => exact ⟨.null, renderAt_of_none (Option.map_eq_none_iff.mp hc)⟩
  | some found =>
    obtain ⟨label, shape⟩ := found
    by_cases ha : v.Again path
    · exact ⟨_, renderAt_of_again hc ha⟩
    · rw [renderAt_of_not_again hc ha]
      obtain ⟨t, ht, -⟩ := Shape.exists_render ((hr path v h).container label shape hc)
        fun w hw => renderAt_eq_treeAt (ih _ (rank_held_lt hc ha hw) (.inside h hc ha hw) rfl)
      exact ⟨t, ht⟩

/-- **Without repetitions the way to an occurrence does not matter**: with fewer containers on it
the rendering is the same. -/
theorem Occurs.renderAt_eq (hn : ∀ path v, Occurs σ root path v → ¬ v.Again path)
    (h : Occurs σ root path v) {fewer : List Value} (hf : ∀ u ∈ fewer, u ∈ path) :
    v.renderAt σ fewer = v.renderAt σ path := by
  induction hr : σ.rank (path.filterMap label?) v using Nat.strongRecOn
    generalizing path v fewer with
  | _ n ih =>
  subst hr
  cases hc : σ.container? v with
  | none =>
    cases v with
    | atom => rw [renderAt_atom, renderAt_atom]
    | node => cases hc
    | shared l =>
      have hs := Option.map_eq_none_iff.mp hc
      rw [renderAt_of_none hs, renderAt_of_none hs]
  | some found =>
    obtain ⟨label, shape⟩ := found
    have ha := hn path v h
    have haf : ¬ v.Again fewer := fun ⟨u, hu, hs⟩ => ha ⟨u, hf u hu, hs⟩
    rw [renderAt_of_not_again hc ha, renderAt_of_not_again hc haf]
    refine render_congr fun w hw => ih _ (rank_held_lt hc ha hw) (.inside h hc ha hw) ?_ rfl
    exact fun u hu => List.mem_cons.mpr ((List.mem_cons.mp hu).imp_right (hf u))

/-- **Rendering cuts cycles and nothing else.** Let a value be given, with containers that may be
shared and hold themselves in any way, and let everything that occurs in it be readable. It has a
tree, and so has every occurrence in it. A container is cut off exactly if it is the same as one of
the containers on the way to it; any other becomes an array or an object of the trees of all that it
holds, in order, the later one of two members of one name taking the place of the earlier. If no
container holds itself, nothing is cut off, and the tree of an occurrence is that of the value by
itself, wherever it occurs. -/
theorem render_cuts_cycles (hr : ∀ path v, Occurs σ root path v → v.Readable σ) :
    ∃ tree : List Value → Value → Json, root.render σ = .ok (tree [] root)
      ∧ (∀ path v, Occurs σ root path v →
        (∀ label a, v = .atom label a → a.render = .ok (tree path v))
          ∧ ∀ label shape, σ.container? v = some (label, shape) →
            (tree path v = .text cycleMark ↔ v.Again path)
              ∧ (¬ v.Again path → shape.Assembled σ (tree (v :: path)) (tree path v)))
      ∧ ((∀ path v, Occurs σ root path v → ¬ v.Again path) →
        ∀ path v, Occurs σ root path v → v.render σ = .ok (tree path v)) := by
  have htree {path : List Value} {v : Value} (h : Occurs σ root path v) :
      v.renderAt σ path = .ok (v.treeAt σ path) := renderAt_eq_treeAt (h.exists_renderAt hr)
  refine ⟨fun path v => v.treeAt σ path, ?_, fun path v h => ⟨?_, fun label shape hc => ?_⟩,
    fun hn path v h => ?_⟩
  · rw [← renderAt_nil]
    exact htree .root
  · rintro label a rfl
    exact (renderAt_atom label a).symm.trans (htree h)
  · have hassembled (ha : ¬ v.Again path) :
        shape.Assembled σ (treeAt σ (v :: path)) (v.treeAt σ path) := by
      obtain ⟨t, ht, hs⟩ := Shape.exists_render ((hr path v h).container label shape hc)
        fun w hw => htree (.inside h hc ha hw)
      rw [← renderAt_of_not_again hc ha, htree h] at ht
      cases ht
      exact hs
    refine ⟨⟨fun ht => by_contra fun ha => (hassembled ha).ne_text _ ht, fun ha => ?_⟩, hassembled⟩
    have ht := htree h
    rw [renderAt_of_again hc ha] at ht
    exact (Except.ok.inj ht).symm
  · rw [← renderAt_nil, h.renderAt_eq hn (List.forall_mem_nil _)]
    exact htree h

/-- A list that holds itself and a mapping, which holds another list twice. The first list is cut
off where it is met again, the second is rendered at both places, and of the two keys that are shown
as the same text the later one has its value. -/
theorem render_cuts_cycles_shared :
    let m : Shape Value := .mapping .plain
      [(.text "1", .int 7), (.text "a", .shared "n"), (.int 1, .shared "n")]
    let l : Shape Value := .list none [.shared "l", .node none m]
    let σ : Objects := [("l", l), ("n", .list none [.int 7])]
    let made : Json := .object [("1", .array [.int 7]), ("a", .array [.int 7])]
    (∀ path v, Occurs σ (.shared "l") path v → v.Readable σ)
      ∧ Again [.shared "l"] (.shared "l")
      ∧ ∃ tree : List Value → Value → Json,
        tree [] (.shared "l") = .array [.text cycleMark, made]
          ∧ tree [.shared "l"] (.shared "l") = .text cycleMark
          ∧ l.Assembled σ (tree [.shared "l"]) (tree [] (.shared "l")) := by
  intro m l σ made
  have hoccurs : ∀ path v, Occurs σ (.shared "l") path v →
      v = .shared "l" ∨ v = .node none m ∨ v = .shared "n" ∨ v = .int 7 := by
    intro path v h
    induction h with
    | root => exact .inl rfl
    | inside _ hc _ hw ih =>
      rcases ih with rfl | rfl | rfl | rfl <;> cases hc
      · exact (List.mem_pair.mp hw).imp_right .inl
      · simp [m, Shape.held] at hw
        tauto
      · exact .inr (.inr (.inr (List.mem_singleton.mp hw)))
  have hread : ∀ path v, Occurs σ (.shared "l") path v → v.Readable σ := by
    intro path v h
    rcases hoccurs path v h with rfl | rfl | rfl | rfl
    · exact readable_of_container (σ := σ) rfl trivial
    · exact readable_of_container (σ := σ) rfl <|
        List.forall_mem_cons.mpr ⟨⟨"1", rfl⟩, List.forall_mem_cons.mpr ⟨⟨"a", rfl⟩,
          List.forall_mem_singleton.mpr ⟨"1", rfl⟩⟩⟩
    · exact readable_of_container (σ := σ) rfl trivial
    · constructor
      · rintro _ _ ⟨⟩
        exact ⟨.int 7, rfl⟩
      · rintro _ _ ⟨⟩
  have hagain : Again [.shared "l"] (.shared "l") := ⟨_, List.mem_singleton_self _, rfl⟩
  have hroot : Occurs σ (.shared "l") [] (.shared "l") := .root
  have hfirst : ¬ Again [] (.shared "l") := by simp [Again]
  have hagainAt : Occurs σ (.shared "l") [.shared "l"] (.shared "l") :=
    .inside hroot rfl hfirst List.mem_cons_self
  obtain ⟨tree, hrender, hat, -⟩ := render_cuts_cycles hread
  have hmade : (Value.shared "l").render σ = .ok (.array [.text cycleMark, made]) := rfl
  refine ⟨hread, hagain, tree, Except.ok.inj (hrender.symm.trans hmade), ?_, ?_⟩
  · exact ((hat _ _ hagainAt).2 (some "l") l rfl).1.mpr hagain
  · exact ((hat _ _ hroot).2 (some "l") l rfl).2 hfirst

end Value

end DiscreetLog
