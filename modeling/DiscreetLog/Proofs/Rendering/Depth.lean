import DiscreetLog.Proofs.Results
import DiscreetLog.Value.Rendering

/-!
# Rendering goes as deep as a value goes

The bound that rendering recurses on never cuts anything off. What is left of a descent is
measured by `Objects.rank`, the height of the value together with the heights of the containers
of the table that are not around it: a step into a container takes up part of the value, or the
container behind a label that is around from then on. As long as the bound is not below the rank
the rendering does not depend on it (`renderFrom_eq`).
-/

namespace DiscreetLog

/-- **What rendering looks into**: everything a container holds but the keys of its entries. -/
def Shape.held {α : Type} : Shape α → List α
  | .list _ items | .tuple _ items | .set _ items | .object _ _ (.items _ items) => items
  | .named _ fields => fields.map (·.2)
  | .mapping _ entries => entries.map (·.2)
  | .object _ slots _ => slots.filterMap (·.value)
  | .attr _ v => [v]
  | .site s => [s.file, s.line, s.function]

/-! ## Heights -/

theorem height_le_itemsHeight {vs : List Value} {v : Value} (h : v ∈ vs) :
    v.height ≤ itemsHeight vs := by
  induction vs with
  | nil => cases h
  | cons w vs ih =>
    rw [itemsHeight]
    rcases List.mem_cons.mp h with rfl | h
    · exact Nat.le_max_left _ _
    · exact Nat.le_trans (ih h) (Nat.le_max_right _ _)

theorem height_le_fieldsHeight {fs : List (String × Value)} {f : String × Value} (h : f ∈ fs) :
    f.2.height ≤ fieldsHeight fs := by
  induction fs with
  | nil => cases h
  | cons g fs ih =>
    rw [fieldsHeight]
    rcases List.mem_cons.mp h with rfl | h
    · exact Nat.le_max_left _ _
    · exact Nat.le_trans (ih h) (Nat.le_max_right _ _)

theorem height_le_entriesHeight {es : List (Value × Value)} {e : Value × Value} (h : e ∈ es) :
    e.2.height ≤ entriesHeight es := by
  induction es with
  | nil => cases h
  | cons f es ih =>
    rw [entriesHeight]
    rcases List.mem_cons.mp h with rfl | h
    · exact Nat.le_trans (Nat.le_max_right _ _) (Nat.le_max_left _ _)
    · exact Nat.le_trans (ih h) (Nat.le_max_right _ _)

theorem height_le_slotsHeight {ss : List (Slot Value)} {s : Slot Value} {v : Value} (h : s ∈ ss)
    (hv : s.value = some v) : v.height ≤ slotsHeight ss := by
  induction ss with
  | nil => cases h
  | cons t ss ih =>
    obtain ⟨name, otherName, json, initial, value⟩ := t
    rw [slotsHeight]
    rcases List.mem_cons.mp h with rfl | h
    · cases hv
      exact Nat.le_max_left _ _
    · exact Nat.le_trans (ih h) (Nat.le_max_right _ _)

/-- **What a container holds is less high than the container.** -/
theorem height_le_shapeHeight {shape : Shape Value} {v : Value} (h : v ∈ shape.held) :
    v.height ≤ shapeHeight shape := by
  cases shape with
  | list | tuple | set => exact height_le_itemsHeight h
  | named name fs =>
    obtain ⟨f, hf, rfl⟩ := List.mem_map.mp h
    exact height_le_fieldsHeight hf
  | mapping kind es =>
    obtain ⟨e, he, rfl⟩ := List.mem_map.mp h
    exact height_le_entriesHeight he
  | object cls ss base =>
    rw [shapeHeight]
    cases base with
    | items kind vs => exact Nat.le_trans (height_le_itemsHeight h) (Nat.le_max_right _ _)
    | plain | bytes =>
      obtain ⟨s, hs, hv⟩ := List.mem_filterMap.mp h
      exact Nat.le_trans (height_le_slotsHeight hs hv) (Nat.le_max_left _ _)
  | attr key w =>
    rw [List.mem_singleton.mp h]
    exact Nat.le_refl _
  | site s =>
    obtain ⟨file, line, function⟩ := s
    simp only [Shape.held, List.mem_cons, List.not_mem_nil, or_false] at h
    rw [shapeHeight]
    rcases h with rfl | rfl | rfl
    · exact Nat.le_max_left _ _
    · exact Nat.le_trans (Nat.le_max_left _ _) (Nat.le_max_right _ _)
    · exact Nat.le_trans (Nat.le_max_right _ _) (Nat.le_max_right _ _)

/-! ## Ranks -/

namespace Objects

/-- The heights of the containers that are not around a value. -/
def spare : Objects → List Label → Nat
  | [], _ => 0
  | entry :: σ, around =>
    (if around.contains entry.1 then 0 else shapeHeight entry.2 + 1) + spare σ around

/-- **How many containers a descent may still enter.** -/
def rank (σ : Objects) (around : List Label) (v : Value) : Nat := v.height + σ.spare around

theorem spare_cons (entry : Label × Shape Value) (σ : Objects) (around : List Label) :
    spare (entry :: σ) around
      = (if around.contains entry.1 then 0 else shapeHeight entry.2 + 1) + spare σ around := rfl

/-- Before a descent the rank is the depth. -/
theorem rank_nil (σ : Objects) (v : Value) : σ.rank [] v = σ.depth v := by
  rw [rank, depth]
  generalize v.height = n
  induction σ generalizing n with
  | nil => rfl
  | cons entry σ ih =>
    rw [List.foldl_cons, ← ih, spare_cons]
    simp only [List.contains_nil, Bool.false_eq_true, if_false]
    omega

/-- The more containers are around, the less is spared. -/
theorem spare_le (σ : Objects) (around : List Label) (label : Option Label) :
    σ.spare (label.toList ++ around) ≤ σ.spare around := by
  induction σ with
  | nil => exact Nat.le_refl _
  | cons entry σ ih =>
    rw [spare_cons, spare_cons]
    refine Nat.add_le_add ?_ ih
    cases ha : around.contains entry.1 with
    | true =>
      have hc : (label.toList ++ around).contains entry.1 = true := by
        rw [List.contains_iff_mem] at ha ⊢
        exact List.mem_append_right _ ha
      exact Nat.le_of_eq (by rw [hc])
    | false => split <;> simp

/-- A container behind a label is spared until the label is around. -/
theorem spare_lt {σ : Objects} {around : List Label} {l : Label} {shape : Shape Value}
    (h : σ.shape? l = some shape) (hl : around.contains l = false) :
    σ.spare (l :: around) + shapeHeight shape < σ.spare around := by
  induction σ with
  | nil => cases h
  | cons entry σ ih =>
    obtain ⟨m, shape'⟩ := entry
    have hle : spare σ (l :: around) ≤ spare σ around := spare_le σ around (some l)
    rw [shape?, List.lookup_cons] at h
    rw [spare_cons, spare_cons, List.contains_cons]
    by_cases hm : l = m
    · subst hm
      rw [beq_self_eq_true] at h ⊢
      cases h
      rw [hl, Bool.true_or, if_pos rfl, if_neg Bool.false_ne_true]
      dsimp only
      omega
    · rw [beq_eq_false_iff_ne.mpr hm] at h
      have hlt := ih h
      rw [beq_eq_false_iff_ne.mpr fun e => hm e.symm, Bool.false_or]
      omega

/-- **A step into a container takes the rank down.** -/
theorem rank_lt {σ : Objects} {around : List Label} {v w : Value} {label : Option Label}
    {shape : Shape Value} (h : σ.container? v = some (label, shape))
    (hl : label.any around.contains = false) (hw : w ∈ shape.held) :
    σ.rank (label.toList ++ around) w < σ.rank around v := by
  have hh := height_le_shapeHeight hw
  cases v with
  | atom => cases h
  | node =>
    cases h
    have hs := σ.spare_le around label
    rw [rank, rank, Value.height]
    omega
  | shared l =>
    obtain ⟨_, hs, he⟩ := Option.map_eq_some_iff.mp h
    cases he
    have hs := spare_lt hs hl
    rw [rank, rank, Option.toList_some, List.singleton_append]
    omega

end Objects

/-! ## Rendering -/

/-- Fields that hold the same in the eyes of two renderings are rendered alike. -/
theorem renderSlot_congr {inside inside' : Value → Except Failure Json} {owner : String}
    {s : Slot Value} (h : ∀ v, s.value = some v → inside v = inside' v) :
    Shape.renderSlot inside owner s = Shape.renderSlot inside' owner s := by
  unfold Shape.renderSlot
  cases hv : s.value with
  | none => rfl
  | some v =>
    dsimp only
    rw [h v hv]

/-- **The tree of a container is made of the trees of what it holds**, and of nothing else. -/
theorem render_congr {name : Value → Except Failure String}
    {inside inside' : Value → Except Failure Json} {shape : Shape Value}
    (h : ∀ v ∈ shape.held, inside v = inside' v) :
    shape.render name inside = shape.render name inside' := by
  have items (vs : List Value) (h : ∀ v ∈ vs, inside v = inside' v) :
      vs.mapM inside = vs.mapM inside' := mapM_congr (List.forall₂_same.mpr h)
  cases shape with
  | list cls vs => rw [Shape.render, Shape.render, items vs h]
  | tuple cls vs => rw [Shape.render, Shape.render, items vs h]
  | set frozen vs => rw [Shape.render, Shape.render, items vs h]
  | named cls fs =>
    rw [Shape.render, Shape.render]
    rw [mapM_congr (List.forall₂_same.mpr fun f hf => h f.2 (List.mem_map_of_mem hf))]
  | mapping kind es =>
    have he : ∀ e ∈ es, inside e.2 = inside' e.2 := fun e he => h e.2 (List.mem_map_of_mem he)
    rw [Shape.render, Shape.render, mapM_congr (List.forall₂_same.mpr fun e hm => by rw [he e hm])]
  | object cls ss base =>
    cases base with
    | items kind vs => rw [Shape.render, Shape.render, items vs h]
    | plain | bytes =>
      simp only [Shape.render]
      rw [mapM_congr (List.forall₂_same.mpr fun s hs => renderSlot_congr fun v hv =>
        h v (List.mem_filterMap.mpr ⟨s, hs, hv⟩))]
  | attr key v => rw [Shape.render, Shape.render, h v (List.mem_singleton.mpr rfl)]
  | site s =>
    rw [Shape.render, Shape.render, h s.file (by simp [Shape.held]),
      h s.line (by simp [Shape.held]), h s.function (by simp [Shape.held])]

section OneContainer

variable {name : Value → Except Failure String} {inside : Value → Except Failure Json} {t : Json}

/-- **The tree of a mapping** is put together entry by entry. -/
theorem render_mapping_eq_ok {kind : MappingKind} {es : List (Value × Value)} :
    (Shape.mapping kind es).render name inside = .ok t ↔
      ∃ ms : List (String × Json),
        List.Forall₂ (fun e m => name e.1 = .ok m.1 ∧ inside e.2 = .ok m.2) es ms
          ∧ .object (Ordered.ofPairs ms) = t := by
  have hentry (e : Value × Value) (m : String × Json) :
      (do return (← name e.1, ← inside e.2) : Except Failure (String × Json)) = .ok m
        ↔ name e.1 = .ok m.1 ∧ inside e.2 = .ok m.2 := by
    rw [Results.bind_eq_ok]
    constructor
    · rintro ⟨n, hn, h⟩
      obtain ⟨u, hu, rfl⟩ := Results.map_eq_ok.mp h
      exact ⟨hn, hu⟩
    · rintro ⟨hn, hu⟩
      exact ⟨_, hn, Results.map_eq_ok.mpr ⟨_, hu, rfl⟩⟩
  simp only [Shape.render, Results.map_eq_ok, Results.mapM_eq_ok, hentry]

/-- **The tree of an object** is put together field by field, unless it has items besides. -/
theorem render_object_eq_ok {cls : ObjectClass} {ss : List (Slot Value)} {base : Base Value}
    (hb : ∀ kind vs, base ≠ .items kind vs) :
    (Shape.object cls ss base).render name inside = .ok t ↔
      ∃ ms : List (String × Json),
        List.Forall₂ (fun s m => m.1 = s.outputName ∧ ∃ v, s.value = some v ∧ inside v = .ok m.2)
          ss ms ∧ .object (Ordered.ofPairs ms) = t := by
  have hslot (s : Slot Value) (m : String × Json) :
      Shape.renderSlot inside cls.name s = .ok m
        ↔ m.1 = s.outputName ∧ ∃ v, s.value = some v ∧ inside v = .ok m.2 := by
    unfold Shape.renderSlot
    constructor
    · intro h
      split at h
      · cases h
      · rename_i v hv
        obtain ⟨u, hu, rfl⟩ := Results.map_eq_ok.mp h
        exact ⟨rfl, v, hv, hu⟩
    · rintro ⟨hn, v, hv, hu⟩
      rw [hv]
      exact Results.map_eq_ok.mpr ⟨_, hu, Prod.ext hn.symm rfl⟩
  cases base with
  | items kind vs => exact absurd rfl (hb kind vs)
  | plain | bytes => simp only [Shape.render, Results.map_eq_ok, Results.mapM_eq_ok, hslot]

end OneContainer

namespace Value

variable {σ : Objects} {around : List Label} {v : Value}

/-- The tree of an atom. -/
theorem renderFrom_atom (left : Nat) (around : List Label) (label : Option Label) (a : Atom) :
    (Value.atom label a).renderFrom σ left around = a.render := by
  cases left <;> rfl

/-- A label that stands for nothing is rendered as nothing. -/
theorem renderFrom_shared_of_none {left : Nat} {l : Label} (h : σ.shape? l = none) :
    (Value.shared l).renderFrom σ left around = .ok .null := by
  have hc : σ.container? (.shared l) = none := by rw [Objects.container?, h, Option.map_none]
  unfold renderFrom
  rw [hc]

/-- A container that is met inside itself is cut off. -/
theorem renderFrom_of_again {left : Nat} {label : Option Label} {shape : Shape Value}
    (h : σ.container? v = some (label, shape)) (hl : label.any around.contains = true) :
    v.renderFrom σ left around = .ok (.text cycleMark) := by
  unfold renderFrom
  cases v with
  | atom => cases h
  | _ => rw [h]; simp only [hl, if_true]

/-- A container that is not met inside itself is rendered, as long as the bound allows. -/
theorem renderFrom_of_open {left : Nat} {label : Option Label} {shape : Shape Value}
    (h : σ.container? v = some (label, shape)) (hl : label.any around.contains = false) :
    v.renderFrom σ (left + 1) around
      = shape.render (Value.display σ) (renderFrom σ left (label.toList ++ around)) := by
  conv_lhs => unfold renderFrom
  cases v with
  | atom => cases h
  | _ => rw [h]; simp only [hl, Bool.false_eq_true, if_false]

/-- A container that is not met inside itself has a rank. -/
theorem rank_pos {label : Option Label} {shape : Shape Value}
    (h : σ.container? v = some (label, shape)) (hl : label.any around.contains = false) :
    0 < σ.rank around v := by
  cases v with
  | atom => cases h
  | node => exact Nat.lt_of_lt_of_le (Nat.succ_pos _) (Nat.le_add_right _ _)
  | shared l =>
    obtain ⟨_, hs, he⟩ := Option.map_eq_some_iff.mp h
    cases he
    have hlt := Objects.spare_lt hs hl
    rw [Objects.rank]
    omega

/-- What is not opened is rendered without regard to the bound. -/
theorem renderFrom_of_not_open (h : ¬ ∃ label shape, σ.container? v = some (label, shape)
      ∧ label.any around.contains = false) (left left' : Nat) :
    v.renderFrom σ left around = v.renderFrom σ left' around := by
  cases hc : σ.container? v with
  | none =>
    cases v with
    | atom label a => rw [renderFrom_atom, renderFrom_atom]
    | node => cases hc
    | shared l =>
      have hs : σ.shape? l = none := Option.map_eq_none_iff.mp hc
      rw [renderFrom_shared_of_none hs, renderFrom_shared_of_none hs]
  | some found =>
    obtain ⟨label, shape⟩ := found
    have hl : label.any around.contains = true :=
      Bool.not_eq_false _ |>.mp fun hl => h ⟨label, shape, hc, hl⟩
    rw [renderFrom_of_again hc hl, renderFrom_of_again hc hl]

/-- **The bound never cuts anything off**: from the rank on, rendering does not depend on it. -/
theorem renderFrom_eq {left left' : Nat} (h : σ.rank around v ≤ left)
    (h' : σ.rank around v ≤ left') : v.renderFrom σ left around = v.renderFrom σ left' around := by
  -- a step takes the rank down, and with it both bounds
  induction left generalizing left' around v with
  | zero =>
    refine renderFrom_of_not_open (fun ⟨_, _, hc, hl⟩ => ?_) 0 left'
    exact Nat.lt_irrefl 0 (Nat.lt_of_lt_of_le (rank_pos hc hl) h)
  | succ n ih =>
    by_cases ho : ∃ label shape, σ.container? v = some (label, shape)
        ∧ label.any around.contains = false
    · obtain ⟨label, shape, hc, hl⟩ := ho
      obtain ⟨m, rfl⟩ := Nat.exists_eq_succ_of_ne_zero
        (Nat.ne_of_gt (Nat.lt_of_lt_of_le (rank_pos hc hl) h'))
      rw [renderFrom_of_open hc hl, renderFrom_of_open hc hl]
      refine render_congr fun w hw => ?_
      have hlt := Objects.rank_lt hc hl hw
      exact ih (by omega) (by omega)
    · exact renderFrom_of_not_open ho (n + 1) left'

end Value

end DiscreetLog
