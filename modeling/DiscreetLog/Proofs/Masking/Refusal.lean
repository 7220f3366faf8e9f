import DiscreetLog.Proofs.Masking.Walk
import DiscreetLog.Value.Entries

/-!
# When masking fails

A container may refuse to be made anew: a mapping of a class that cannot be copied does, and so
does an object with a field that was never set. Masking has an answer for other things that a
class may lack – an object that cannot be copied becomes the mask, a sequence that cannot be
built from its items gives way to a built-in one – but none for these two, so it fails where the
walk enters such a container, and nowhere else.

Where the walk gets to is said here of the values as they are given, by the path that leads there:
under no sensitive key, and into no container that is cut off or given up.
-/

namespace DiscreetLog

/-- **A container that cannot be made anew**: a mapping that cannot be copied, and an object
with a field that cannot be read. -/
def Objects.refuses (σ : Objects) (shape : Shape Value) : Bool :=
  match shape with
  | .mapping .uncopyable _ => true
  | .object cls slots _ =>
    (σ.group? shape).isNone && cls.copies && slots.any (·.value.isNone)
  | _ => false

namespace Masking

variable (σ : Objects) (tokens : Tokens) (maxDepth : Int)

/-- **A value is cut off** behind the values on the way to it, the last one first: no depth is
left for it, or it is one of them. -/
def CutOff (path : List Value) (v : Value) : Prop :=
  maxDepth ≤ path.length ∨ ∃ u ∈ path, sameLabel u.label? v.label? = true

/-- **A container that the walk opens**: it is not cut off. -/
def Opens (path : List Value) (v : Value) (shape : Shape Value) : Prop :=
  (∃ label, σ.container? v = some (label, shape)) ∧ shape.isClosed = false
    ∧ ¬ CutOff maxDepth path v

/-- **The walk gets from a value to another one**, each with the values on the way to it. -/
inductive Enters : List Value → Value → List Value → Value → Prop where
  | here {path : List Value} {v : Value} : Enters path v path v
  | inside {path path' : List Value} {v w u : Value} {shape : Shape Value} {p : Place}
      (ho : Opens σ maxDepth path v shape) (hu : σ.isUncopied shape = false)
      (hw : (p, w) ∈ σ.placesOf shape) (hp : p.sensitive tokens = false)
      (h : Enters (v :: path) w path' u) : Enters path v path' u

/-- **The walk opens a container that refuses to be made anew.** -/
def Refused (path : List Value) (v : Value) : Prop :=
  ∃ shape, Opens σ maxDepth path v shape ∧ σ.refuses shape = true

/-- **Attributes that can be masked**: wherever the walk gets, nothing refuses. -/
def Maskable (as : List Attr) : Prop :=
  ∀ a ∈ as, tokens.matchKey a.key = false →
    ∀ path v, Enters σ tokens maxDepth [] a.value path v → ¬ Refused σ maxDepth path v

/-- **What masking fails with**: a mapping did not let itself be copied, or a field was never
set. -/
def IsRefusal (failure : Failure) : Prop :=
  failure = .copyRefused ∨ ∃ owner field, failure = .noField owner field

variable {σ tokens maxDepth}

/-! ## One step -/

section Step

variable {inside : Value → Noted Value}

/-- A container made anew did not refuse. -/
theorem Remade.refuses_eq_false {shape shape' : Shape Value}
    (h : Remade σ tokens inside shape shape') : σ.refuses shape = false := by
  cases h with
  | @group _ _ _ hg _ =>
    cases shape with
    | tuple | named => rfl
    | object => simp [Objects.refuses, hg]
    | _ => cases hg
  | nested hn => obtain ⟨-, _, -, rfl | rfl⟩ := Objects.nested?_eq_some.mp hn <;> rfl
  | @mapping kind _ _ hk _ =>
    cases kind with
    | uncopyable => exact absurd rfl hk
    | _ => rfl
  | @object cls ss ts base _ hc h =>
    have hs : ss.any (·.value.isNone) = false := by
      rw [List.any_eq_false]
      intro s hs
      obtain ⟨t, -, v, w, hv, -⟩ := exists_mem_right h hs
      simp [hv]
    simp [Objects.refuses, hs]
  | _ => rfl

/-- **A container that does not refuse can be made anew** as soon as something can be put at
each of its places. -/
theorem exists_remade {shape : Shape Value} (hclosed : shape.isClosed = false)
    (hr : σ.refuses shape = false) (hu : σ.isUncopied shape = false)
    (h : ∀ p ∈ σ.placesOf shape, ∃ w, Put σ tokens inside p.1 p.2 w) :
    ∃ shape', Remade σ tokens inside shape shape' := by
  cases hg : σ.group? shape with
  | some as =>
    simp only [Objects.placesOf, hg, List.forall_mem_map] at h
    obtain ⟨bs, hbs⟩ := exists_forall₂ (R := fun (a b : Attr) => b.key = a.key
      ∧ Put σ tokens inside (.attr a.key) a.value b.value) fun a ha => by
        obtain ⟨w, hw⟩ := h a ha
        exact ⟨⟨a.key, w⟩, rfl, hw⟩
    exact ⟨_, .group hg hbs⟩
  | none =>
    have hput := h
    simp only [Objects.placesOf, hg] at h
    cases shape with
    | list cls vs =>
      rw [List.forall_mem_map] at h
      obtain ⟨ws, hws⟩ := exists_forall₂ h
      cases hn : Subclass.nests cls with
      | true => exact ⟨_, .nested (Objects.nested?_eq_some.mpr ⟨hg, cls, hn, .inl rfl⟩) hws⟩
      | false => exact ⟨_, .list hn hws⟩
    | tuple cls vs =>
      rw [List.forall_mem_map] at h
      obtain ⟨ws, hws⟩ := exists_forall₂ h
      cases hn : Subclass.nests cls with
      | true => exact ⟨_, .nested (Objects.nested?_eq_some.mpr ⟨hg, cls, hn, .inr rfl⟩) hws⟩
      | false => exact ⟨_, .tuple hg hn hws⟩
    | named name fs =>
      rw [List.forall_mem_map] at h
      obtain ⟨gs, hgs⟩ := exists_forall₂ (R := fun (f g : String × Value) => g.1 = f.1
        ∧ Put σ tokens inside (.field [f.1]) f.2 g.2) fun f hf => by
          obtain ⟨w, hw⟩ := h f hf
          exact ⟨(f.1, w), rfl, hw⟩
      exact ⟨_, .named hg hgs⟩
    | mapping kind es =>
      rw [List.forall_mem_map] at h
      obtain ⟨fs, hfs⟩ := exists_forall₂ (R := fun (e f : Value × Value) => f.1 = e.1
        ∧ Put σ tokens inside (.entry e.1) e.2 f.2) fun e he => by
          obtain ⟨w, hw⟩ := h e he
          exact ⟨(e.1, w), rfl, hw⟩
      exact ⟨_, .mapping (fun hk => by subst hk; cases hr) hfs⟩
    | object cls ss base =>
      have hc : cls.copies = true := by simpa [Objects.isUncopied, hg] using hu
      have hv : ∀ s ∈ ss, ∃ v, s.value = some v := by
        simp only [Objects.refuses, hg, hc, Option.isNone_none, Bool.true_and,
          List.any_eq_false] at hr
        exact fun s hs => Option.ne_none_iff_exists'.mp fun hn => hr s hs (by rw [hn]; rfl)
      obtain ⟨ts, hts⟩ := exists_forall₂ (R := fun (s t : Slot Value) => ∃ v w,
        s.value = some v ∧ t = { s with value := some w }
          ∧ Put σ tokens inside (.field s.names) v w) fun s hs => by
            obtain ⟨v, hv⟩ := hv s hs
            obtain ⟨w, hw⟩ := hput _ (Objects.mem_placesOf_object hg hclosed hs hv)
            exact ⟨_, v, w, hv, rfl, hw⟩
      exact ⟨_, .object hg hc hts⟩
    | attr key v =>
      obtain ⟨w, hw⟩ := h (.field ["value"], v) (by simp)
      exact ⟨_, .attr rfl hw⟩
    | site s =>
      obtain ⟨file, hf⟩ := h (.field ["file"], s.file) (by simp)
      obtain ⟨line, hl⟩ := h (.field ["line"], s.line) (by simp)
      obtain ⟨function, hn⟩ := h (.field ["function"], s.function) (by simp)
      exact ⟨.site ⟨file, line, function⟩, .site hf hl hn⟩
    | set frozen items => exact ⟨_, .set⟩

/-- Something can be put at a place where the walk comes to something, and at every sensitive
one. -/
theorem exists_put_iff {p : Place} {v : Value} :
    (∃ w, Put σ tokens inside p v w)
      ↔ (p.sensitive tokens = false → ∃ w, (inside v).result = .ok w) := by
  unfold Put
  split
  · rename_i hs
    exact ⟨fun _ hn => absurd hs (by simp [hn]), fun _ => ⟨_, rfl⟩⟩
  · rename_i hs
    exact ⟨fun h _ => h, fun h => h (Bool.eq_false_iff.mpr hs)⟩

/-- **A step of the walk comes to something** where the container is given up, and where it does
not refuse and the walk comes to something wherever it has to look. -/
theorem exists_container_eq_ok (hi : Faithful σ inside) {shape : Shape Value}
    (hs : shape.isClosed = false) :
    (∃ r, (container σ tokens inside shape).result = .ok r)
      ↔ σ.isUncopied shape = true ∨ (σ.refuses shape = false
        ∧ ∀ p ∈ σ.placesOf shape, p.1.sensitive tokens = false →
          ∃ w, (inside p.2).result = .ok w) := by
  constructor
  · rintro ⟨r, h⟩
    rcases remade_of_container h with ⟨hu, -⟩ | ⟨shape', -, h⟩
    · exact .inl hu
    · exact .inr ⟨h.refuses_eq_false, fun p hp hs => exists_put_iff.mp (h.exists_put_of hi hp) hs⟩
  · intro h
    by_cases hu : σ.isUncopied shape = true
    · exact ⟨_, container_of_isUncopied σ tokens inside hu⟩
    · obtain ⟨hr, h⟩ := h.resolve_left hu
      obtain ⟨shape', hm⟩ := exists_remade hs hr (Bool.eq_false_iff.mpr hu) fun p hp =>
        exists_put_iff.mpr (h p hp)
      exact ⟨_, hm.container_eq⟩

variable {P : Failure → Prop}

theorem failsOnly_entry (hi : ∀ v, (inside v).FailsOnly P) (sensitive : Bool) (v : Value) :
    (entry inside sensitive v).FailsOnly P := by
  unfold entry
  split
  · exact Noted.failsOnly_pure _
  · exact hi v

theorem failsOnly_field (hi : ∀ v, (inside v).FailsOnly P) (names : List String) (v : Value) :
    (field σ tokens inside names v).FailsOnly P := by
  unfold field
  split
  · exact Noted.failsOnly_pure _
  · exact hi v

theorem failsOnly_attrWith (hi : ∀ v, (inside v).FailsOnly P) (a : Attr) :
    (attrWith tokens inside a).FailsOnly P :=
  (failsOnly_entry hi _ _).bind fun _ => Noted.failsOnly_pure _

/-- **A step of the walk fails as what it looks into does**, or because the container
refuses. -/
theorem failsOnly_container (hi : ∀ v, (inside v).FailsOnly IsRefusal) (shape : Shape Value) :
    (container σ tokens inside shape).FailsOnly IsRefusal := by
  have rebuilt (make : Option Subclass → List Value → Shape Value) (cls : Option Subclass)
      (vs : List Value) : (rebuild make cls vs).FailsOnly IsRefusal := by
    intro failure h
    rw [rebuild_eq_ok] at h
    cases h
  unfold container
  split
  · refine Noted.FailsOnly.bind (.mapM fun a _ => failsOnly_attrWith hi a) fun _ => ?_
    exact Noted.failsOnly_pure _
  · cases shape with
    | list cls vs => exact .bind (.mapM fun v _ => hi v) fun _ => rebuilt _ _ _
    | tuple cls vs => exact .bind (.mapM fun v _ => hi v) fun _ => rebuilt _ _ _
    | named name fs =>
      refine .bind (.mapM fun f _ => ?_) fun _ => Noted.failsOnly_pure _
      exact (failsOnly_field hi _ _).bind fun _ => Noted.failsOnly_pure _
    | mapping kind es =>
      cases kind with
      | uncopyable => exact Noted.failsOnly_fail (.inl rfl)
      | plain | ordered | view =>
        refine .bind (.mapM fun e _ => ?_) fun _ => Noted.failsOnly_pure _
        exact (failsOnly_entry hi _ _).bind fun _ => Noted.failsOnly_pure _
    | object cls ss =>
      dsimp only
      split
      · refine .bind (.mapM fun s _ => ?_) fun _ => Noted.failsOnly_pure _
        unfold slot
        split
        · exact Noted.failsOnly_fail (.inr ⟨_, _, rfl⟩)
        · exact (failsOnly_field hi _ _).bind fun _ => Noted.failsOnly_pure _
      · nofun
    | attr key v => exact (failsOnly_field hi _ _).bind fun _ => Noted.failsOnly_pure _
    | site s =>
      refine Noted.FailsOnly.bind ?_ fun _ => Noted.failsOnly_pure _
      refine (failsOnly_field hi _ _).bind fun _ => ?_
      refine (failsOnly_field hi _ _).bind fun _ => ?_
      exact (failsOnly_field hi _ _).bind fun _ => Noted.failsOnly_pure _
    | set frozen items => exact Noted.failsOnly_pure _

end Step

/-! ## The whole walk -/

/-- The label of a container is that of the value it is. -/
theorem label?_of_container {v : Value} {label : Option Label} {shape : Shape Value}
    (h : σ.container? v = some (label, shape)) : v.label? = label := by
  cases v with
  | atom => cases h
  | node => cases h; rfl
  | shared l =>
    obtain ⟨_, -, hs⟩ := Option.map_eq_some_iff.mp h
    cases hs
    rfl

/-- The labels on a way with one more container on it. -/
theorem filterMap_label?_cons {v : Value} {label : Option Label} {shape : Shape Value}
    (h : σ.container? v = some (label, shape)) (path : List Value) :
    (v :: path).filterMap Value.label? = label.toList ++ path.filterMap Value.label? := by
  rw [List.filterMap_cons, label?_of_container h]
  cases label <;> rfl

/-- The labels on a way have that of a value among them if the value is one of those on it. -/
theorem any_contains_iff {path : List Value} {v : Value} :
    v.label?.any (path.filterMap Value.label?).contains = true
      ↔ ∃ u ∈ path, sameLabel u.label? v.label? = true := by
  rw [Option.any_eq_true]
  simp only [List.contains_iff_mem, List.mem_filterMap, sameLabel, Bool.and_eq_true,
    decide_eq_true_eq]
  constructor
  · rintro ⟨l, hv, u, hu, hl⟩
    exact ⟨u, hu, by rw [hl]; rfl, by rw [hl, hv]⟩
  · rintro ⟨u, hu, hs, he⟩
    obtain ⟨l, hl⟩ := Option.isSome_iff_exists.mp hs
    exact ⟨l, he ▸ hl, u, hu, hl⟩

/-- **What the walk sees of the way to a value**: the labels on it and the depth that is left
decide whether the value is cut off. -/
theorem isCut_iff {path : List Value} {v : Value} :
    IsCut (maxDepth.toNat - path.length) (path.filterMap Value.label?) v.label?
      ↔ CutOff maxDepth path v :=
  or_congr (by omega) any_contains_iff

/-- A value that is not opened is left alone or cut off. -/
theorem exists_walk_of_not_opens {path : List Value} {v : Value}
    (h : ¬ ∃ shape, Opens σ maxDepth path v shape) :
    ∃ r, (walk σ tokens (maxDepth.toNat - path.length) (path.filterMap Value.label?) v).result
      = .ok r := by
  by_cases hv : σ.IsWalked v
  · obtain ⟨label, shape, hc, hs⟩ := hv
    have hcut : CutOff maxDepth path v :=
      by_contra fun hn => h ⟨shape, ⟨label, hc⟩, hs, hn⟩
    rw [← isCut_iff, label?_of_container hc] at hcut
    exact ⟨_, by rw [walk_of_cut hc hs hcut]; rfl⟩
  · exact ⟨v, by rw [walk_of_not_isWalked hv]; rfl⟩

/-- A value that is opened is made anew, with the value itself on the way to what is in it. -/
theorem walk_of_opens {path : List Value} {v : Value} {shape : Shape Value}
    (h : Opens σ maxDepth path v shape) :
    walk σ tokens (maxDepth.toNat - path.length) (path.filterMap Value.label?) v
      = container σ tokens (walk σ tokens (maxDepth.toNat - (v :: path).length)
          ((v :: path).filterMap Value.label?)) shape := by
  obtain ⟨⟨label, hc⟩, hs, hn⟩ := h
  rw [← isCut_iff, label?_of_container hc] at hn
  have hd : maxDepth.toNat - path.length = maxDepth.toNat - (v :: path).length + 1 := by
    have h0 : maxDepth.toNat - path.length ≠ 0 := fun h0 => hn (.inl h0)
    rw [List.length_cons]
    omega
  rw [hd, walk_of_open hc hs fun hl => hn (.inr hl), filterMap_label?_cons hc]

/-- A value is opened as one container. -/
theorem Opens.shape_eq {path : List Value} {v : Value} {shape shape' : Shape Value}
    (h : Opens σ maxDepth path v shape) (h' : Opens σ maxDepth path v shape') :
    shape' = shape := by
  obtain ⟨⟨_, hc⟩, -, -⟩ := h
  obtain ⟨⟨_, hc'⟩, -, -⟩ := h'
  rw [hc] at hc'
  cases hc'
  rfl

/-- A container that is given up does not refuse. -/
theorem refuses_of_isUncopied {shape : Shape Value} (h : σ.isUncopied shape = true) :
    σ.refuses shape = false := by
  cases shape with
  | object cls slots base =>
    obtain ⟨-, hc⟩ : _ ∧ cls.copies = false := by simpa [Objects.isUncopied] using h
    simp [Objects.refuses, hc]
  | _ => cases h

/-- **Where the walk gets to from a value that it opens**: the value itself, and whatever it
gets to from what is in it. -/
theorem enters_iff_of_opens {path path' : List Value} {v u : Value} {shape : Shape Value}
    (h : Opens σ maxDepth path v shape) :
    Enters σ tokens maxDepth path v path' u ↔ (path' = path ∧ u = v)
      ∨ (σ.isUncopied shape = false ∧ ∃ p w, (p, w) ∈ σ.placesOf shape
        ∧ p.sensitive tokens = false ∧ Enters σ tokens maxDepth (v :: path) w path' u) := by
  constructor
  · rintro (_ | ⟨ho, hu, hw, hp, he⟩)
    · exact .inl ⟨rfl, rfl⟩
    · cases h.shape_eq ho
      exact .inr ⟨hu, _, _, hw, hp, he⟩
  · rintro (⟨rfl, rfl⟩ | ⟨hu, p, w, hw, hp, he⟩)
    · exact .here
    · exact .inside h hu hw hp he

/-- **The walk comes to something exactly where nothing refuses on its way.** -/
theorem exists_walk_eq_ok {path : List Value} {v : Value} :
    (∃ r, (walk σ tokens (maxDepth.toNat - path.length) (path.filterMap Value.label?) v).result
        = .ok r)
      ↔ ∀ path' u, Enters σ tokens maxDepth path v path' u → ¬ Refused σ maxDepth path' u := by
  -- by induction on the depth that is left
  induction hd : maxDepth.toNat - path.length using Nat.strongRecOn generalizing path v with
  | _ left ih =>
  rw [← hd]
  by_cases ho : ∃ shape, Opens σ maxDepth path v shape
  · obtain ⟨shape, ho⟩ := ho
    have hlt : maxDepth.toNat - (v :: path).length < left := by
      have hn : ¬ maxDepth ≤ path.length := fun hn => ho.2.2 (.inl hn)
      rw [List.length_cons]
      omega
    have hin (w : Value) := @ih _ hlt (v :: path) w rfl
    simp only [walk_of_opens ho, exists_container_eq_ok (faithful_walk _ _) ho.2.1, hin,
      enters_iff_of_opens ho]
    constructor
    · rintro (hu | ⟨hr, h⟩) path' u (⟨rfl, rfl⟩ | ⟨hu', p, w, hw, hp, he⟩) hf
      · obtain ⟨shape', ho', hr⟩ := hf
        rw [ho.shape_eq ho', refuses_of_isUncopied hu] at hr
        cases hr
      · rw [hu] at hu'
        cases hu'
      · obtain ⟨shape', ho', hr'⟩ := hf
        rw [ho.shape_eq ho', hr] at hr'
        cases hr'
      · exact h _ hw hp path' u he hf
    · intro h
      by_cases hu : σ.isUncopied shape = true
      · exact .inl hu
      · refine .inr ⟨?_, fun q hq hp path' u he => ?_⟩
        · have hf := h path v (.inl ⟨rfl, rfl⟩)
          exact Bool.eq_false_iff.mpr fun hr => hf ⟨shape, ho, hr⟩
        · exact h path' u (.inr ⟨Bool.eq_false_iff.mpr hu, q.1, q.2, hq, hp, he⟩)
  · refine iff_of_true (exists_walk_of_not_opens ho) fun path' u he => ?_
    cases he with
    | here => exact fun ⟨shape, h, _⟩ => ho ⟨shape, h⟩
    | inside h => exact absurd ⟨_, h⟩ ho

/-- **The walk fails in no other way.** -/
theorem failsOnly_walk (left : Nat) (around : List Label) (v : Value) :
    (walk σ tokens left around v).FailsOnly IsRefusal := by
  induction left generalizing around v with
  | zero =>
    by_cases hv : σ.IsWalked v
    · obtain ⟨label, shape, hc, hs⟩ := hv
      rw [walk_of_cut hc hs (.inl rfl)]
      exact Noted.failsOnly_pure _
    · rw [walk_of_not_isWalked hv]
      exact Noted.failsOnly_pure _
  | succ n ih =>
    by_cases hv : σ.IsWalked v
    · obtain ⟨label, shape, hc, hs⟩ := hv
      by_cases hl : label.any around.contains = true
      · rw [walk_of_cut hc hs (.inr hl)]
        exact Noted.failsOnly_pure _
      · rw [walk_of_open hc hs hl]
        exact failsOnly_container (fun w => ih _ w) shape
    · rw [walk_of_not_isWalked hv]
      exact Noted.failsOnly_pure _

theorem failsOnly_attrs (as : List Attr) :
    (attrs σ tokens maxDepth as).FailsOnly IsRefusal := by
  unfold attrs
  split
  · exact Noted.failsOnly_pure _
  · exact .mapM fun a _ => failsOnly_attrWith (fun v => failsOnly_walk _ _ v) a

/-- **An attribute list comes out masked exactly where nothing in it refuses.** Without tokens
it comes out as it is, whatever it holds. -/
theorem exists_attrs_eq_ok {as : List Attr} :
    (∃ bs, (attrs σ tokens maxDepth as).result = .ok bs)
      ↔ tokens = [] ∨ Maskable σ tokens maxDepth as := by
  by_cases ht : tokens = []
  · subst ht
    exact iff_of_true ⟨as, rfl⟩ (.inl rfl)
  · simp only [attrs_eq_ok ht, ht, false_or]
    have hwalk (v : Value) := @exists_walk_eq_ok σ tokens maxDepth [] v
    constructor
    · rintro ⟨bs, h⟩ a ha hk
      obtain ⟨b, -, -, hb⟩ := exists_mem_right h ha
      exact (hwalk _).mp (exists_put_iff.mp ⟨b.value, hb⟩ hk)
    · intro h
      refine exists_forall₂ fun a ha => ?_
      obtain ⟨w, hw⟩ := (exists_put_iff (p := .attr a.key)).mpr fun hk =>
        (hwalk a.value).mpr (h a ha hk)
      exact ⟨⟨a.key, w⟩, rfl, hw⟩

end Masking

end DiscreetLog
