import DiscreetLog.Proofs.Chain.Derivation
import DiscreetLog.Proofs.Chain.Stage

/-!
# The leaves of a chain

A chain is read here from its leaves: which sinks stand at its ends, left to right, and which
stages are above each of them. A chain takes a level if one of its leaves does (`enabled_eq`), and
a derivation of the chain is one of each leaf, with the attributes that are bound masked by the
stages above it (`exists_derive`). So the tree of a chain matters only as far as it says what is
above what.

A stage may have no leaf below it, and attributes that are bound are masked there all the same.
That is why the stages have a list of their own.
-/

namespace DiscreetLog

/-- **A leaf of a chain**: a sink, and the policies of the stages above it, the outermost one
first. -/
structure Leaf where
  policies : List Policy
  sink : Sink

/-- A leaf below one more stage. -/
def Leaf.below (p : Policy) (l : Leaf) : Leaf := { l with policies := p :: l.policies }

namespace Chain

mutual

/-- **The leaves of a chain**, left to right. A sink that stands at several ends is a leaf at each
of them. -/
def leaves : Chain → List Leaf
  | .sink s => [⟨[], s⟩]
  | .masking p inner => (leaves inner).map (·.below p)
  | .fanOut branches => leavesAll branches

/-- The leaves of some chains. -/
def leavesAll : List Chain → List Leaf
  | [] => []
  | c :: cs => leaves c ++ leavesAll cs

end

mutual

/-- **The masking stages of a chain**, each as the policies down to it, the outermost one
first. -/
def stages : Chain → List (List Policy)
  | .sink _ => []
  | .masking p inner => [p] :: (stages inner).map (p :: ·)
  | .fanOut branches => stagesAll branches

/-- The masking stages of some chains. -/
def stagesAll : List Chain → List (List Policy)
  | [] => []
  | c :: cs => stages c ++ stagesAll cs

end

end Chain

/-- **No stage has a scrubber**, so events are masked in their attributes alone. -/
abbrev Policy.Unscrubbed (stages : List (List Policy)) : Prop :=
  ∀ ps ∈ stages, ∀ p ∈ ps, p.scrubber = none

/-- **Attributes masked by one policy after the other.** -/
def Policy.attrsAll (σ : Objects) : List Policy → List Attr → Noted (List Attr)
  | [], as => pure as
  | p :: ps, as => do attrsAll σ ps (← p.attrs σ as)

/-- **Attributes can be masked by one policy after the other.** -/
def Policy.MaskAll (σ : Objects) (ps : List Policy) (as : List Attr) : Prop :=
  ∃ bs, (attrsAll σ ps as).result = .ok bs

/-- **A derivation as it is below some stages**: the attributes are masked by one after the other,
and the name of a group stays as it is. -/
inductive Derivation.MaskedBy (σ : Objects) (ps : List Policy) :
    Derivation → Derivation → Prop where
  | bind {as bs : List Attr} (h : (Policy.attrsAll σ ps as).result = .ok bs) :
      MaskedBy σ ps (.bind as) (.bind bs)
  | openGroup {name : String} : MaskedBy σ ps (.openGroup name) (.openGroup name)

namespace Leaf

variable (σ : Objects)

/-- **A leaf to which attributes were bound**, masked by the stages above it. -/
def Bound (as : List Attr) (l l' : Leaf) : Prop :=
  ∃ bs, (Policy.attrsAll σ l.policies as).result = .ok bs
    ∧ l' = { l with sink := l.sink.bind bs }

/-- **A leaf that was derived**, with what was bound masked by the stages above it. -/
def Derived (ds : List Derivation) (l l' : Leaf) : Prop :=
  ∃ ds', List.Forall₂ (Derivation.MaskedBy σ l.policies) ds ds'
    ∧ l' = { l with sink := l.sink.derive ds' }

end Leaf

variable {σ : Objects}

/-- One more policy. -/
theorem Policy.attrsAll_cons_eq_ok {p : Policy} {ps : List Policy} {as bs cs : List Attr}
    (h : (p.attrs σ as).result = .ok bs) :
    (attrsAll σ (p :: ps) as).result = .ok cs ↔ (attrsAll σ ps bs).result = .ok cs := by
  rw [attrsAll, Noted.bind_eq_ok]
  constructor
  · rintro ⟨bs', h', hcs⟩
    rw [h] at h'
    cases h'
    exact hcs
  · exact fun hcs => ⟨bs, h, hcs⟩

/-- What the first of some policies makes of attributes that they all can mask. -/
theorem Policy.MaskAll.head {p : Policy} {ps : List Policy} {as : List Attr}
    (h : MaskAll σ (p :: ps) as) : ∃ bs, (p.attrs σ as).result = .ok bs ∧ MaskAll σ ps bs := by
  obtain ⟨cs, h⟩ := h
  obtain ⟨bs, hbs, hcs⟩ := Noted.bind_eq_ok.mp h
  exact ⟨bs, hbs, cs, hcs⟩

namespace Sink

/-- A derived sink takes the same levels. -/
theorem enabled_derive (level : Int) (s : Sink) (ds : List Derivation) :
    (s.derive ds).enabled level = s.enabled level := by
  have hbind (s : Sink) (as : List Attr) : (s.bind as).enabled level = s.enabled level := by
    cases s with
    | keeping => rfl
    | _ =>
      simp only [bind, mapScope, enabled, Scope.enabled, Scope.bind]
      split <;> rfl
  have hopen (s : Sink) (name : String) :
      (s.openGroup name).enabled level = s.enabled level := by
    cases s with
    | keeping => rfl
    | _ =>
      simp only [openGroup, mapScope, enabled, Scope.enabled, Scope.openGroup]
      split <;> rfl
  induction ds generalizing s with
  | nil => rfl
  | cons d ds ih =>
    cases d with
    | bind as => rw [derive, ih, hbind]
    | openGroup name => rw [derive, ih, hopen]

end Sink

/-- **Of derived leaves those take a level** that took it before. -/
theorem Leaf.forall₂_filter_enabled {ds : List Derivation} {ls ls' : List Leaf} (level : Int)
    (h : List.Forall₂ (Derived σ ds) ls ls') :
    List.Forall₂ (Derived σ ds) (ls.filter (·.sink.enabled level))
      (ls'.filter (·.sink.enabled level)) := by
  refine List.rel_filter (fun l l' hl => ?_) h
  obtain ⟨ds', -, rfl⟩ := hl
  dsimp only
  rw [Sink.enabled_derive]

namespace Chain

mutual

/-- **A chain takes a level if one of its leaves does.** -/
theorem enabled_eq (level : Int) :
    (c : Chain) → c.enabled level = c.leaves.any (·.sink.enabled level)
  | .sink s => (Bool.or_false _).symm
  | .masking p inner => by
    rw [enabled, leaves, List.any_map, enabled_eq level inner]
    rfl
  | .fanOut branches => anyEnabled_eq level branches

theorem anyEnabled_eq (level : Int) :
    (cs : List Chain) → anyEnabled level cs = (leavesAll cs).any (·.sink.enabled level)
  | [] => rfl
  | c :: cs => by
    rw [anyEnabled, leavesAll, List.any_append, enabled_eq level c, anyEnabled_eq level cs]

end

/-- A chain that does not take a level has no leaf that does. -/
theorem filter_leaves_eq_nil {level : Int} {c : Chain} (h : ¬ c.enabled level = true) :
    c.leaves.filter (·.sink.enabled level) = [] := by
  rw [enabled_eq, Bool.not_eq_true, List.any_eq_false] at h
  exact List.filter_eq_nil_iff.mpr h

/-! ## Opening a group -/

mutual

/-- **A group is opened on each leaf.** -/
theorem leaves_openGroup (name : String) : (c : Chain) →
    (c.openGroup name).leaves = c.leaves.map fun l => { l with sink := l.sink.openGroup name }
  | .sink s => rfl
  | .masking p inner => by
    rw [openGroup, leaves, leaves, leaves_openGroup name inner, List.map_map, List.map_map]
    rfl
  | .fanOut branches => leavesAll_openGroupAll name branches

theorem leavesAll_openGroupAll (name : String) : (cs : List Chain) →
    leavesAll (openGroupAll name cs)
      = (leavesAll cs).map fun l => { l with sink := l.sink.openGroup name }
  | [] => rfl
  | c :: cs => by
    rw [openGroupAll, leavesAll, leavesAll, List.map_append, leaves_openGroup name c,
      leavesAll_openGroupAll name cs]

end

mutual

theorem stages_openGroup (name : String) : (c : Chain) → (c.openGroup name).stages = c.stages
  | .sink s => rfl
  | .masking p inner => by rw [openGroup, stages, stages, stages_openGroup name inner]
  | .fanOut branches => stagesAll_openGroupAll name branches

theorem stagesAll_openGroupAll (name : String) : (cs : List Chain) →
    stagesAll (openGroupAll name cs) = stagesAll cs
  | [] => rfl
  | c :: cs => by
    rw [openGroupAll, stagesAll, stagesAll, stages_openGroup name c,
      stagesAll_openGroupAll name cs]

end

/-! ## Binding attributes -/

mutual

/-- **Attributes are bound on each leaf**, masked by the stages above it, if every stage can mask
them. -/
theorem exists_bind {as : List Attr} : (c : Chain) → (∀ ps ∈ c.stages, Policy.MaskAll σ ps as) →
    ∃ c', (c.bind σ as).result = .ok c' ∧ c'.stages = c.stages
      ∧ List.Forall₂ (Leaf.Bound σ as) c.leaves c'.leaves
  | .sink s, _ => ⟨.sink (s.bind as), rfl, rfl, .cons ⟨as, rfl, rfl⟩ .nil⟩
  | .masking p inner, h => by
    obtain ⟨bs, hbs, -⟩ := (h [p] List.mem_cons_self).head
    have hinner : ∀ ps ∈ inner.stages, Policy.MaskAll σ ps bs := fun ps hps => by
      obtain ⟨cs, hcs⟩ := h (p :: ps) (List.mem_cons_of_mem _ (List.mem_map_of_mem hps))
      exact ⟨cs, (Policy.attrsAll_cons_eq_ok hbs).mp hcs⟩
    obtain ⟨inner', hc, hst, hl⟩ := exists_bind inner hinner
    refine ⟨.masking p inner', ?_, by rw [stages, stages, hst], ?_⟩
    · rw [bind_masking]
      exact Noted.bind_eq_ok.mpr ⟨bs, hbs, Noted.map_eq_ok.mpr ⟨inner', hc, rfl⟩⟩
    · rw [leaves, leaves, List.forall₂_map_left_iff, List.forall₂_map_right_iff]
      refine hl.imp ?_
      rintro l _ ⟨cs, hcs, rfl⟩
      exact ⟨cs, (Policy.attrsAll_cons_eq_ok hbs).mpr hcs, rfl⟩
  | .fanOut branches, h => by
    obtain ⟨branches', hc, hst, hl⟩ := exists_bindAll branches h
    refine ⟨.fanOut branches', ?_, hst, hl⟩
    rw [bind]
    exact Noted.map_eq_ok.mpr ⟨branches', hc, rfl⟩

theorem exists_bindAll {as : List Attr} : (cs : List Chain) →
    (∀ ps ∈ stagesAll cs, Policy.MaskAll σ ps as) →
    ∃ cs', (bindAll σ as cs).result = .ok cs' ∧ stagesAll cs' = stagesAll cs
      ∧ List.Forall₂ (Leaf.Bound σ as) (leavesAll cs) (leavesAll cs')
  | [], _ => ⟨[], rfl, rfl, .nil⟩
  | c :: cs, h => by
    obtain ⟨c', hc, hst, hl⟩ := exists_bind c fun ps hps => h ps (List.mem_append_left _ hps)
    obtain ⟨cs', hcs, hsts, hls⟩ :=
      exists_bindAll cs fun ps hps => h ps (List.mem_append_right _ hps)
    refine ⟨c' :: cs', ?_, by rw [stagesAll, stagesAll, hst, hsts], ?_⟩
    · rw [bindAll]
      exact Noted.bind_eq_ok.mpr ⟨c', hc, Noted.map_eq_ok.mpr ⟨cs', hcs, rfl⟩⟩
    · rw [leavesAll, leavesAll]
      exact List.rel_append hl hls

end

/-! ## What is so of all sinks -/

/-- **Something is so of all sinks of a chain.** -/
def All (A : Sink → Prop) (c : Chain) : Prop := ∀ l ∈ c.leaves, A l.sink

/-- A stage adds no sinks. -/
theorem all_masking {A : Sink → Prop} {p : Policy} {inner : Chain} :
    (masking p inner).All A ↔ inner.All A := by
  simp only [All, leaves, List.forall_mem_map]
  rfl

mutual

/-- **What attributes that are bound leave so of a sink they leave so of all.** -/
theorem All.bind {A : Sink → Prop} (hbind : ∀ s as, A s → A (s.bind as)) {as : List Attr} :
    {c c' : Chain} → c.All A → (c.bind σ as).result = .ok c' → c'.All A
  | .sink s, _, hc, h => by
    cases h
    intro l hl
    rw [List.mem_singleton.mp hl]
    exact hbind s as (hc ⟨[], s⟩ List.mem_cons_self)
  | .masking p inner, _, hc, h => by
    rw [bind_masking] at h
    obtain ⟨bs, -, h⟩ := Noted.bind_eq_ok.mp h
    obtain ⟨inner', hinner, rfl⟩ := Noted.map_eq_ok.mp h
    exact all_masking.mpr ((all_masking.mp hc).bind hbind hinner)
  | .fanOut branches, _, hc, h => by
    rw [Chain.bind] at h
    obtain ⟨branches', hbranches, rfl⟩ := Noted.map_eq_ok.mp h
    exact all_of_bindAll hbind hc hbranches

theorem all_of_bindAll {A : Sink → Prop} (hbind : ∀ s as, A s → A (s.bind as)) {as : List Attr} :
    {cs cs' : List Chain} → (∀ l ∈ leavesAll cs, A l.sink) →
    (bindAll σ as cs).result = .ok cs' → ∀ l ∈ leavesAll cs', A l.sink
  | [], _, hc, h => by
    cases h
    exact hc
  | c :: cs, _, hc, h => by
    rw [bindAll] at h
    obtain ⟨c', hc', h⟩ := Noted.bind_eq_ok.mp h
    obtain ⟨cs', hcs', rfl⟩ := Noted.map_eq_ok.mp h
    rw [leavesAll] at hc ⊢
    have hfirst : c.All A := fun l hl => hc l (List.mem_append_left _ hl)
    have hrest := all_of_bindAll hbind (fun l hl => hc l (List.mem_append_right _ hl)) hcs'
    exact List.forall_mem_append.mpr ⟨hfirst.bind hbind hc', hrest⟩

end

/-- **What derivations leave so of a sink they leave so of all.** -/
theorem All.derive {A : Sink → Prop} (hbind : ∀ s as, A s → A (s.bind as))
    (hopen : ∀ s name, A s → A (s.openGroup name)) {ds : List Derivation} {c c' : Chain}
    (hc : c.All A) (h : (c.derive σ ds).result = .ok c') : c'.All A := by
  induction ds generalizing c with
  | nil =>
    cases h
    exact hc
  | cons d ds ih =>
    cases d with
    | bind as =>
      rw [Chain.derive] at h
      obtain ⟨c₁, h₁, h⟩ := Noted.bind_eq_ok.mp h
      exact ih (hc.bind hbind h₁) h
    | openGroup name =>
      refine ih (c := c.openGroup name) ?_ h
      intro l hl
      rw [leaves_openGroup] at hl
      obtain ⟨l₀, hl₀, rfl⟩ := List.mem_map.mp hl
      exact hopen _ name (hc l₀ hl₀)

/-! ## Any derivations -/

/-- **A derived chain has the stages and the leaves of the chain**, each leaf derived in the same
way. There is one as soon as every stage can mask whatever is bound. -/
theorem exists_derive {ds : List Derivation} {c : Chain}
    (h : ∀ as, .bind as ∈ ds → ∀ ps ∈ c.stages, Policy.MaskAll σ ps as) :
    ∃ c', (c.derive σ ds).result = .ok c' ∧ c'.stages = c.stages
      ∧ List.Forall₂ (Leaf.Derived σ ds) c.leaves c'.leaves := by
  induction ds generalizing c with
  | nil => exact ⟨c, rfl, rfl, List.forall₂_same.mpr fun l _ => ⟨[], .nil, rfl⟩⟩
  | cons d ds ih =>
    have htail : ∀ as, .bind as ∈ ds → ∀ ps ∈ c.stages, Policy.MaskAll σ ps as :=
      fun as has => h as (List.mem_cons_of_mem _ has)
    cases d with
    | bind as =>
      obtain ⟨c₁, hc₁, hst₁, hl₁⟩ := exists_bind c (h as List.mem_cons_self)
      obtain ⟨c', hc, hst, hl⟩ := ih (hst₁ ▸ htail)
      refine ⟨c', ?_, hst.trans hst₁, ?_⟩
      · rw [derive]
        exact Noted.bind_eq_ok.mpr ⟨c₁, hc₁, hc⟩
      · refine forall₂_trans ?_ hl₁ hl
        rintro l _ _ ⟨bs, hbs, rfl⟩ ⟨ds', hds, rfl⟩
        exact ⟨.bind bs :: ds', .cons (.bind hbs) hds, rfl⟩
    | openGroup name =>
      have hst₁ := stages_openGroup name c
      obtain ⟨c', hc, hst, hl⟩ := ih (c := c.openGroup name) (hst₁ ▸ htail)
      refine ⟨c', hc, hst.trans hst₁, ?_⟩
      rw [leaves_openGroup, List.forall₂_map_left_iff] at hl
      refine hl.imp ?_
      rintro l _ ⟨ds', hds, rfl⟩
      exact ⟨.openGroup name :: ds', .cons .openGroup hds, rfl⟩

end Chain

end DiscreetLog
