import DiscreetLog.Proofs.Masking.Coverage
import DiscreetLog.Proofs.Masking.Frame

/-!
# What becomes of an attribute

An attribute carries its own key, and the rule for it is that it keeps the key and that the mask
takes the place of its value if the key is sensitive (`ByKey`). The walk goes by this rule for the
attributes of an attribute list and of a group. An attribute that stands anywhere else – as the
value of another one, among the items of a list, in a tuple that holds anything besides attributes,
under a key of a mapping, in a field – is to the walk an object with two fields, which are called
*key* and *value*. The key that it carries is then a text in the first of them, and no name.

So it depends on what stands beside an attribute whether it is masked, and when one that stands
alone comes out by the rule can be said exactly (`AloneByKey`).
-/

namespace DiscreetLog

namespace Masking

/-- **A text that reads as the mask.** -/
def IsMask (v : Value) : Prop := ∃ label, v = .atom label (.text mask)

variable (σ : Objects) (tokens : Tokens) (maxDepth : Int)

/-- **An attribute and the same attribute masked by its key.** -/
structure ByKey (a b : Attr) : Prop where
  key : b.key = a.key
  value : tokens.matchKey a.key = true → IsMask b.value

/-- **The value of an attribute that stands alone is hidden**, given the containers around it: it is
a text, which has the mask as its blank, if the name of the field is sensitive, and otherwise the
mask or a container that is replaced. -/
def HiddenAlone (path : List Value) (v : Value) : Prop :=
  if tokens.matchKey "value" = true then ∃ label s, v = .atom label (.text s)
  else IsMask v ∨ ∃ label shape, σ.container? v = some (label, shape)
    ∧ shape.isClosed = false ∧ Replaced σ maxDepth path v shape

/-- **An attribute that stands alone comes out by its key** under these conditions, given the
containers around its value, of which it is the last one itself. -/
structure AloneByKey (path : List Value) (a : Attr) : Prop where
  /-- The name of the first field is not sensitive, or the mask is what it holds anyway. -/
  key : tokens.matchKey "key" = true → a.key = mask
  value : tokens.matchKey a.key = true → HiddenAlone σ tokens maxDepth path a.value

/-- **What becomes of the attributes at the end of a way**, given the value there, the containers
on the way and what stands at the end of the same way in the result. The attributes of a group come
out by their keys, and one that stands alone does exactly under the conditions for it. -/
structure AttributesAt (path : List Value) (u u' : Value) : Prop where
  group : ∀ label shape as, σ.container? u = some (label, shape) → σ.group? shape = some as →
    ∃ label' shape' bs, σ.container? u' = some (label', shape') ∧ σ.group? shape' = some bs
      ∧ List.Forall₂ (ByKey tokens) as bs
  alone : ∀ a, σ.attr? u = some a → ∃ b, σ.attr? u' = some b
    ∧ (ByKey tokens a b ↔ AloneByKey σ tokens maxDepth (u :: path) a)

/-- What becomes of a way into a value that is masked. Without tokens nothing is made anew. -/
def wayInto (way : List Nat) (v : Value) : List Nat :=
  if tokens.isEmpty then way else σ.moved way v

/-- **What becomes of the attributes in a value**, wherever the walk gets in it. -/
def AttributesIn (v r : Value) : Prop :=
  ∀ way path u, Leads σ tokens maxDepth [] v way path u → ¬ CutOff maxDepth path u →
    ∃ u', σ.at? (wayInto σ tokens way v) r = some u' ∧ AttributesAt σ tokens maxDepth path u u'

variable {σ tokens maxDepth}

/-! ## What comes out as the mask -/

/-- **The blank of a value is the mask exactly if the value is a text.** -/
theorem isMask_blank_iff {v : Value} :
    IsMask (v.blank σ) ↔ ∃ label s, v = .atom label (.text s) := by
  have hshape (shape : Shape Value) : ¬ IsMask shape.blank := by
    rintro ⟨label, h⟩
    unfold Shape.blank at h
    split at h <;> (try unfold Shape.emptySequence at h) <;> (try split at h) <;> cases h
  cases v with
  | atom label a =>
    cases a with
    | text s => exact iff_of_true ⟨none, rfl⟩ ⟨label, s, rfl⟩
    | foreign text makes =>
      refine iff_of_false ?_ nofun
      cases makes <;> rintro ⟨_, h⟩ <;> cases h
    | _ => exact iff_of_false (fun ⟨_, h⟩ => nomatch h) nofun
  | node label shape => exact iff_of_false (hshape shape) nofun
  | shared l =>
    refine iff_of_false ?_ nofun
    rw [blank_shared]
    cases σ.shape? l with
    | none => exact fun ⟨_, h⟩ => nomatch h
    | some shape => exact hshape shape

/-- **The walk comes to the mask** from the mask, and from a container that is replaced. -/
theorem isMask_walk_iff {path : List Value} {v r : Value}
    (h : (walk σ tokens (maxDepth.toNat - path.length) (path.filterMap Value.label?) v).result
      = .ok r) :
    IsMask r ↔ IsMask v ∨ ∃ label shape, σ.container? v = some (label, shape)
      ∧ shape.isClosed = false ∧ Replaced σ maxDepth path v shape := by
  by_cases hv : σ.IsWalked v
  · obtain ⟨label, shape, hc, hs⟩ := hv
    have hn : ¬ IsMask v := fun ⟨_, he⟩ => by
      rw [he] at hc
      cases hc
    rcases frame_of_walk hc hs h with ⟨rfl, hr⟩ | ⟨hr, shape', rfl, -⟩
    · exact iff_of_true ⟨none, rfl⟩ (.inr ⟨label, shape, hc, hs, hr⟩)
    · refine iff_of_false (fun ⟨_, he⟩ => nomatch he) ?_
      rintro (he | ⟨_, _, hc', -, hr'⟩)
      · exact hn he
      · rw [hc] at hc'
        cases hc'
        exact hr hr'
  · rw [walk_of_not_isWalked hv, Noted.pure_eq_ok] at h
    subst h
    refine ⟨.inl, ?_⟩
    rintro (he | ⟨label, shape, hc, hs, -⟩)
    · exact he
    · exact absurd ⟨label, shape, hc, hs⟩ hv

/-! ## An attribute in a container made anew -/

section Step

variable {inside : Value → Noted Value}

/-- What is put under the key of an attribute masks it by its key. -/
theorem byKey_of_put {a b : Attr} (hk : b.key = a.key)
    (h : Put σ tokens inside (.attr a.key) a.value b.value) : ByKey tokens a b := by
  refine ⟨hk, fun hm => ⟨none, ?_⟩⟩
  rwa [Put, if_pos (show (Place.attr a.key).sensitive tokens = true from hm)] at h

/-- **The attributes of a group made anew come out by their keys.** -/
theorem Remade.byKey {shape shape' : Shape Value} (h : Remade σ tokens inside shape shape')
    {as : List Attr} (hg : σ.group? shape = some as) :
    ∃ bs, σ.group? shape' = some bs ∧ List.Forall₂ (ByKey tokens) as bs := by
  cases h with
  | @group _ as' bs hg' h =>
    rw [hg'] at hg
    cases hg
    exact ⟨bs, Objects.group?_toValue none bs, h.imp fun _ _ hb => byKey_of_put hb.1 hb.2⟩
  | tuple hn | named hn | object hn =>
    rw [hn] at hg
    cases hg
  | nested hn =>
    rw [(Objects.nested?_eq_some.mp hn).1] at hg
    cases hg
  | _ => cases hg

/-- **An attribute that is made anew as an object** keeps its key unless the field for it is
sensitive, and its value comes out as that of the other field. -/
theorem Remade.alone {shape' : Shape Value} {a : Attr}
    (h : Remade σ tokens inside (.attr a.key a.value) shape') :
    ∃ b : Attr, shape' = .attr b.key b.value
      ∧ b.key = (if tokens.matchKey "key" then mask else a.key)
      ∧ Put σ tokens inside (.field ["value"]) a.value b.value := by
  cases h with
  | group hg => cases hg
  | nested hn => cases hn
  | @attr _ key' _ w hk hv => exact ⟨⟨key', w⟩, rfl, hk, hv⟩

end Step

/-- **What is put in the second field is the mask** if the value there is hidden. -/
theorem isMask_iff_hiddenAlone {path : List Value} {v w : Value}
    (h : Put σ tokens (walk σ tokens (maxDepth.toNat - path.length)
      (path.filterMap Value.label?)) (.field ["value"]) v w) :
    IsMask w ↔ HiddenAlone σ tokens maxDepth path v := by
  have hs : (Place.field ["value"]).sensitive tokens = tokens.matchKey "value" := by
    rw [Place.sensitive_field, Tokens.matchAny, List.any_cons, List.any_nil, Bool.or_false]
  rw [Put, hs] at h
  rw [HiddenAlone]
  split at h
  · rename_i hm
    rw [if_pos hm, h]
    exact isMask_blank_iff
  · rename_i hm
    rw [if_neg hm]
    exact isMask_walk_iff h

/-- **When an attribute that stands alone comes out by its key.** -/
theorem byKey_iff_aloneByKey {path : List Value} {a b : Attr}
    (hk : b.key = if tokens.matchKey "key" then mask else a.key)
    (hv : Put σ tokens (walk σ tokens (maxDepth.toNat - path.length)
      (path.filterMap Value.label?)) (.field ["value"]) a.value b.value) :
    ByKey tokens a b ↔ AloneByKey σ tokens maxDepth path a := by
  have hkey : b.key = a.key ↔ (tokens.matchKey "key" = true → a.key = mask) := by
    rw [hk]
    split
    · rename_i hm
      exact ⟨fun h _ => h.symm, fun h => (h hm).symm⟩
    · rename_i hm
      exact iff_of_true rfl fun h => absurd h hm
  have hvalue := isMask_iff_hiddenAlone hv
  constructor
  · exact fun h => ⟨hkey.mp h.key, fun hm => hvalue.mp (h.value hm)⟩
  · exact fun h => ⟨hkey.mpr h.key, fun hm => hvalue.mpr (h.value hm)⟩

/-! ## The whole walk -/

/-- Where nothing is sensitive every attribute comes out by its key as it is. -/
theorem byKey_nil (a : Attr) : ByKey [] a a := ⟨rfl, nofun⟩

theorem attributesAt_nil (path : List Value) (u : Value) :
    AttributesAt σ [] maxDepth path u u where
  group label shape as hc hg :=
    ⟨label, shape, as, hc, hg, List.forall₂_same.mpr fun a _ => byKey_nil a⟩
  alone a ha := ⟨a, ha, iff_of_true (byKey_nil a) ⟨nofun, nofun⟩⟩

/-- A way into a value leads to what stands at its end. -/
theorem Leads.at?_eq {path path' : List Value} {v u : Value} {way : List Nat}
    (h : Leads σ tokens maxDepth path v way path' u) : σ.at? way v = some u := by
  induction h with
  | here => rfl
  | inside hc _ hw _ _ ih =>
    rw [Objects.at?, Objects.places_of_container hc, hw]
    exact ih

/-- **What the walk makes of the attributes that it comes to.** -/
theorem attributesAt_of_walk {path : List Value} {u u' : Value}
    (hcut : ¬ CutOff maxDepth path u)
    (h : (walk σ tokens (maxDepth.toNat - path.length) (path.filterMap Value.label?) u).result
      = .ok u') : AttributesAt σ tokens maxDepth path u u' := by
  -- neither a group nor an attribute is a set or an object that is given up
  have remade {label : Option Label} {shape : Shape Value}
      (hc : σ.container? u = some (label, shape)) (hs : shape.isClosed = false)
      (hu : σ.isUncopied shape = false) : ∃ shape', u' = .node none shape'
        ∧ Remade σ tokens (walk σ tokens (maxDepth.toNat - (u :: path).length)
          ((u :: path).filterMap Value.label?)) shape shape' := by
    rw [walk_of_opens ⟨⟨label, hc⟩, hs, hcut⟩] at h
    refine (remade_of_container h).resolve_left fun hu' => ?_
    rw [hu] at hu'
    exact Bool.false_ne_true hu'.1
  constructor
  · intro label shape as hc hg
    obtain ⟨shape', rfl, hm⟩ := remade hc (Objects.isClosed_of_group? hg)
      (Objects.isUncopied_of_group? hg)
    obtain ⟨bs, hbs, hby⟩ := hm.byKey hg
    exact ⟨none, shape', bs, rfl, hbs, hby⟩
  · intro a ha
    obtain ⟨label, hc⟩ := Objects.attr?_eq_some.mp ha
    obtain ⟨shape', rfl, hm⟩ := remade hc rfl rfl
    obtain ⟨b, rfl, hk, hv⟩ := hm.alone
    exact ⟨b, rfl, byKey_iff_aloneByKey hk hv⟩

/-- A walked value has in it the attributes that the walk makes of those that were in it. -/
theorem attributesIn_of_walk (ht : tokens ≠ []) {v r : Value}
    (h : (walk σ tokens maxDepth.toNat [] v).result = .ok r) :
    AttributesIn σ tokens maxDepth v r := by
  intro way path u hw hcut
  obtain ⟨u', hat, hu'⟩ := hw.walk h
  refine ⟨u', ?_, attributesAt_of_walk hcut hu'⟩
  rwa [wayInto, if_neg (by simpa using ht)]

theorem attributesIn_of_value {v r : Value}
    (h : (value σ tokens maxDepth v).result = .ok r) : AttributesIn σ tokens maxDepth v r := by
  by_cases ht : tokens = []
  · subst ht
    obtain rfl : v = r := Noted.pure_eq_ok.mp h
    exact fun way path u hw _ => ⟨u, hw.at?_eq, attributesAt_nil path u⟩
  · have he : tokens.isEmpty = false := by simpa using ht
    rw [value, he, if_neg Bool.false_ne_true] at h
    exact attributesIn_of_walk ht h

/-- **Which attributes are masked by their keys.** Whatever the tokens and the depth, the attributes
of a masked list come out by their keys: they keep them, and under a sensitive one stands the mask.
The same goes, in the values under the others and in any masked value, for the attributes of every
group that the walk comes to through places that are not sensitive, within the depth and not inside
itself. An attribute that stands alone there stays an attribute, but whether it comes out by its key
is not a matter of the key: a token in the name of its first field hides the key, and its value is
hidden for the name of the second field or for what it is by itself. -/
theorem attributes_by_key :
    (∀ as bs, (attrs σ tokens maxDepth as).result = .ok bs →
      List.Forall₂ (fun a b => ByKey tokens a b
        ∧ (tokens.matchKey a.key = false → AttributesIn σ tokens maxDepth a.value b.value)) as bs)
      ∧ ∀ v r, (value σ tokens maxDepth v).result = .ok r →
        AttributesIn σ tokens maxDepth v r := by
  refine ⟨fun as bs h => ?_, fun v r h => attributesIn_of_value h⟩
  by_cases ht : tokens = []
  · subst ht
    obtain rfl : as = bs := Noted.pure_eq_ok.mp h
    exact List.forall₂_same.mpr fun a _ => ⟨byKey_nil a, fun _ => attributesIn_of_value rfl⟩
  · refine ((attrs_eq_ok ht).mp h).imp fun a b hab => ?_
    obtain ⟨hk, hput⟩ := hab
    refine ⟨byKey_of_put hk hput, fun hm => attributesIn_of_walk ht ?_⟩
    rwa [Put, if_neg (by rw [Place.sensitive_attr, hm]; exact Bool.false_ne_true)] at hput

/-- The same attribute in a group, where it is masked, and beside a number, where it is not. -/
theorem attributes_by_key_neighbours :
    let secret : Attr := ⟨"Password", .text "hunter2"⟩
    let covered : Attr := ⟨"Password", .text mask⟩
    let mixed : Value := .node none (.tuple none [secret.toValue, .int 1])
    let v : Value := .node none (.list none [.ofGroup [secret], mixed])
    let r : Value := .node none (.list none [.ofGroup [covered], mixed])
    (attrs [] ["pass"] 32 [⟨"login", v⟩]).result = .ok [⟨"login", r⟩]
      ∧ Leads [] ["pass"] 32 [] v [0] [v] (.ofGroup [secret])
      ∧ List.Forall₂ (ByKey ["pass"]) [secret] [covered]
      ∧ Leads [] ["pass"] 32 [] v [1, 0] [mixed, v] secret.toValue
      ∧ ¬ AloneByKey [] ["pass"] 32 [secret.toValue, mixed, v] secret := by
  intro secret covered mixed v r
  have h : (attrs [] ["pass"] 32 [⟨"login", v⟩]).result = .ok [⟨"login", r⟩] := by
    simp only [v, r, mixed, secret, covered]
    rfl
  have hv : ¬ Replaced [] 32 [] v (.list none [.ofGroup [secret], mixed]) := by
    simp [Replaced, CutOff, Objects.isUncopied]
  have hmixed : ¬ Replaced [] 32 [v] mixed (.tuple none [secret.toValue, .int 1]) := by
    simp [Replaced, CutOff, Objects.isUncopied, v, Value.label?, sameLabel]
  have hgroup : Leads [] ["pass"] 32 [] v [0] [v] (.ofGroup [secret]) :=
    .inside (p := .item) rfl hv rfl rfl .here
  have halone : Leads [] ["pass"] 32 [] v [1, 0] [mixed, v] secret.toValue :=
    .inside (p := .item) rfl hv rfl rfl (.inside (p := .item) rfl hmixed rfl rfl .here)
  obtain ⟨hlist, -⟩ := @attributes_by_key [] ["pass"] 32
  obtain ⟨⟨-, hin⟩, -⟩ := List.forall₂_cons.mp (hlist _ _ h)
  have hin := hin (by decide +kernel)
  obtain ⟨_, hat, hg, -⟩ := hin _ _ _ hgroup (by simp [CutOff, v, Value.label?, sameLabel])
  obtain ⟨_, hat', -, ha⟩ := hin _ _ _ halone
    (by simp [CutOff, v, mixed, Value.label?, sameLabel])
  cases hat
  cases hat'
  obtain ⟨_, _, bs, he, hbs, hby⟩ := hg none _ [secret] rfl rfl
  cases he
  cases hbs
  obtain ⟨_, hb, hiff⟩ := ha secret rfl
  cases hb
  refine ⟨h, hgroup, hby, halone, fun hn => ?_⟩
  -- by its key the attribute would have come out with the mask
  obtain ⟨_, hmask⟩ : IsMask (.text "hunter2") := (hiff.mpr hn).value (by decide +kernel)
  simp [mask] at hmask

/-- **A sensitive attribute may come out as it is**, beside a number in a tuple. Another token of
the same key hides the key and shows the value. -/
theorem attribute_shown_beside_number :
    let mixed (key value : String) : Value :=
      .node none (.tuple none [(Attr.mk key (.text value)).toValue, .int 1])
    let v := mixed "api_key" "s3cret"
    Leads [] ["api"] 32 [] v [0] [v] (Attr.mk "api_key" (.text "s3cret")).toValue
      ∧ ¬ CutOff 32 [v] (Attr.mk "api_key" (.text "s3cret")).toValue
      ∧ Tokens.matchKey ["api"] "api_key" = true ∧ Tokens.matchKey ["key"] "api_key" = true
      ∧ (attrs [] ["api"] 32 [⟨"k", v⟩]).result = .ok [⟨"k", v⟩]
      ∧ (attrs [] ["key"] 32 [⟨"k", v⟩]).result = .ok [⟨"k", mixed mask "s3cret"⟩] := by
  refine ⟨.inside (p := .item) rfl ?_ rfl rfl .here, ?_, by decide +kernel, by decide +kernel,
    rfl, rfl⟩
  · simp [Replaced, CutOff, Objects.isUncopied]
  · simp [CutOff, Value.label?, sameLabel]

end Masking

end DiscreetLog
