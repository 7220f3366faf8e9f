import DiscreetLog.Arguments
import DiscreetLog.Proofs.Ordered

/-!
# Arguments are read without loss

What a positional argument means depends on those before it: a text is a key, or the value of the
key before it, and an attribute is one of its own or a value. Still there is one reading only. The
arguments fall into *segments*, each of which makes one attribute, and they do so in one way
(`Cuts.eq`): the first argument says of which kind the first segment is, and the rest is cut in the
same manner.

So arguments given in two parts come to the attributes of the parts, unless a key at the end of the
first part finds its value at the beginning of the second (`ofArguments_segments`).
-/

namespace DiscreetLog

/-- A value that is a text, as one. -/
def Value.text? : Value → Option String
  | .atom _ (.text s) => some s
  | _ => none

/-- **A segment of the arguments of a log call**, which makes one attribute. -/
inductive Segment where
  /-- An attribute as it is. -/
  | whole (label : Option Label) (a : Attr)
  /-- A text, and what follows it. -/
  | pair (label : Option Label) (key : String) (value : Value)
  /-- A value that can be neither a key nor an attribute. -/
  | keyless (value : Value) (h : value.text? = none ∧ value.attr? = none)
  /-- A text that nothing follows. -/
  | unpaired (label : Option Label) (text : String)

namespace Segment

/-- The arguments of a segment. -/
def items : Segment → List Value
  | .whole label a => [.node label (.attr a.key a.value)]
  | .pair label key value => [.atom label (.text key), value]
  | .keyless value _ => [value]
  | .unpaired label text => [.atom label (.text text)]

/-- **The attribute that a segment makes.** -/
def attr : Segment → Attr
  | .whole _ a => a
  | .pair _ key value => ⟨key, value⟩
  | .keyless value _ => ⟨badKey, value⟩
  | .unpaired label text => ⟨badKey, .atom label (.text text)⟩

/-- A segment that only the end of the arguments makes one. -/
def isUnpaired : Segment → Bool
  | .unpaired .. => true
  | _ => false

end Segment

/-- **Segments cut arguments**: they are the arguments one after the other, and a text without
anything behind it stands at the end alone. -/
inductive Cuts : List Segment → List Value → Prop where
  | nil : Cuts [] []
  | cons {s : Segment} {segments : List Segment} {rest : List Value}
      (hs : s.isUnpaired = true → rest = []) (h : Cuts segments rest) :
      Cuts (s :: segments) (s.items ++ rest)

namespace Segment

/-- **The first segment**: whatever the first argument is, there is one that begins with it, and
its attribute comes first. -/
theorem exists_first (v : Value) (rest : List Value) :
    ∃ s : Segment, ∃ more, v :: rest = s.items ++ more ∧ (s.isUnpaired = true → more = [])
      ∧ Attr.ofPositional (v :: rest) = s.attr :: Attr.ofPositional more := by
  cases v with
  | shared l => exact ⟨.keyless (.shared l) ⟨rfl, rfl⟩, rest, rfl, nofun, rfl⟩
  | node label shape =>
    cases shape with
    | attr key value => exact ⟨.whole label ⟨key, value⟩, rest, rfl, nofun, rfl⟩
    | _ => exact ⟨.keyless (.node label _) ⟨rfl, rfl⟩, rest, rfl, nofun, rfl⟩
  | atom label a =>
    cases a with
    | text s =>
      cases rest with
      | nil => exact ⟨.unpaired label s, [], rfl, fun _ => rfl, rfl⟩
      | cons value rest => exact ⟨.pair label s value, rest, rfl, nofun, rfl⟩
    | _ => exact ⟨.keyless (.atom label _) ⟨rfl, rfl⟩, rest, rfl, nofun, rfl⟩

/-- **The first segment is settled by the arguments.** -/
theorem first_unique {s s' : Segment} {more more' : List Value}
    (he : s.items ++ more = s'.items ++ more') (hs : s.isUnpaired = true → more = [])
    (hs' : s'.isUnpaired = true → more' = []) : s = s' ∧ more = more' := by
  cases s with
  | whole label a =>
    cases s' with
    | whole =>
      cases a
      cases he
      exact ⟨rfl, rfl⟩
    | keyless value h =>
      cases he
      cases h.2
    | pair | unpaired => cases he
  | pair label key value =>
    cases s' with
    | pair =>
      cases he
      exact ⟨rfl, rfl⟩
    | keyless value h =>
      cases he
      cases h.1
    | unpaired =>
      cases he
      cases hs' rfl
    | whole => cases he
  | keyless value h =>
    cases s' with
    | keyless =>
      cases he
      exact ⟨rfl, rfl⟩
    | whole =>
      cases he
      cases h.2
    | pair | unpaired =>
      cases he
      cases h.1
  | unpaired label text =>
    cases s' with
    | unpaired =>
      cases he
      exact ⟨rfl, rfl⟩
    | keyless value h =>
      cases he
      cases h.1
    | pair =>
      cases he
      cases hs rfl
    | whole => cases he

end Segment

namespace Cuts

variable {segments segments' : List Segment} {arguments more : List Value}

/-- **Every list of arguments is cut in some way**, and its attributes are those of the segments. -/
theorem exists_cuts (arguments : List Value) :
    ∃ segments, Cuts segments arguments
      ∧ Attr.ofPositional arguments = segments.map Segment.attr := by
  -- by induction on the number of arguments, as a segment takes one or two of them
  induction hn : arguments.length using Nat.strongRecOn generalizing arguments with
  | _ n ih =>
  subst hn
  cases arguments with
  | nil => exact ⟨[], .nil, rfl⟩
  | cons v rest =>
    obtain ⟨s, more, he, hs, ha⟩ := Segment.exists_first v rest
    have hlt : more.length < (v :: rest).length := by
      rw [he, List.length_append]
      cases s <;> simp [Segment.items]
    obtain ⟨segments, hcuts, hmore⟩ := ih _ hlt more rfl
    exact ⟨s :: segments, he ▸ .cons hs hcuts, by rw [ha, hmore, List.map_cons]⟩

/-- **There is one way to cut arguments.** -/
theorem eq (h : Cuts segments arguments) (h' : Cuts segments' arguments) :
    segments = segments' := by
  induction h generalizing segments' with
  | nil =>
    generalize hn : ([] : List Value) = arguments at h'
    cases h' with
    | nil => rfl
    | @cons s => cases s <;> cases hn
  | @cons s segments rest hs _ ih =>
    generalize hn : s.items ++ rest = arguments at h'
    cases h' with
    | nil => cases s <;> cases hn
    | @cons s' _ _ hs' h' =>
      obtain ⟨rfl, rfl⟩ := Segment.first_unique hn hs hs'
      rw [ih h']

/-- **Every argument is in one segment.** -/
theorem flatMap_items (h : Cuts segments arguments) :
    segments.flatMap Segment.items = arguments := by
  induction h with
  | nil => rfl
  | cons _ _ ih => rw [List.flatMap_cons, ih]

/-- **The attributes of arguments are those of the segments**, one for each and in order. -/
theorem ofPositional_eq (h : Cuts segments arguments) :
    Attr.ofPositional arguments = segments.map Segment.attr := by
  obtain ⟨_, hcuts, ha⟩ := exists_cuts arguments
  rw [ha, hcuts.eq h]

/-- **Segments that no single text ends go on with those of further arguments.** -/
theorem append (h : Cuts segments arguments)
    (hlast : segments.getLast?.any Segment.isUnpaired = false) (hmore : Cuts segments' more) :
    Cuts (segments ++ segments') (arguments ++ more) := by
  induction h with
  | nil => exact hmore
  | @cons s segments rest hs hrest ih =>
    rw [List.cons_append, List.append_assoc]
    cases segments with
    | nil =>
      cases hrest
      rw [List.getLast?_singleton, Option.any_some] at hlast
      exact .cons (fun hu => absurd (hlast.symm.trans hu) Bool.false_ne_true) hmore
    | cons t segments =>
      refine .cons (fun hu => ?_) (ih (by rwa [List.getLast?_cons_cons] at hlast))
      obtain rfl := hs hu
      cases hrest.eq .nil

/-- **A text at the end is the key of the first further argument.** -/
theorem concat {label : Option Label} {text : String}
    (h : Cuts (segments ++ [.unpaired label text]) arguments) (v : Value) :
    Cuts (segments ++ [.pair label text v]) (arguments ++ [v]) := by
  induction segments generalizing arguments with
  | nil =>
    cases h with
    | cons _ h =>
      cases h
      exact .cons (s := .pair label text v) nofun .nil
  | cons s segments ih =>
    cases h with
    | cons hs h =>
      rw [List.append_assoc]
      refine .cons (fun hu => ?_) (ih h)
      obtain rfl := hs hu
      cases (List.append_eq_nil_iff.mp (h.eq .nil)).2

end Cuts

namespace Attr

/-- **Arguments may be given in two parts** exactly if no single text ends the first one. -/
theorem ofPositional_append_iff {segments : List Segment} {arguments : List Value}
    (h : Cuts segments arguments) :
    (∀ more, ofPositional (arguments ++ more) = ofPositional arguments ++ ofPositional more)
      ↔ segments.getLast?.any Segment.isUnpaired = false := by
  constructor
  · intro happend
    -- a further argument is the value of the text and makes no attribute of its own
    refine Bool.eq_false_iff.mpr fun hlast => ?_
    rcases List.eq_nil_or_concat segments with rfl | ⟨front, s, rfl⟩
    · cases hlast
    · rw [List.concat_eq_append, List.getLast?_concat] at hlast
      cases s with
      | unpaired label text =>
        rw [List.concat_eq_append] at h
        have hlength := congrArg List.length (happend [.null])
        rw [(h.concat .null).ofPositional_eq, h.ofPositional_eq] at hlength
        simp [ofPositional] at hlength
      | _ => cases hlast
  · intro hlast more
    obtain ⟨segments', hmore, ha⟩ := Cuts.exists_cuts more
    rw [(h.append hlast hmore).ofPositional_eq, h.ofPositional_eq, ha, List.map_append]

/-- **Arguments are read without loss.** The positional arguments of a log call fall into segments
in exactly one way, so each of them is used once: an attribute by itself, a text with what follows
it, a value that is neither, or a text at the end. Each segment makes one attribute, in order, and
each named argument one more behind them. Positional arguments that are given in two parts make the
attributes of the parts, one after the other, exactly if the segments of the first part do not end
with a single text. -/
theorem ofArguments_segments (positional : List Value) {named : List (String × Value)}
    (hn : (named.map (·.1)).Nodup) :
    (∃! segments, Cuts segments positional)
      ∧ ∀ segments, Cuts segments positional →
        segments.flatMap Segment.items = positional
          ∧ ofArguments positional named
            = segments.map Segment.attr ++ named.map (fun p => ⟨p.1, p.2⟩)
          ∧ ((∀ more, ofArguments (positional ++ more) []
              = ofArguments positional [] ++ ofArguments more [])
            ↔ segments.getLast?.any Segment.isUnpaired = false) := by
  have hunnamed (arguments : List Value) : ofArguments arguments [] = ofPositional arguments :=
    List.append_nil _
  obtain ⟨segments, hcuts, -⟩ := Cuts.exists_cuts positional
  refine ⟨⟨segments, hcuts, fun _ h => h.eq hcuts⟩, fun segments h => ⟨h.flatMap_items, ?_, ?_⟩⟩
  · rw [ofArguments, h.ofPositional_eq, Ordered.ofPairs_of_nodup hn]
  · simp only [hunnamed]
    exact ofPositional_append_iff h

/-- A text as a key and a text as a value, an attribute as a value and an attribute by itself, a
number without a key, and a text at the end: it would take what follows it. -/
theorem ofArguments_segments_mixed :
    let pin : Value := .node none (.attr "pin" (.int 7))
    let positional : List Value := [.text "a", .text "b", .text "c", pin, pin, .int 4, .text "d"]
    let named : List (String × Value) := [("z", .int 1), ("y", .int 2)]
    let segments : List Segment := [.pair none "a" (.text "b"), .pair none "c" pin,
      .whole none ⟨"pin", .int 7⟩, .keyless (.int 4) ⟨rfl, rfl⟩, .unpaired none "d"]
    (named.map (·.1)).Nodup ∧ Cuts segments positional
      ∧ ofArguments positional named = [⟨"a", .text "b"⟩, ⟨"c", pin⟩, ⟨"pin", .int 7⟩,
        ⟨badKey, .int 4⟩, ⟨badKey, .text "d"⟩, ⟨"z", .int 1⟩, ⟨"y", .int 2⟩]
      ∧ ¬ ∀ more, ofArguments (positional ++ more) []
        = ofArguments positional [] ++ ofArguments more [] := by
  intro pin positional named segments
  have hn : (named.map (·.1)).Nodup := by decide
  have hcuts : Cuts segments positional :=
    .cons nofun (.cons nofun (.cons nofun (.cons nofun (.cons (fun _ => rfl) .nil))))
  obtain ⟨-, hmade, happend⟩ := (ofArguments_segments positional hn).2 segments hcuts
  exact ⟨hn, hcuts, hmade, fun h => Bool.false_ne_true (happend.mp h).symm⟩

end Attr

end DiscreetLog
