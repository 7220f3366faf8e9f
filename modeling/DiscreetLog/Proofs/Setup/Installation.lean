import DiscreetLog.Proofs.Chain.Leaves
import DiscreetLog.Proofs.Setup.Preparation

/-!
# What a set-up comes to

A set-up is prepared first, and what it has opened is closed again where that fails
(`prepare_cases`). Then the logger is derived, which fails only on a host without a name since only
texts are bound, and everything is installed at once. What can fail after that is closing the writer
of an earlier set-up. `Logger.Ending` is the list of all that a set-up can come to.
-/

namespace DiscreetLog

open DiscreetLog.Action

/-! ## Texts can always be bound -/

/-- An attribute whose value is a text. -/
def Attr.IsText (a : Attr) : Prop := ∃ text, a.value = .text text

/-- **Masking texts makes texts.** -/
theorem Masking.attrs_texts (σ : Objects) (tokens : Tokens) (maxDepth : Int) {as : List Attr}
    (h : ∀ a ∈ as, a.IsText) :
    ∃ bs, (attrs σ tokens maxDepth as).result = .ok bs ∧ ∀ b ∈ bs, b.IsText := by
  rw [attrs]
  split
  · exact ⟨as, rfl, h⟩
  · have hattr : ∀ a ∈ as, ∃ b : Attr, (attr σ tokens maxDepth a).result = .ok b ∧ b.IsText := by
      rintro ⟨key, value⟩ ha
      obtain ⟨text, hvalue⟩ := h _ ha
      dsimp only at hvalue
      subst hvalue
      rw [attr, attrWith, entry]
      split
      · exact ⟨⟨key, .text mask⟩, rfl, mask, rfl⟩
      · exact ⟨⟨key, .text text⟩, by rw [walk]; rfl, text, rfl⟩
    obtain ⟨bs, hbs⟩ := exists_forall₂ hattr
    refine ⟨bs, Noted.mapM_eq_ok.mpr (hbs.imp fun _ _ hb => hb.1), fun b hb => ?_⟩
    obtain ⟨a, -, -, htext⟩ := exists_mem_left hbs hb
    exact htext

/-- Texts can be masked by any policies one after the other. -/
theorem Policy.maskAll_texts (σ : Objects) (ps : List Policy) {as : List Attr}
    (h : ∀ a ∈ as, a.IsText) : MaskAll σ ps as := by
  induction ps generalizing as with
  | nil => exact ⟨as, rfl⟩
  | cons p ps ih =>
    obtain ⟨bs, hbs, htexts⟩ := Masking.attrs_texts σ p.tokens p.maxDepth h
    obtain ⟨cs, hcs⟩ := ih htexts
    exact ⟨cs, (attrsAll_cons_eq_ok hbs).mpr hcs⟩

/-- **There is a logger of a service as soon as the host has a name**, since all that is bound is
texts. -/
theorem Logger.run_ofService (service : String) (c : Chain) (h : Host) :
    (∃ failure, h.hostName = .error failure
      ∧ (ofService service c).run h = (.error failure, h))
    ∨ ∃ name l notes, h.hostName = .ok name
      ∧ (ofService service c).run h = (.ok l, { h with notes := h.notes ++ notes }) := by
  rw [ofService, run_bind, run_get]
  dsimp only
  rw [run_bind, run_ofExcept]
  cases hname : h.hostName with
  | error failure => exact .inl ⟨failure, rfl, rfl⟩
  | ok name =>
    let as : List Attr := [⟨"service.name", .text service⟩, ⟨"host", .text name⟩]
    have htexts : ∀ a ∈ as, a.IsText := by
      intro a ha
      rcases List.mem_pair.mp ha with rfl | rfl
      · exact ⟨service, rfl⟩
      · exact ⟨name, rfl⟩
    obtain ⟨c', hc, -⟩ := c.exists_bind fun ps _ => Policy.maskAll_texts h.objects ps htexts
    refine .inr ⟨name, ⟨c'⟩, (bind h.objects ⟨c⟩ as).notes, rfl, ?_⟩
    dsimp only
    rw [run_ofNoted, ← hname]
    exact congrArg (Prod.mk · _) (Noted.map_eq_ok.mpr ⟨c', hc, rfl⟩)

/-! ## Installing -/

namespace Host

/-- What becomes of the environment where a settings file is read. -/
def enriched (h : Host) : Except Failure Environment :=
  h.readSettings h.disk h.directory h.environment

/-- A host on which the environment has been read, if no settings were chosen and if it can be. -/
def loaded (settings : Option Settings) (h : Host) : Host :=
  match settings, h.enriched with
  | none, .ok environment => { h with environment }
  | _, _ => h

/-- **Loading touches nothing but the environment.** -/
theorem loaded_eq (settings : Option Settings) (h : Host) :
    h.loaded settings = { h with environment := (h.loaded settings).environment } := by
  unfold loaded
  split <;> rfl

/-- A host on which a logger is installed. -/
def installing (l : Logger) (w : Option Writer) (bridging : Bool) (threshold : Int) (h : Host) :
    Host :=
  { h with
    defaultLogger := some l
    ownedWriter := w
    bridges := if bridging then h.bridges ++ [⟨l.chain, 0, false⟩] else h.bridges
    rootBridges := if bridging then [h.bridges.length] else []
    rootThreshold := if bridging then threshold else h.rootThreshold }

end Host

namespace Settings

/-- The settings that a set-up goes by, if it comes to have any. -/
def effective (settings : Option Settings) (h : Host) : Settings :=
  settings.getD (ofEnvironment (h.loaded settings).environment)

/-- **Loading the settings** comes to those that count, or fails where the environment cannot be
read. -/
theorem run_orLoaded (settings : Option Settings) (h : Host) :
    (orLoaded settings).run h = (.ok (effective settings h), h.loaded settings)
    ∨ ∃ failure, h.enriched = .error failure
      ∧ (orLoaded settings).run h = (.error failure, h) := by
  cases settings with
  | some s => exact .inl rfl
  | none =>
    rw [orLoaded, load, run_bind, run_get]
    dsimp only
    rw [run_bind, run_ofExcept]
    cases hread : h.readSettings h.disk h.directory h.environment with
    | ok environment =>
      have hloaded : h.loaded none = { h with environment } := by
        simp only [Host.loaded, Host.enriched, hread]
      refine .inl ?_
      rw [hloaded, effective, hloaded]
      rfl
    | error failure => exact .inr ⟨failure, hread, rfl⟩

/-- What a set-up with the settings installs on a host, given what the host was at first. -/
def installing (s : Settings) (h : Host) (l : Logger) (bridging : Bool) : Host → Host :=
  Host.installing l (Writer.ofFile (s.file? h) s.toStdout) bridging s.threshold.number

end Settings

namespace Logger

variable {service : String} {settings : Option Settings} {bridging : Bool} {client : Option Nat}

/-- **What installing a logger comes to**: then the writer of an earlier set-up is closed. -/
theorem run_install (l : Logger) (w : Option Writer) (bridging : Bool) (threshold : Int)
    (h : Host) :
    (l.install w bridging threshold).run h
      = (Writer.closeIfAny h.ownedWriter).run (h.installing l w bridging threshold) := by
  cases bridging <;> rfl

/-- **What preparing a set-up comes to.** It fails, and what it has opened is closed, or it comes to
a chain and a writer to the file, which is open. -/
theorem prepare_cases (service : String) (settings : Option Settings) (client : Option Nat)
    (h : Host) :
    (∃ failure h' opened k, (prepare service settings client).run h = (.error failure, k)
      ∧ (h' = h ∨ h' = h.loaded settings)
      ∧ (opened = [] ∨ opened = (Settings.effective settings h).opened h true)
      ∧ Prepared client opened h' k)
    ∨ ∃ c m, (prepare service settings client).run h
        = (.ok ⟨Settings.effective settings h, c,
            Writer.ofFile ((Settings.effective settings h).file? h)
              (Settings.effective settings h).toStdout⟩, m)
      ∧ Prepared client ((Settings.effective settings h).opened h false) (h.loaded settings) m := by
  rw [prepare]
  split
  · exact .inl ⟨_, h, [], h, rfl, .inl rfl, .inl rfl, .refl client h⟩
  · rw [run_bind]
    rcases Settings.run_orLoaded settings h with hload | ⟨failure, -, hload⟩ <;> rw [hload]
    · generalize Settings.effective settings h = s
      have hfile : s.file? (h.loaded settings) = s.file? h := by rw [h.loaded_eq]; rfl
      have hopened (closed : Bool) : s.opened (h.loaded settings) closed = s.opened h closed := by
        rw [h.loaded_eq]
        rfl
      dsimp only
      rw [run_bind, ← hfile]
      rcases s.chain_cases service client (h.loaded settings) with
        ⟨failure, opened, k, hrun, hclosed, hk⟩ | ⟨c, m, hrun, hm⟩ <;> rw [hrun]
      · rw [hopened] at hclosed
        exact .inl ⟨failure, _, opened, k, rfl, .inr rfl, hclosed, hk⟩
      · rw [hopened] at hm
        exact .inr ⟨c, m, rfl, hm⟩
    · exact .inl ⟨failure, h, [], h, rfl, .inl rfl, .inl rfl, .refl client h⟩

/-- **How a set-up can end.** -/
inductive Ending (service : String) (settings : Option Settings) (bridging : Bool)
    (client : Option Nat) (h : Host) : Except Failure Logger → Host → Prop
  /-- It cannot be prepared. What it has opened is closed. -/
  | unprepared {failure : Failure} {h' k : Host} {opened : List LogFile}
      (prepared : (prepare service settings client).run h = (.error failure, k))
      (before : h' = h ∨ h' = h.loaded settings)
      (closed : opened = [] ∨ opened = (Settings.effective settings h).opened h true)
      (made : Prepared client opened h' k) :
      Ending service settings bridging client h (.error failure) k
  /-- It is prepared, and the host has no name. The file is left open. -/
  | unnamed {failure : Failure} {plan : Plan} {k : Host}
      (prepared : (prepare service settings client).run h = (.ok plan, k))
      (unnamed : h.hostName = .error failure)
      (made : Prepared client ((Settings.effective settings h).opened h false)
        (h.loaded settings) k) :
      Ending service settings bridging client h (.error failure) k
  /-- Its logger is installed, and the writer of an earlier set-up cannot be closed. -/
  | unclosed {failure : Failure} {plan : Plan} {l : Logger} {m m' k : Host} {name : String}
      (prepared : (prepare service settings client).run h = (.ok plan, m))
      (named : h.hostName = .ok name)
      (made : Prepared client ((Settings.effective settings h).opened h false)
        (h.loaded settings) m')
      (close : (Writer.closeIfAny h.ownedWriter).run
        ((Settings.effective settings h).installing h l bridging m') = (.error failure, k)) :
      Ending service settings bridging client h (.error failure) k
  /-- Its logger is installed, and the writer of an earlier set-up is closed. -/
  | installed {l : Logger} {m k : Host} (notes : List Note)
      (made : Prepared client ((Settings.effective settings h).opened h false)
        (h.loaded settings) m)
      (close : (Writer.closeIfAny h.ownedWriter).run
        ((Settings.effective settings h).installing h l bridging m) = (.ok (), k)) :
      Ending service settings bridging client h (.ok l) { k with notes := k.notes ++ notes }

/-- **A set-up ends in one of these ways.** -/
theorem ending {h k : Host} {result : Except Failure Logger}
    (hrun : (setUp service settings bridging client).run h = (result, k)) :
    Ending service settings bridging client h result k := by
  rw [setUp, run_bind] at hrun
  rcases prepare_cases service settings client h with
    ⟨failure, h', opened, _, hprepare, hh', hopened, hmade⟩ | ⟨c, m, hprepare, hmade⟩
    <;> rw [hprepare] at hrun
  · cases hrun
    exact .unprepared hprepare hh' hopened hmade
  · have hname : h.hostName = m.hostName := by rw [hmade.shipped.rest, h.loaded_eq]
    have howned : m.ownedWriter = h.ownedWriter := by rw [hmade.shipped.rest, h.loaded_eq]
    dsimp only at hrun
    rw [run_bind] at hrun
    rcases run_ofService service c m with ⟨failure, hhost, hl⟩ | ⟨name, l, notes, hhost, hl⟩
    · rw [hl] at hrun
      cases hrun
      exact .unnamed hprepare (hname.trans hhost) hmade
    · have hnoted := hmade.noted notes
      have howned' : ({ m with notes := m.notes ++ notes } : Host).ownedWriter = h.ownedWriter :=
        howned
      generalize ({ m with notes := m.notes ++ notes } : Host) = m' at hl hnoted howned'
      rw [hl] at hrun
      dsimp only at hrun
      rw [run_bind, run_install, howned', ← Settings.installing] at hrun
      rcases hclose : (Writer.closeIfAny h.ownedWriter).run
        ((Settings.effective settings h).installing h l bridging m') with ⟨failure | _, k⟩
        <;> rw [hclose] at hrun <;> cases hrun
      · exact .unclosed hprepare (hname.trans hhost) hnoted hclose
      · exact .installed _ hnoted hclose

end Logger

end DiscreetLog
