import Coffer.Proofs.Session.Durability

/-!
What it takes to seal a vault. A key serves if it has the right length, and its salt and parameters
fit into a header (`SessionKey.Serves`); whether the parameters are cheap enough to open the file
again does not matter for this. With such a key and random bytes to draw, only the disk is left to
fail a save (`CanSeal.save_cases`).

A session whose own parameters fit into a header never has another key, whatever is done with it and
whatever files it opens (`State.canSeal_run`): new keys are derived under its parameters, and those
of a file come with parameters that were read from a header.
-/

namespace Coffer

namespace Session

variable {s s' : Session} {w w' : World} {v : Vault} {k : SessionKey}

/-! ### Sessions that can seal -/

/-- There are random bytes to draw, and the parameters of the session and its key, if it has one,
serve. -/
structure CanSeal (s : Session) (w : World) : Prop where
  full : w.random.IsFull
  params : s.params.FitsHeader
  key : ∀ k, s.key = some k → k.Serves

theorem canSeal_new (hfull : w.random.IsFull) {params : KeyParams} (hparams : params.FitsHeader)
    (path : Path) : (new path params).CanSeal w :=
  ⟨hfull, hparams, by simp [new]⟩

namespace CanSeal

theorem congr (h : s.CanSeal w) (hparams : s'.params = s.params)
    (hkey : ∀ k, s'.key = some k → k.Serves) (hrandom : w'.random.bytes = w.random.bytes) :
    s'.CanSeal w' where
  full := by
    intro n size
    rw [hrandom]
    exact h.full n size
  params := hparams ▸ h.params
  key := hkey

theorem lock (h : s.CanSeal w) (hparams : s'.params = s.params) (hkey : s'.key = none)
    (hrandom : w'.random.bytes = w.random.bytes) : s'.CanSeal w' :=
  h.congr hparams (by simp [hkey]) hrandom

/-- Saving a session that can seal is refused because it is not open, or it succeeds, or the disk
fails. -/
theorem save_cases (h : s.CanSeal w) :
    (s.isOpen = false ∧ s.save w = ⟨.error .notUnlocked, s, w⟩) ∨
    (∃ saved w', s.save w = ⟨.ok (), { s with savedRevision := saved }, w'⟩ ∧
      w'.random.bytes = w.random.bytes) ∨
    ∃ e w', s.save w = ⟨.error (.file e), s, w'⟩ ∧ w'.random.bytes = w.random.bytes := by
  cases hopen : s.isOpen with
  | false => exact .inl ⟨rfl, save_of_closed hopen w⟩
  | true =>
  obtain ⟨v, k, hv, hkey⟩ := exists_of_isOpen hopen
  obtain ⟨nonce, random, -, hrandom, hsave⟩ := save_eq_of_serves hv hkey (h.key k hkey) h.full
  rw [hsave]
  obtain ⟨result, disk⟩ := w.disk.store s.path (k.seal nonce v.payload)
  cases result with
  | error e => exact .inr (.inr ⟨_, { w with random, disk }, rfl, hrandom⟩)
  | ok u => exact .inr (.inl ⟨_, { w with random, disk }.note _, rfl, hrandom⟩)

theorem save (h : s.CanSeal w) : (s.save w).session.CanSeal (s.save w).world := by
  obtain ⟨-, heq⟩ | ⟨_, _, heq, hrandom⟩ | ⟨_, _, heq, hrandom⟩ := h.save_cases <;> rw [heq]
  · exact h
  · exact h.congr rfl h.key hrandom
  · exact h.congr rfl h.key hrandom

theorem error_of_save (h : s.CanSeal w) (hopen : s.isOpen = true) {e : SessionError}
    (he : (s.save w).result = .error e) : ∃ f, e = .file f := by
  obtain ⟨hclosed, -⟩ | ⟨_, _, heq, -⟩ | ⟨f, _, heq, -⟩ := h.save_cases
  · rw [hopen] at hclosed
    cases hclosed
  · rw [heq] at he
    cases he
  · rw [heq] at he
    cases he
    exact ⟨f, rfl⟩

theorem rekey (h : s.CanSeal w) (password : Password) :
    (s.rekey password w).session.CanSeal (s.rekey password w).world := by
  have hsalt := isSalt_draw h.full
  obtain ⟨bytes, hderive, heq⟩ | ⟨e, -, heq⟩ := rekey_cases password s w <;> rw [heq]
  · refine h.congr rfl ?_ rfl
    rintro _ ⟨⟩
    exact ⟨Key.length_of_derive hderive, h.params, hsalt⟩
  · -- What is left of the old key has its length still, and the salt and parameters of the new one.
    refine h.congr rfl ?_ rfl
    intro k hk
    obtain ⟨lost, hlost, rfl⟩ := Option.map_eq_some_iff.mp hk
    exact ⟨lost.length_erased.trans (h.key lost hlost).length, h.params, hsalt⟩

theorem create (h : s.CanSeal w) (password : Password) :
    (s.create password w).session.CanSeal (s.create password w).world := by
  have hrekey := h.rekey password
  unfold Session.create
  split
  · exact h
  · generalize s.rekey password w = rekeyed at hrekey
    obtain ⟨_ | u, s₁, w₁⟩ := rekeyed
    · exact hrekey
    · have hempty : CanSeal { s₁ with vault := some .empty } w₁ := hrekey.congr rfl hrekey.key rfl
      have hsave := hempty.save
      dsimp only
      generalize Session.save _ w₁ = saved at hsave
      obtain ⟨e | u, s₂, w₂⟩ := saved
      · cases e with
        | file e => exact hsave.lock rfl rfl rfl
        | _ => exact hsave
      · exact hsave.congr rfl hsave.key rfl

/-- The key that a file is opened with serves, since it was made for parameters that stood in a
header. -/
theorem unlock (h : s.CanSeal w) (password : Password) :
    (s.unlock password w).session.CanSeal (s.unlock password w).world := by
  obtain ⟨text, rfl⟩ | hnone := password.text_or_not
  case inr =>
    obtain ⟨e, heq, -⟩ | ⟨bytes, envelope, -, -, heq⟩ := unlock_of_not_text hnone s w <;> rw [heq]
    · exact h
    · exact h.congr rfl h.key rfl
  unfold Session.unlock
  obtain ⟨e, hload, -⟩ | ⟨bytes, envelope, -, hdecode, hload⟩ := load_cases s w <;> rw [hload]
  · exact h
  dsimp only
  obtain hopen | ⟨key, contents, hderive, hopen⟩ := openEnvelope_cases hdecode text <;>
    rw [hopen]
  · exact h.congr rfl h.key rfl
  dsimp only
  have hloaded : s.CanSeal (w.note (.fileLoaded envelope.version bytes.length)) :=
    h.congr rfl h.key rfl
  split
  · exact hloaded
  split
  · have hrekey := hloaded.rekey text
    generalize s.rekey _ _ = rekeyed at hrekey
    obtain ⟨_ | u, s₁, w₁⟩ := rekeyed
    · exact hrekey
    · exact hrekey.congr rfl hrekey.key rfl
  · -- What was read from a header fits into one.
    refine hloaded.congr rfl ?_ rfl
    rintro _ ⟨⟩
    obtain ⟨hparams, hsalt⟩ := Envelope.accepted_of_decode hdecode
    exact ⟨Key.length_of_derive hderive, hparams.fitsHeader, hsalt⟩

theorem changePassword (h : s.CanSeal w) (password : Password) :
    (s.changePassword password w).session.CanSeal (s.changePassword password w).world := by
  have hrekey := CanSeal.rekey (s := { s with key := none }) (h.lock rfl rfl rfl) password
  unfold Session.changePassword
  split
  · exact h
  · dsimp only
    generalize Session.rekey password _ w = rekeyed at hrekey
    obtain ⟨_ | u, s₁, w₁⟩ := rekeyed
    · exact hrekey
    · have hsave := hrekey.save
      dsimp only at hsave ⊢
      generalize s₁.save w₁ = saved at hsave
      obtain ⟨e | u, s₂, w₂⟩ := saved
      · cases e with
        | file e => exact hsave.congr rfl h.key rfl
        | _ => exact hsave
      · exact hsave.congr rfl hsave.key rfl

theorem commit (h : s.CanSeal w) (c : Command) (r : CommandResult) (v : Vault) :
    (s.commit c r v w).session.CanSeal (s.commit c r v w).world := by
  have hsave := CanSeal.save (s := { s with vault := some v }) (h.congr rfl h.key rfl)
  unfold Session.commit
  generalize Session.save _ w = saved at hsave
  obtain ⟨e | u, s₁, w₁⟩ := saved
  · exact hsave
  · exact hsave.congr rfl hsave.key rfl

theorem execute (h : s.CanSeal w) (current : Path) (c : Command) :
    (s.execute current c w).session.CanSeal (s.execute current c w).world := by
  cases hv : s.vault with
  | none =>
    rw [execute_of_locked hv]
    exact h
  | some v =>
    obtain hspares | ⟨_, r, w', -, -, heq, hw', -⟩ := execute_cases hv current c w
    · rw [hspares.session, hspares.world]
      exact h
    · rw [heq]
      exact CanSeal.commit (h.congr rfl h.key hw'.bytes) c r _

end CanSeal

/-! ### Runs -/

def Deed.FitsHeader : Deed → Prop
  | .renew _ params => params.FitsHeader
  | _ => True

namespace State

variable {t : State}

theorem canSeal_step (h : t.session.CanSeal t.world) {d : Deed} (hd : d.FitsHeader) :
    (t.step d).session.CanSeal (t.step d).world := by
  cases d with
  | renew path params => exact canSeal_new h.full hd path
  | create password => exact h.create password
  | unlock password => exact h.unlock password
  | execute current c => exact h.execute current c
  | call c =>
    rw [step]
    split
    · exact h
    · exact h.congr rfl h.key rfl
  | save => exact h.save
  | changePassword password => exact h.changePassword password
  | close => exact h.lock rfl rfl rfl
  | wait now => exact h.congr rfl h.key rfl
  | disturb disk => exact h.congr rfl h.key rfl

theorem canSeal_run (h : t.session.CanSeal t.world) {deeds : List Deed}
    (hall : ∀ d ∈ deeds, d.FitsHeader) : (t.run deeds).session.CanSeal (t.run deeds).world :=
  run_induction (P := fun t => t.session.CanSeal t.world) (fun _ _ h hd => canSeal_step h hd) h hall

theorem canSeal_start {path : Path} {params : KeyParams} {w : World} (hfull : w.random.IsFull)
    (hparams : params.FitsHeader) :
    (start path params w).session.CanSeal (start path params w).world :=
  canSeal_new hfull hparams path

end State

end Session

end Coffer
