import Coffer.Proofs.Session.Durability
import Coffer.Shell

/-!
A command line is carried out as a whole or not at all (`runLine_all_or_nothing`). A line that cannot
be read, a command that is refused and a command that only looks leave the session and its
surroundings exactly as they were. Any other command takes its effect on the vault: either the file
then holds the vault, sealed under the session's key, or the disk refused it and the file is as it
was. In the shell a line does the same to the session and the disk (`Shell.keepsFile_handle`).

This holds for every open session that deeds can lead to. Unlike durability it does not depend on
what the session's file holds before, so others may write it in between; `State.IsReady` is what
remains of the invariant then.
-/

namespace Coffer

namespace Session

variable {s : Session} {w : World} {v : Vault} {k : SessionKey} {password : Password}

/-! ### A line -/

/-- A line changes nothing, or its command takes its effect and is saved or not. -/
theorem runLine_cases (hv : s.vault = some v) (hkey : s.key = some k) (hk : k.IsFit)
    (hsound : v.IsSound) (hfull : w.random.IsFull) (hnow : w.now.IsValid) (current : Path)
    (line : String) :
    (∃ result, s.runLine current line w = ⟨result, s, w⟩ ∧
      (∀ e, result = .error (.execute e) → ¬ Unsaved e) ∧
      ∀ c, Command.parse line = .ok c →
        (∀ r, result = .ok r → c.isReading = true) ∧ c.Idles current w v) ∨
    ∃ c v' w', Command.parse line = .ok c ∧ c.isReading = false ∧
      c.effect? current w v = some v' ∧
      ((∃ r, s.runLine current line w =
          ⟨.ok r, { s with vault := some v', savedRevision := some v'.revision }, w'⟩ ∧
        SealedAt w'.disk s.path k v') ∨
      ∃ e, s.runLine current line w = ⟨.error (.execute e), { s with vault := some v' }, w'⟩ ∧
        Unsaved e ∧ w.disk.Refused s.path w'.disk) := by
  unfold runLine
  cases hparse : Command.parse line with
  | error e =>
    refine .inl ⟨_, rfl, ?_, ?_⟩
    · rintro _ ⟨⟩
    · rintro _ ⟨⟩
  | ok c =>
    dsimp only
    obtain ⟨hsession, hworld, hrefused, hlooked, hidles⟩ |
        ⟨v', w', hc, heffect, -, -, -, ⟨r, heq, hsealed⟩ | ⟨e, heq, he, hrefused⟩⟩ :=
      execute_outcome hv hkey hk hsound hfull hnow current c
    · -- Whatever the result is, session and world are those from before.
      generalize s.execute current c w = o at hsession hworld hrefused hlooked
      obtain ⟨result, s', w'⟩ := o
      subst hsession hworld
      cases result with
      | error e =>
        refine .inl ⟨_, rfl, ?_, ?_⟩
        · rintro _ ⟨⟩
          exact hrefused e rfl
        · rintro _ ⟨⟩
          refine ⟨?_, hidles⟩
          rintro _ ⟨⟩
      | ok r =>
        refine .inl ⟨_, rfl, ?_, ?_⟩
        · rintro _ ⟨⟩
        · rintro _ ⟨⟩
          exact ⟨fun _ _ => hlooked r rfl, hidles⟩
    · rw [heq]
      exact .inr ⟨c, v', w', rfl, hc, heffect, .inl ⟨r, rfl, hsealed⟩⟩
    · rw [heq]
      exact .inr ⟨c, v', w', rfl, hc, heffect, .inr ⟨e, rfl, he, hrefused⟩⟩

/-- Whether a deed can happen at all: parameters are accepted, the clock shows moments that can be
written, and a disk is a tree. -/
def Deed.IsProper : Deed → Prop
  | .renew _ params => params.IsAccepted
  | .wait now => now.IsValid
  | .disturb disk => disk.IsTree
  | _ => True

namespace State

/-! ### The invariant -/

/-- What holds of a session and its surroundings, whoever writes its file. The key need not be that of
a password. -/
structure IsReady (t : State) : Prop where
  full : t.world.random.IsFull
  now : t.world.now.IsValid
  tree : t.world.disk.IsTree
  params : t.session.params.IsAccepted
  key : ∀ k, t.session.key = some k → k.IsFit
  sound : ∀ v, t.session.vault = some v → v.IsSound

variable {t : State}

theorem IsReady.keep (h : t.IsReady) {w : World} (hw : t.world.Continues w) :
    IsReady { t with world := w } :=
  { h with
    full := hw.isFull h.full
    now := hw.now ▸ h.now
    tree := hw.tree h.tree }

/-- A step may bring another vault and another key, as long as both are as they should be. -/
theorem IsReady.change (h : t.IsReady) {w : World} (hw : t.world.Continues w)
    (hparams : s.params.IsAccepted) (hkey : ∀ k, s.key = some k → k.IsFit)
    (hsound : ∀ v, s.vault = some v → v.IsSound) : IsReady ⟨s, w, password⟩ where
  full := hw.isFull h.full
  now := hw.now ▸ h.now
  tree := hw.tree h.tree
  params := hparams
  key := hkey
  sound := hsound

theorem IsReady.lock (h : t.IsReady) {w : World} (hw : t.world.Continues w)
    (hvault : s.vault = none) (hkey : s.key = none) (hparams : s.params.IsAccepted) :
    IsReady ⟨s, w, password⟩ :=
  h.change hw hparams (by simp [hkey]) (by simp [hvault])

theorem IsReady.open (h : t.IsReady) {w : World} (hw : t.world.Continues w)
    (hvault : s.vault = some v) (hkey : s.key = some k) (hk : k.IsFit) (hsound : v.IsSound)
    (hparams : s.params = t.session.params) : IsReady ⟨s, w, password⟩ :=
  h.change hw (hparams ▸ h.params) (by simpa [hkey] using hk) (by simpa [hvault] using hsound)

theorem IsReady.create (h : t.IsReady) (password : Password) :
    (t.step (.create password)).IsReady := by
  obtain ⟨text, rfl⟩ | hnone := password.text_or_not
  · obtain ⟨e, heq⟩ | ⟨k, w, heq, hk, hw, -⟩ | ⟨e, w, heq, hw⟩ :=
      create_cases h.params h.full text
    · rw [State.step, heq]
      exact h
    · rw [State.step, heq]
      exact h.open hw rfl rfl hk.isFit Vault.isSound_empty rfl
    · rw [State.step, heq]
      exact h.lock hw rfl rfl h.params
  · cases hfree : t.world.disk.isPresent t.session.path with
    | true =>
      rw [State.step, Session.create, if_pos hfree]
      exact h
    | false =>
      -- If the session was open and somebody took its file away, it goes on with what is left of its
      -- key, and can still be saved under that.
      rw [State.step, create_of_not_text h.params h.full hnone hfree]
      exact h.change (.random t.world rfl) h.params
        (fun k hk => isFit_of_lostKey? h.params h.full h.key hk) h.sound

theorem IsReady.unlock (h : t.IsReady) (password : Password) :
    (t.step (.unlock password)).IsReady := by
  obtain ⟨text, rfl⟩ | hnone := password.text_or_not
  · obtain ⟨e, w, heq, -, hw, -⟩ | ⟨v, k, saved, w, heq, hsound, hk, hw, -, -⟩ :=
      unlock_cases h.params h.full text
    · rw [State.step, heq]
      exact h.keep hw
    · rw [State.step, heq]
      exact h.open hw rfl rfl hk.isFit (hsound h.now) rfl
  · obtain ⟨e, heq, -⟩ | ⟨bytes, envelope, -, -, heq⟩ :=
      unlock_of_not_text hnone t.session t.world
    · rw [State.step, heq]
      exact h
    · rw [State.step, heq]
      exact h.keep ((World.Continues.refl t.world).note _)

theorem IsReady.save (h : t.IsReady) : (t.step .save).IsReady := by
  cases hopen : t.session.isOpen with
  | false =>
    rw [State.step, save_of_closed hopen]
    exact h
  | true =>
    obtain ⟨v, k, hv, hkey⟩ := exists_of_isOpen hopen
    have hk := h.key k hkey
    obtain ⟨w, heq, hw, -⟩ | ⟨e, w, heq, hw, -⟩ := save_cases hv hkey hk (h.sound v hv) h.full
    · rw [State.step, heq]
      exact h.open hw hv hkey hk (h.sound v hv) rfl
    · rw [State.step, heq]
      exact h.keep hw

theorem IsReady.changePassword (h : t.IsReady) (password : Password) :
    (t.step (.changePassword password)).IsReady := by
  cases hopen : t.session.isOpen with
  | false =>
    rw [State.step, changePassword_of_closed hopen]
    exact h
  | true =>
    obtain ⟨text, rfl⟩ | hnone := password.text_or_not
    · obtain ⟨v, k, hv, hkey⟩ := exists_of_isOpen hopen
      obtain ⟨k', w, heq, hk', hw, -⟩ | ⟨e, w, heq, hw, -⟩ :=
        changePassword_cases hv hkey h.params (h.sound v hv) h.full text
      · rw [State.step, heq]
        exact h.open hw hv rfl hk'.isFit (h.sound v hv) rfl
      · rw [State.step, heq]
        exact h.keep hw
    · rw [State.step, changePassword_of_not_text hopen h.params h.full hnone]
      refine h.change (.random t.world rfl) h.params ?_ h.sound
      rintro _ ⟨⟩

theorem IsReady.call (h : t.IsReady) (c : Vault.Call) : (t.step (.call c)).IsReady := by
  rw [State.step]
  cases hv : t.session.vault with
  | none => exact h
  | some v =>
    have hsound := Vault.isSound_perform h.now (v, t.world.ids) (h.sound v hv) c
    refine h.change (.ids t.world _) h.params h.key ?_
    rintro _ ⟨⟩
    exact hsound

theorem IsReady.execute (h : t.IsReady) (current : Path) (c : Command) :
    (t.step (.execute current c)).IsReady := by
  cases hv : t.session.vault with
  | none =>
    rw [State.step, execute_of_locked hv]
    exact h
  | some v =>
  cases hkey : t.session.key with
  | none =>
    obtain hspares | ⟨e, v', w, heq, hsound, -, hw, -⟩ :=
      execute_of_keyless hv hkey (h.sound v hv) h.now current c
    · rw [State.step, after, hspares.session, hspares.world]
      exact h
    · rw [State.step, heq]
      refine h.change hw h.params h.key ?_
      rintro _ ⟨⟩
      exact hsound
  | some k =>
    have hk := h.key k hkey
    obtain hspares | ⟨v', w, -, -, hsound, -, hw, ⟨r, heq, -⟩ | ⟨e, heq, -, -⟩⟩ :=
      execute_outcome hv hkey hk (h.sound v hv) h.full h.now current c
    · rw [State.step, after, hspares.session, hspares.world]
      exact h
    · rw [State.step, heq]
      exact h.open hw rfl hkey hk hsound rfl
    · rw [State.step, heq]
      exact h.open hw rfl hkey hk hsound rfl

theorem IsReady.step (h : t.IsReady) {d : Deed} (hd : d.IsProper) : (t.step d).IsReady := by
  cases d with
  | renew path params => exact h.lock (.refl t.world) rfl rfl hd
  | create password => exact h.create password
  | unlock password => exact h.unlock password
  | execute current c => exact h.execute current c
  | call c => exact h.call c
  | save => exact h.save
  | changePassword password => exact h.changePassword password
  | close => exact h.lock (.refl t.world) rfl rfl h.params
  | wait now => exact { h with now := hd }
  | disturb disk => exact { h with tree := hd }

theorem IsReady.run (h : t.IsReady) {deeds : List Deed} (hall : ∀ d ∈ deeds, d.IsProper) :
    (t.run deeds).IsReady :=
  run_induction (P := IsReady) (Q := Deed.IsProper) (fun _ _ h hd => IsReady.step h hd) h hall

theorem isReady_start {path : Path} {params : KeyParams} {w : World} (hfull : w.random.IsFull)
    (hnow : w.now.IsValid) (htree : w.disk.IsTree) (hparams : params.IsAccepted) :
    (start path params w).IsReady where
  full := hfull
  now := hnow
  tree := htree
  params := hparams
  key := by rintro _ ⟨⟩
  sound := by rintro _ ⟨⟩

/-! ### All or nothing -/

/-- A command line on any open session. When it cannot be read, when its command is refused and when
it only looks, nothing changes. When a command that does more returns, the session is clean and the
file, sealed under its key, holds the vault with the command's effect. When the disk refuses the
file, the effect is kept in the vault and the file is as it was. No effect is left out: afterwards
the vault is what the command makes of it, however it ended. -/
theorem runLine_all_or_nothing {path : Path} {params : KeyParams} {w : World} {deeds : List Deed}
    (hfull : w.random.IsFull) (hnow : w.now.IsValid) (htree : w.disk.IsTree)
    (hparams : params.IsAccepted) (hdeeds : ∀ d ∈ deeds, d.IsProper) (current : Path)
    (line : String) :
    let t := (start path params w).run deeds
    let o := t.session.runLine current line t.world
    t.session.isOpen = true → ∃ v k, t.session.vault = some v ∧ t.session.key = some k ∧
      (∀ e, o.result = .error (.read e) → o.session = t.session ∧ o.world = t.world) ∧
      (∀ e, o.result = .error (.execute e) → ¬ Unsaved e →
        o.session = t.session ∧ o.world = t.world) ∧
      (∀ c, Command.parse line = .ok c → c.isReading = true →
        o.session = t.session ∧ o.world = t.world) ∧
      (∀ c r, Command.parse line = .ok c → c.isReading = false → o.result = .ok r →
        ∃ v', c.effect? current t.world v = some v' ∧
          o.session = { t.session with vault := some v', savedRevision := some v'.revision } ∧
          o.session.isDirty = false ∧ SealedAt o.world.disk t.session.path k v') ∧
      (∀ e, o.result = .error (.execute e) → Unsaved e →
        ∃ c v', Command.parse line = .ok c ∧ c.effect? current t.world v = some v' ∧
          o.session = { t.session with vault := some v' } ∧
          t.world.disk.Refused t.session.path o.world.disk ∧
          (o.world.disk.read t.session.path).toOption =
            (t.world.disk.read t.session.path).toOption) ∧
      ∀ c v', Command.parse line = .ok c → c.effect? current t.world v = some v' →
        o.session.vault = some v' := by
  intro t o hopen
  have hready : t.IsReady := (isReady_start hfull hnow htree hparams).run hdeeds
  obtain ⟨v, k, hv, hkey⟩ := exists_of_isOpen hopen
  have hk := hready.key k hkey
  refine ⟨v, k, hv, hkey, ?_⟩
  have ho : o = t.session.runLine current line t.world := rfl
  obtain ⟨result, heq, hrefused, hspares⟩ | ⟨c, v', w', hparse, hc, heffect,
      ⟨r, heq, hsealed⟩ | ⟨e, heq, he, hdisk⟩⟩ :=
    runLine_cases hv hkey hk (hready.sound v hv) hready.full hready.now current line
  · -- Nothing has changed, so all that is left is that nothing was to change.
    rw [heq] at ho
    rw [ho]
    refine ⟨fun _ _ => ⟨rfl, rfl⟩, fun _ _ _ => ⟨rfl, rfl⟩, fun _ _ _ => ⟨rfl, rfl⟩, ?_, ?_, ?_⟩
    · intro c r hparse hc hresult
      rw [(hspares c hparse).1 r hresult] at hc
      contradiction
    · intro e hresult he
      exact absurd he (hrefused e hresult)
    · intro c v' hparse heffect
      rw [(hspares c hparse).2 v' heffect]
      exact hv
  · -- The effect has been saved.
    have hclean : o.session.isDirty = false := by simp [ho, heq, isDirty, hkey]
    rw [heq] at ho
    rw [ho] at hclean ⊢
    refine ⟨by rintro _ ⟨⟩, by rintro _ ⟨⟩, ?_, ?_, by rintro _ ⟨⟩, ?_⟩
    · intro c' hparse' hc'
      cases hparse.symm.trans hparse'
      rw [hc] at hc'
      contradiction
    · intro c' r' hparse' _ _
      cases hparse.symm.trans hparse'
      exact ⟨v', heffect, rfl, hclean, hsealed⟩
    · intro c' v'' hparse' heffect'
      cases hparse.symm.trans hparse'
      exact heffect.symm.trans heffect'
  · -- The disk has refused the file; on a tree that leaves the file as it was, there or not.
    rw [heq] at ho
    rw [ho]
    refine ⟨by rintro _ ⟨⟩, ?_, ?_, by rintro _ _ _ _ ⟨⟩, ?_, ?_⟩
    · rintro _ ⟨⟩ he'
      exact absurd he he'
    · intro c' hparse' hc'
      cases hparse.symm.trans hparse'
      rw [hc] at hc'
      contradiction
    · rintro _ ⟨⟩ _
      exact ⟨c, v', hparse, heffect, rfl, hdisk, hdisk.read hready.tree⟩
    · intro c' v'' hparse' heffect'
      cases hparse.symm.trans hparse'
      exact heffect.symm.trans heffect'

/-- In a new vault there is nothing to delete. -/
theorem runLine_all_or_nothing_delete :
    let t := (start ⟨false, ["vault"]⟩ cheapParams blankWorld).run [.create "open sesame"]
    let o := t.session.runLine ⟨false, []⟩ "del mail" t.world
    t.session.isOpen = true ∧
      o.result = .error (.execute (.vault (.recordNotFound "mail"))) ∧
      o.session = t.session ∧ o.world = t.world := by
  intro t o
  obtain ⟨k, ht⟩ : ∃ k, t.session =
    ⟨⟨false, ["vault"]⟩, cheapParams, some .empty, some k, some 0⟩ := session_create
  have hopen : t.session.isOpen = true := by rw [ht]; rfl
  have hparse : Command.parse "del mail" = .ok (.delete "mail" []) :=
    eq_ok_of_toOption (by decide +kernel)
  have hresult : o.result = .error (.execute (.vault (.recordNotFound "mail"))) := by
    have ho : o = t.session.runLine ⟨false, []⟩ "del mail" t.world := rfl
    rw [ho, ht, runLine, hparse]
    rfl
  have hdeeds : ∀ d ∈ [Deed.create "open sesame"], d.IsProper :=
    List.forall_mem_singleton.mpr trivial
  obtain ⟨v, k', -, -, -, hrefused, -⟩ := runLine_all_or_nothing isFull_blankWorld
    isValid_blankWorld Disk.isTree_empty isAccepted_cheapParams hdeeds ⟨false, []⟩ "del mail" hopen
  exact ⟨hopen, hresult, hrefused _ hresult (not_unsaved_vault _)⟩

end State

end Session

/-! ### In the shell -/

namespace Shell

/-- The part of a shell that commands work on is the same. -/
def KeepsFile (sh sh' : Shell) : Prop :=
  sh'.session = sh.session ∧ sh'.world.disk = sh.world.disk

theorem keepsFile_present (sh : Shell) (c : Command) (r : CommandResult) :
    sh.KeepsFile (sh.present c r).2 := by
  unfold present
  split
  · unfold copyValue
    dsimp only
    split <;> exact ⟨rfl, rfl⟩
  · split <;> exact ⟨rfl, rfl⟩
  · exact ⟨rfl, rfl⟩
  · split <;> exact ⟨rfl, rfl⟩
  all_goals exact ⟨rfl, rfl⟩

/-- A command line in the shell does to the session and the disk what running it does. -/
theorem keepsFile_handle (sh : Shell) (line : String) :
    (sh.after (sh.session.runLine sh.base.current line sh.world)).KeepsFile (sh.handle line).2 := by
  unfold handle Session.runLine
  cases Command.parse line with
  | error e => cases e <;> exact ⟨rfl, rfl⟩
  | ok c =>
    dsimp only
    generalize sh.session.execute sh.base.current c sh.world = o
    obtain ⟨result, s, w⟩ := o
    cases result with
    | ok r => exact keepsFile_present (sh.after ⟨Except.ok r, s, w⟩) c r
    | error e =>
      dsimp only
      split
      · contradiction
      · unfold reportFile
        split <;> exact ⟨rfl, rfl⟩
      · split <;> exact ⟨rfl, rfl⟩
      · exact ⟨rfl, rfl⟩
      · exact ⟨rfl, rfl⟩

end Shell

end Coffer
