import Coffer.Proofs.Clipboard
import Coffer.Shell.Happening

/-!
What a dialogue does to the clipboard: it copies values, with the time that is set for them to be
cleared, and nothing else (`Shell.Copies`, `copies_answer`). So the clipboard of a dialogue is that of
a run of deeds, each of which follows from something that happened (`Shell.Follows`,
`exists_deeds_run`).

Main statement: `Shell.clipboard_run`.
-/

namespace Coffer.Shell

open Clipboard (Deed)

/-- The dialogue goes on with the same settings, and its clipboard is as it was or holds a copied
value. -/
inductive Copies (sh sh' : Shell) : Prop where
  | kept : sh'.settings = sh.settings → sh'.clipboard = sh.clipboard → Copies sh sh'
  | copied (value : String) : sh'.settings = sh.settings →
      sh.clipboard.copy value sh.settings.clipboardTimeout = .ok sh'.clipboard → Copies sh sh'

variable {sh : Shell}

theorem Copies.congr {sh₀ sh₁ sh' : Shell} (h : Copies sh sh')
    (hfirst : sh₀.settings = sh.settings ∧ sh₀.clipboard = sh.clipboard)
    (hlast : sh₁.settings = sh'.settings ∧ sh₁.clipboard = sh'.clipboard) : Copies sh₀ sh₁ := by
  obtain ⟨hsettings₀, hclipboard₀⟩ := hfirst
  obtain ⟨hsettings₁, hclipboard₁⟩ := hlast
  have hsettings : sh'.settings = sh.settings → sh₁.settings = sh₀.settings := by
    intro hsame
    rw [hsettings₁, hsame, hsettings₀]
  cases h with
  | kept hsame hclipboard =>
    exact .kept (hsettings hsame) (by rw [hclipboard₁, hclipboard, hclipboard₀])
  | copied value hsame hcopy =>
    rw [← hclipboard₀, ← hsettings₀, ← hclipboard₁] at hcopy
    exact .copied value (hsettings hsame) hcopy

/-! ### Replies -/

theorem copies_copyValue (key value : String) : Copies sh (sh.copyValue key value) := by
  unfold copyValue
  dsimp only
  split
  · exact .kept rfl rfl
  · next hcopy => exact .copied value rfl hcopy

theorem copies_present (c : Command) (r : CommandResult) : Copies sh (sh.present c r).2 := by
  unfold present
  split
  · exact copies_copyValue ..
  · split <;> exact .kept rfl rfl
  · exact .kept rfl rfl
  · split <;> exact .kept rfl rfl
  all_goals exact .kept rfl rfl

theorem copies_handle (line : String) : Copies sh (sh.handle line).2 := by
  unfold handle
  split
  · exact .kept rfl rfl
  · exact .kept rfl rfl
  · exact .kept rfl rfl
  · next c _ =>
    dsimp only
    split
    · next r _ =>
      -- carrying a command out does not touch the clipboard
      have hpresent : Copies (sh.after (sh.session.execute sh.base.current c sh.world)) _ :=
        copies_present c r
      exact hpresent.congr ⟨rfl, rfl⟩ ⟨rfl, rfl⟩
    · unfold reportFile
      split <;> exact .kept rfl rfl
    · split <;> exact .kept rfl rfl
    · exact .kept rfl rfl
    · exact .kept rfl rfl

theorem keeps_trySave (sh : Shell) :
    sh.trySave.2.settings = sh.settings ∧ sh.trySave.2.clipboard = sh.clipboard := by
  unfold trySave
  split
  · exact ⟨rfl, rfl⟩
  · dsimp only
    split <;> exact ⟨rfl, rfl⟩

theorem copies_tryLeave : Copies sh sh.tryLeave.2 := by
  obtain ⟨hsettings, hclipboard⟩ := keeps_trySave sh
  unfold tryLeave
  split
  · exact .kept rfl rfl
  · split <;> (next heq => rw [heq] at hsettings hclipboard; exact .kept hsettings hclipboard)

theorem copies_takeLine (text : String) : Copies sh (sh.takeLine text).2 := by
  obtain ⟨hsettings, hclipboard⟩ := keeps_trySave sh
  unfold takeLine
  dsimp only
  split
  · exact .kept rfl rfl
  · split
    · exact .kept rfl rfl
    · exact copies_tryLeave
    · split <;> (next heq => rw [heq] at hsettings hclipboard; exact .kept hsettings hclipboard)
    · exact .kept rfl rfl
    · exact copies_handle _

theorem copies_unlockVault (attempt : Nat) (password : String) :
    Copies sh (sh.unlockVault attempt password).2 := by
  have htryAgain : ∀ (sh' : Shell) (message : String), sh'.settings = sh.settings →
      sh'.clipboard = sh.clipboard → Copies sh (sh'.tryAgain attempt message).2 := by
    intro sh' message hsettings hclipboard
    unfold tryAgain
    dsimp only
    split <;> exact .kept hsettings hclipboard
  unfold unlockVault
  dsimp only
  split
  · exact .kept rfl rfl
  · exact .kept rfl rfl
  · exact htryAgain _ _ rfl rfl
  · exact htryAgain _ _ rfl rfl
  · exact .kept rfl rfl
  · exact .kept rfl rfl

theorem copies_takeConfirmation (purpose : Purpose) (first second : String) :
    Copies sh (sh.takeConfirmation purpose first second).2 := by
  unfold takeConfirmation
  split
  · exact .kept rfl rfl
  · cases purpose with
    | create =>
      unfold createVault
      dsimp only
      split <;> exact .kept rfl rfl
    | change =>
      unfold changePassword
      dsimp only
      split <;> exact .kept rfl rfl

/-- Whatever is replied to a question, no more is done to the clipboard than that a value is copied. -/
theorem copies_answer (stage : Stage) (r : Reply) : Copies sh (sh.answer stage r).2 := by
  unfold answer
  split
  · exact .kept rfl rfl
  · exact .kept rfl rfl
  · exact copies_unlockVault ..
  · unfold startCreation
    split
    · split <;> exact .kept rfl rfl
    · exact .kept rfl rfl
  · unfold takePassword
    split <;> exact .kept rfl rfl
  · exact copies_takeConfirmation ..
  · unfold checkPassword
    split <;> exact .kept rfl rfl
  · exact copies_takeLine _
  · exact .kept rfl rfl
  · exact copies_tryLeave
  · split <;> exact .kept rfl rfl
  all_goals exact .kept rfl rfl

theorem copies_reply (stage : Stage) (r : Reply) : Copies sh (sh.reply stage r).2 := by
  have hlock : ∀ p : Stage × Shell,
      (lock p).2.settings = p.2.settings ∧ (lock p).2.clipboard = p.2.clipboard := by
    rintro ⟨stage, sh'⟩
    rw [lock]
    dsimp only
    split <;> exact ⟨rfl, rfl⟩
  exact (copies_answer stage r).congr ⟨rfl, rfl⟩ (hlock (sh.answer stage r))

/-! ### Runs -/

/-- The deeds that something which happens leads to, if values are cleared after some time. -/
inductive Follows (timeout : Nat) : Happening → Deed → Prop where
  | copied (r : Reply) (value : String) : Follows timeout (.reply r) (.copied value timeout)
  | written (text : String) : Follows timeout (.clipboardWritten text) (.written text)
  | fired (index : Nat) : Follows timeout (.timeout index) (.fired index)

theorem Follows.isTimed {timeout : Nat} {h : Happening} {d : Deed} (hd : Follows timeout h d)
    (htimeout : 0 < timeout) : d.IsTimed := by
  cases hd with
  | copied r value => exact htimeout
  | written text => trivial
  | fired index => trivial

theorem exists_deeds_react (hworks : sh.clipboard.fault = none) (stage : Stage) {h : Happening}
    (hfault : ∀ reason, h ≠ .clipboardFault (some reason)) :
    (react (stage, sh) h).2.settings = sh.settings ∧
      ∃ deeds, (react (stage, sh) h).2.clipboard = sh.clipboard.run deeds ∧
        ∀ d ∈ deeds, Follows sh.settings.clipboardTimeout h d := by
  cases h with
  | reply r =>
    have hreply : Copies sh (sh.reply stage r).2 := copies_reply stage r
    cases hreply with
    | kept hsettings hclipboard => exact ⟨hsettings, [], hclipboard, nofun⟩
    | copied value hsettings hcopy =>
      refine ⟨hsettings, [.copied value sh.settings.clipboardTimeout], ?_, ?_⟩
      · rw [Clipboard.run, List.foldl_cons, List.foldl_nil, Clipboard.after, hcopy]
        rfl
      · exact List.forall_mem_singleton.mpr (.copied r value)
  | clock now => exact ⟨rfl, [], rfl, nofun⟩
  | diskFull isFull => exact ⟨rfl, [], rfl, nofun⟩
  | clipboardFault fault =>
    cases fault with
    | none =>
      refine ⟨rfl, [], ?_, nofun⟩
      rw [react, ← hworks]
      rfl
    | some reason => exact absurd rfl (hfault reason)
  | clipboardWritten text =>
    exact ⟨rfl, [.written text], rfl, List.forall_mem_singleton.mpr (.written text)⟩
  | timeout index =>
    refine ⟨?_, [.fired index], ?_, List.forall_mem_singleton.mpr (.fired index)⟩
    · rw [react, fireTimer]
      split <;> rfl
    · rw [react, fireTimer, Clipboard.run, List.foldl_cons, List.foldl_nil, Clipboard.after]
      split
      · next heq => rw [heq]
      · next heq => rw [heq]; rfl

/-- The clipboard of a dialogue is that of a run of deeds. -/
theorem exists_deeds_run {start : Stage × Shell} (hworks : start.2.clipboard.fault = none)
    {hs : List Happening} (hfault : ∀ reason, .clipboardFault (some reason) ∉ hs) :
    ∃ deeds, (run start hs).2.clipboard = start.2.clipboard.run deeds ∧
      ∀ d ∈ deeds, ∃ h ∈ hs, Follows start.2.settings.clipboardTimeout h d := by
  induction hs generalizing start with
  | nil => exact ⟨[], rfl, nofun⟩
  | cons h hs ih =>
    obtain ⟨stage, sh⟩ := start
    obtain ⟨hsettings, deeds, hclipboard, hdeeds⟩ := exists_deeds_react hworks stage
      fun reason heq => hfault reason (heq ▸ List.mem_cons_self)
    have hworks' : (react (stage, sh) h).2.clipboard.fault = none := by
      rw [hclipboard]
      exact Clipboard.fault_run hworks deeds
    obtain ⟨later, hlast, hlater⟩ := ih hworks'
      fun reason hmem => hfault reason (List.mem_cons_of_mem h hmem)
    -- The settings never change, so the time a copy is kept is the same all along.
    refine ⟨deeds ++ later, ?_, ?_⟩
    · rw [run, List.foldl_cons, ← run, hlast, hclipboard]
      exact List.foldl_append.symm
    · intro d hd
      rcases List.mem_append.mp hd with hd | hd
      · exact ⟨h, List.mem_cons_self, hdeeds d hd⟩
      · obtain ⟨h', hh', hfollows⟩ := hlater d hd
        rw [hsettings] at hfollows
        exact ⟨h', List.mem_cons_of_mem h hh', hfollows⟩

/-- **No copied value outlasts its time.** In any dialogue with a clipboard that works, where values
are to be cleared after some time: once no value is to be cleared any more, the clipboard is empty, or
holds what it held at first or what somebody else has written. -/
theorem clipboard_run {start : Stage × Shell} (hworks : start.2.clipboard.fault = none)
    (htimeout : 0 < start.2.settings.clipboardTimeout) {hs : List Happening}
    (hfault : ∀ reason, .clipboardFault (some reason) ∉ hs)
    (hpending : (run start hs).2.clipboard.pending = []) :
    let content := (run start hs).2.clipboard.content
    content = "" ∨ content = start.2.clipboard.content ∨ .clipboardWritten content ∈ hs := by
  intro content
  obtain ⟨deeds, hclipboard, hdeeds⟩ := exists_deeds_run hworks hfault
  have htimed : ∀ d ∈ deeds, d.IsTimed := by
    intro d hd
    obtain ⟨h, -, hfollows⟩ := hdeeds d hd
    exact hfollows.isTimed htimeout
  have hlast := Clipboard.content_run hworks htimed (hclipboard ▸ hpending)
  rw [← hclipboard] at hlast
  rcases hlast with hempty | ⟨before, later, heq, -⟩
  · exact .inl hempty
  · have hmem : Deed.written content ∈ .written start.2.clipboard.content :: deeds := by
      rw [heq]
      exact List.mem_append_right _ List.mem_cons_self
    rcases List.mem_cons.mp hmem with hsame | hmem
    · exact .inr (.inl (Deed.written.inj hsame))
    · obtain ⟨h, hh, hfollows⟩ := hdeeds _ hmem
      cases hfollows
      exact .inr (.inr hh)

end Coffer.Shell
