import Coffer.Proofs.Session.Durability
import Coffer.Shell.Happening
import Coffer.Start

/-!
How a dialogue ends, and what becomes of unsaved changes then. `Shell.Leads` says once what a reply
can lead to at each stage; from it follows what every run keeps (`Shell.Keeps`): no vault is open
while a password is asked for to open one, and the question whether to exit anyway is only asked
after a save that failed.

A dialogue should end only where there are no unsaved changes, or where the user has given them up
behind such a save (`Shell.GivenUp`). Any other end drops changes silently, and there are two: a
password change that is interrupted or closed at one of its questions, and an error that ends the
program (`Shell.dropsSilently_iff`). `Shell.dropsSilently_interrupted` is a run that loses a change
in the first of these ways.
-/

namespace Coffer

/-! ### Stages and replies -/

namespace Stage

def isOpening : Stage → Bool
  | .masterPassword _ | .createNow | .newPassword .create | .confirmPassword .create _ => true
  | _ => false

theorem isOver_of_isOpening {stage : Stage} (h : stage.isOpening = true) :
    stage.isOver = false := by
  cases stage <;> first | rfl | contradiction

def changesPassword : Stage → Bool
  | .currentPassword | .newPassword .change | .confirmPassword .change _ => true
  | _ => false

theorem isOver_of_changesPassword {stage : Stage} (h : stage.changesPassword = true) :
    stage.isOver = false := by
  cases stage <;> first | rfl | contradiction

/-- Whether the program has failed. -/
def isCrashed : Stage → Bool
  | .crashed _ => true
  | _ => false

theorem isOver_of_isCrashed {stage : Stage} (h : stage.isCrashed = true) : stage.isOver = true := by
  cases stage <;> first | rfl | contradiction

end Stage

namespace Reply

def isLine : Reply → Bool
  | .line _ => true
  | _ => false

def asksToLeave : Reply → Bool
  | .line text => ShellWord.ofLine? (Text.trim text.toList) == some .exit
  | .closed => true
  | .interrupted => false

/-- Whether a reply to the question whether to exit anyway gives unsaved changes up. -/
def givesUp : Reply → Bool
  | .line text => Shell.isYes text
  | .closed => true
  | .interrupted => false

end Reply

def Happening.isReply : Happening → Bool
  | .reply _ => true
  | _ => false

/-! ### Sessions -/

namespace Session

theorem isDirty_of_locked {s : Session} (h : s.vault = none) : s.isDirty = false := by
  rw [isDirty, h]

/-- Saving an open vault makes the session clean, and a save that fails changes nothing about it. -/
theorem save_outcome (s : Session) (w : World) :
    ((s.save w).result = .ok () ∧ (s.save w).session.isDirty = false) ∨
    ((∃ e, (s.save w).result = .error e) ∧ (s.save w).session = s) := by
  unfold save
  split
  · next v k hv hkey =>
    split
    · exact .inr ⟨⟨_, rfl⟩, rfl⟩
    · split
      · exact .inr ⟨⟨_, rfl⟩, rfl⟩
      · dsimp only
        split
        · exact .inr ⟨⟨_, rfl⟩, rfl⟩
        · split
          · exact .inr ⟨⟨_, rfl⟩, rfl⟩
          · exact .inl ⟨rfl, by simp [isDirty, hv, hkey]⟩
  · exact .inr ⟨⟨_, rfl⟩, rfl⟩

theorem vault_rekey (s : Session) (w : World) (password : String) :
    (s.rekey password w).session.vault = s.vault := by
  unfold rekey
  dsimp only
  split <;> rfl

/-- Opening a session comes to a result, or leaves it without the vault of the file. -/
theorem unlock_outcome (s : Session) (w : World) (password : String) :
    (s.unlock password w).result = .ok () ∨
      (s.unlock password w).session.vault = s.vault := by
  unfold unlock
  obtain ⟨e, hload, -⟩ | ⟨bytes, envelope, -, -, hload⟩ := load_cases s w
  · rw [hload]
    exact .inr rfl
  · rw [hload]
    dsimp only
    split
    · exact .inr rfl
    · exact .inr rfl
    · split
      · exact .inr rfl
      · split
        · have hrekey := vault_rekey s (w.note (.fileLoaded envelope.version bytes.length)) password
          split
          · next heq =>
            rw [heq] at hrekey
            exact .inr hrekey
          · exact .inl rfl
        · exact .inl rfl

/-- A vault that cannot be created for its file leaves none behind. -/
theorem create_outcome {s : Session} (w : World) (password : String) (hvault : s.vault = none)
    {e : FileError} (h : (s.create password w).result = .error (.file e)) :
    (s.create password w).session.vault = none := by
  revert h
  unfold create
  split
  · exact fun _ => hvault
  · split
    · exact nofun
    · split
      · exact fun _ => rfl
      · next f _ _ hfile _ =>
        intro h
        exact absurd (Except.error.inj h) (hfile e)
      · exact nofun

end Session

namespace Shell

/-- What a reply can lead to, stage by stage. -/
inductive Leads (sh : Shell) : Stage → Reply → Stage × Shell → Prop where
  /-- An error that nothing expects ends the program. -/
  | crashed {stage r sh'} (e : Crash) : Leads sh stage r (.crashed e, sh')
  /-- On the way to an open vault there is none. -/
  | opening {stage r stage' sh'} : stage.isOpening = true →
      (stage'.isOpening = true ∨ stage' = .finished 1) → sh'.session.vault = none →
      Leads sh stage r (stage', sh')
  | opened {stage r sh'} : stage.isOpening = true → Leads sh stage r (.command, sh')
  /-- A command is carried out, or a password change begins. -/
  | continued {r stage' sh'} : (stage' = .command ∨ stage' = .currentPassword) →
      Leads sh .command r (stage', sh')
  /-- The dialogue is left with nothing to save, or once that is saved. -/
  | left {r sh'} : sh'.session.isDirty = false → Leads sh .command r (.finished 0, sh')
  /-- The user wants to leave, and the last save fails. -/
  | refused {r sh' e} : r.asksToLeave = true → sh.session.isDirty = true →
      (sh.session.save sh.world).result = .error (.file e) →
      sh'.session = (sh.session.save sh.world).session → Leads sh .command r (.exitAnyway, sh')
  /-- A password change goes on, or is over. -/
  | changing {stage r stage' sh'} : stage.changesPassword = true → r.isLine = true →
      (stage' = .command ∨ stage'.changesPassword = true) → Leads sh stage r (stage', sh')
  /-- A password change is broken off, and the dialogue with it. -/
  | brokenOff {stage r sh'} : stage.changesPassword = true → r.isLine = false →
      sh'.session = sh.session → Leads sh stage r (.finished 1, sh')
  | stayed {r sh'} : Leads sh .exitAnyway r (.command, sh')
  | givenUp {r sh'} : r.givesUp = true → sh'.session = sh.session →
      Leads sh .exitAnyway r (.finished 0, sh')

variable {sh : Shell}

/-! #### Opening a vault -/

theorem leads_unlockVault (attempt : Nat) (password : String) (h : sh.session.vault = none) :
    Leads sh (.masterPassword attempt) (.line password) (sh.unlockVault attempt password) := by
  have hsession := sh.session.unlock_outcome sh.world password
  -- After the last attempt the program ends, and before it the question is asked again.
  have htryAgain : (sh.session.unlock password sh.world).session.vault = none →
      ∀ message : String, Leads sh (.masterPassword attempt) (.line password)
        ((sh.after (sh.session.unlock password sh.world)).tryAgain attempt message) := by
    intro hvault message
    unfold tryAgain
    dsimp only
    split
    · exact .opening rfl (.inl rfl) hvault
    · exact .opening rfl (.inr rfl) hvault
  unfold unlockVault
  dsimp only
  cases hresult : (sh.session.unlock password sh.world).result with
  | ok u => exact .opened rfl
  | error e =>
    rw [hresult] at hsession
    have hvault := (hsession.resolve_left nofun).trans h
    split
    · contradiction
    · exact .opening rfl (.inl rfl) hvault
    · exact htryAgain hvault _
    · exact htryAgain hvault _
    · exact .opening rfl (.inr rfl) hvault
    · exact .crashed _

theorem leads_createVault (first password : String) (h : sh.session.vault = none) :
    Leads sh (.confirmPassword .create first) (.line password) (sh.createVault first) := by
  have hsession := fun e => Session.create_outcome (e := e) sh.world first h
  unfold createVault
  dsimp only
  cases hresult : ((sh.success "Deriving encryption key...").session.create first
    (sh.success "Deriving encryption key...").world).result with
  | ok u => exact .opened rfl
  | error e =>
    split
    · contradiction
    · next f heq => exact .opening rfl (.inr rfl) (hsession f (hresult.trans heq))
    · exact .crashed _

/-! #### Leaving -/

theorem leads_tryLeave {r : Reply} (hr : r.asksToLeave = true) :
    Leads sh .command r sh.tryLeave := by
  have hsave := sh.session.save_outcome sh.world
  unfold tryLeave
  cases hdirty : sh.session.isDirty with
  | false => exact .left hdirty
  | true =>
    unfold trySave
    rw [hdirty]
    dsimp only [Bool.not_true, Bool.false_eq_true, if_false]
    cases hresult : (sh.session.save sh.world).result with
    | ok u =>
      rw [hresult] at hsave
      obtain ⟨-, hclean⟩ | ⟨⟨e, he⟩, -⟩ := hsave
      · exact .left hclean
      · contradiction
    | error e =>
      cases e with
      | file f => exact .refused hr hdirty hresult rfl
      | _ => exact .crashed _

/-! #### Commands and passwords -/

/-- The dialogue asks for the next command, or the program fails. -/
def Proceeds (p : Stage × Shell) : Prop :=
  p.1 = .command ∨ p.1.isCrashed = true

theorem Proceeds.leads {r : Reply} {p : Stage × Shell} (h : Proceeds p) :
    Leads sh .command r p := by
  obtain ⟨stage, sh'⟩ := p
  obtain rfl | hcrashed := h
  · exact .continued (.inl rfl)
  · cases stage with
    | crashed e => exact .crashed e
    | _ => contradiction

theorem proceeds_present (sh : Shell) (c : Command) (result : CommandResult) :
    Proceeds (sh.present c result) := by
  unfold present
  split
  · exact .inl rfl
  · split
    · exact .inl rfl
    · exact .inr rfl
  · exact .inl rfl
  · split <;> exact .inl rfl
  all_goals exact .inl rfl

theorem proceeds_reportFile (sh : Shell) (e : FileError) : Proceeds (sh.reportFile e) := by
  unfold reportFile
  split <;> exact .inl rfl

theorem proceeds_handle (sh : Shell) (line : String) : Proceeds (sh.handle line) := by
  unfold handle
  split
  · exact .inl rfl
  · exact .inl rfl
  · exact .inr rfl
  · dsimp only
    split
    · exact proceeds_present ..
    · exact proceeds_reportFile ..
    · split
      · exact .inl rfl
      · exact .inr rfl
    · exact .inr rfl
    · exact .inr rfl

theorem leads_takeLine (text : String) : Leads sh .command (.line text) (sh.takeLine text) := by
  unfold takeLine
  dsimp only
  split
  · exact .continued (.inl rfl)
  · split
    · exact .continued (.inl rfl)
    · next hword => exact leads_tryLeave (by simp only [Reply.asksToLeave, hword, beq_self_eq_true])
    · split
      · exact .crashed _
      · exact .continued (.inl rfl)
    · exact .continued (.inr rfl)
    · exact (proceeds_handle ..).leads

theorem leads_checkPassword (password : String) :
    Leads sh .currentPassword (.line password) (sh.checkPassword password) := by
  unfold checkPassword
  split
  · exact .changing rfl rfl (.inr rfl)
  · exact .changing rfl rfl (.inl rfl)
  · exact .crashed _

theorem leads_changePassword (first second : String) :
    Leads sh (.confirmPassword .change first) (.line second) (sh.changePassword first) := by
  unfold changePassword
  dsimp only
  split
  · exact .changing rfl rfl (.inl rfl)
  · exact .changing rfl rfl (.inl rfl)
  · exact .crashed _

theorem leads_takePassword {purpose : Purpose} (password : String)
    (h : purpose = .create → sh.session.vault = none) :
    Leads sh (.newPassword purpose) (.line password) (sh.takePassword purpose password) := by
  unfold takePassword
  cases purpose with
  | create => split <;> exact .opening rfl (.inl rfl) (h rfl)
  | change => split <;> exact .changing rfl rfl (.inr rfl)

theorem leads_takeConfirmation {purpose : Purpose} (first second : String)
    (h : purpose = .create → sh.session.vault = none) :
    Leads sh (.confirmPassword purpose first) (.line second)
      (sh.takeConfirmation purpose first second) := by
  unfold takeConfirmation
  cases purpose with
  | create =>
    split
    · exact .opening rfl (.inl rfl) (h rfl)
    · exact leads_createVault first second (h rfl)
  | change =>
    split
    · exact .changing rfl rfl (.inr rfl)
    · exact leads_changePassword first second

theorem leads_startCreation (r : Reply) (h : sh.session.vault = none) :
    Leads sh .createNow r sh.startCreation := by
  unfold startCreation
  split
  · exact .opening rfl (.inr rfl) h
  · exact .opening rfl (.inl rfl) h

theorem leads_answer {stage : Stage} (r : Reply) (hover : stage.isOver = false)
    (hopening : stage.isOpening = true → sh.session.vault = none) :
    Leads sh stage r (sh.answer stage r) := by
  -- While the vault is being opened, any reply but a line ends the program.
  have hcancel : stage.isOpening = true → Leads sh stage r sh.cancel :=
    fun h => .opening h (.inr rfl) (hopening h)
  cases stage with
  | finished code => contradiction
  | crashed e => contradiction
  | masterPassword attempt =>
    cases r with
    | line text => exact leads_unlockVault attempt text (hopening rfl)
    | closed => exact hcancel rfl
    | interrupted => exact hcancel rfl
  | createNow =>
    cases r with
    | line text =>
      rw [answer]
      split
      · exact leads_startCreation _ (hopening rfl)
      · exact .opening rfl (.inr rfl) (hopening rfl)
    | closed => exact hcancel rfl
    | interrupted => exact hcancel rfl
  | newPassword purpose =>
    cases r with
    | line text => exact leads_takePassword text fun h => hopening (by rw [h]; rfl)
    | closed | interrupted =>
      cases purpose with
      | create => exact hcancel rfl
      | change => exact .brokenOff rfl rfl rfl
  | confirmPassword purpose first =>
    cases r with
    | line text => exact leads_takeConfirmation first text fun h => hopening (by rw [h]; rfl)
    | closed | interrupted =>
      cases purpose with
      | create => exact hcancel rfl
      | change => exact .brokenOff rfl rfl rfl
  | command =>
    cases r with
    | line text => exact leads_takeLine text
    | closed => exact leads_tryLeave rfl
    | interrupted => exact .continued (.inl rfl)
  | currentPassword =>
    cases r with
    | line text => exact leads_checkPassword text
    | closed | interrupted => exact .brokenOff rfl rfl rfl
  | exitAnyway =>
    cases r with
    | line text =>
      rw [answer]
      split
      · next hyes => exact .givenUp hyes rfl
      · exact .stayed
    | closed => exact .givenUp rfl rfl
    | interrupted => exact .stayed

/-- A vault that is not open yet stays unopened as long as something is asked for to open it. -/
theorem Leads.vault_eq_none {stage : Stage} {r : Reply} {p : Stage × Shell}
    (h : Leads sh stage r p) (hopening : p.1.isOpening = true) : p.2.session.vault = none := by
  cases h with
  | opening _ _ hvault => exact hvault
  | continued hstage => obtain rfl | rfl := hstage <;> contradiction
  | @changing _ _ stage' _ _ _ hstage =>
    obtain rfl | hchanging := hstage
    · contradiction
    · cases stage' with
      | newPassword purpose | confirmPassword purpose =>
        cases purpose <;> contradiction
      | _ => contradiction
  | _ => contradiction

theorem Leads.of_exitAnyway {stage : Stage} {r : Reply} {p : Stage × Shell}
    (h : Leads sh stage r p) (hexit : p.1 = .exitAnyway) :
    stage = .command ∧ r.asksToLeave = true ∧ sh.session.isDirty = true ∧
      ∃ e, (sh.session.save sh.world).result = .error (.file e) ∧ p.2.session = sh.session := by
  cases h with
  | @refused _ _ e hasks hdirty hresult hsession =>
    refine ⟨rfl, hasks, hdirty, e, hresult, hsession.trans ?_⟩
    obtain ⟨hok, -⟩ | ⟨-, hsame⟩ := sh.session.save_outcome sh.world
    · rw [hok] at hresult
      contradiction
    · exact hsame
  | opening _ hstage _ =>
    dsimp only at hexit
    subst hexit
    obtain hstage | hstage := hstage <;> contradiction
  | continued hstage => obtain rfl | rfl := hstage <;> contradiction
  | changing _ _ hstage =>
    dsimp only at hexit
    subst hexit
    obtain hstage | hstage := hstage <;> contradiction
  | _ => contradiction

theorem lock_of_asking {p : Stage × Shell} (h : p.1.isOver = false) : lock p = p := by
  obtain ⟨stage, sh⟩ := p
  dsimp only at h
  rw [lock, h]
  rfl

/-! ### Runs -/

/-- Nothing but a reply changes the stage or the session. -/
theorem react_eq {h : Happening} (hreply : h.isReply = false) (p : Stage × Shell) :
    (react p h).1 = p.1 ∧ (react p h).2.session = p.2.session := by
  obtain ⟨stage, sh⟩ := p
  cases h with
  | reply r => contradiction
  | timeout index =>
    unfold react fireTimer
    dsimp only
    split <;> exact ⟨rfl, rfl⟩
  | _ => exact ⟨rfl, rfl⟩

theorem run_concat (start : Stage × Shell) (hs : List Happening) (h : Happening) :
    run start (hs ++ [h]) = react (run start hs) h := by
  rw [run, List.foldl_concat, run]

theorem run_append (start : Stage × Shell) (hs later : List Happening) :
    run start (hs ++ later) = run (run start hs) later :=
  List.foldl_append

/-- The last reply asked to leave a session with unsaved changes, and the save that followed failed
for the file. Nothing was tried on the session since. -/
def AfterFailedSave (start : Stage × Shell) (hs : List Happening) : Prop :=
  ∃ before asked since e, hs = before ++ .reply asked :: since ∧
    (∀ h ∈ since, h.isReply = false) ∧
    (run start before).1 = .command ∧ asked.asksToLeave = true ∧
    (run start before).2.session.isDirty = true ∧
    ((run start before).2.session.save (run start before).2.world).result = .error (.file e) ∧
    (run start hs).2.session = (run start before).2.session

theorem AfterFailedSave.concat {start : Stage × Shell} {hs : List Happening} {h : Happening}
    (hsaved : AfterFailedSave start hs) (hreply : h.isReply = false) :
    AfterFailedSave start (hs ++ [h]) := by
  obtain ⟨before, asked, since, e, rfl, hsince, hcommand, hasks, hdirty, hresult, hsession⟩ := hsaved
  refine ⟨before, asked, since ++ [h], e, by simp, ?_, hcommand, hasks, hdirty, hresult, ?_⟩
  · intro g hg
    obtain hg | hg := List.mem_append.mp hg
    · exact hsince g hg
    · rw [List.mem_singleton.mp hg]
      exact hreply
  · rw [run_concat, (react_eq hreply _).2]
    exact hsession

/-- What every run of a dialogue keeps. -/
structure Keeps (start : Stage × Shell) (hs : List Happening) : Prop where
  opening : (run start hs).1.isOpening = true → (run start hs).2.session.vault = none
  saved : (run start hs).1 = .exitAnyway → AfterFailedSave start hs

theorem keeps_reply {start : Stage × Shell} {hs : List Happening} (hkeeps : Keeps start hs)
    (r : Reply) : Keeps start (hs ++ [.reply r]) := by
  have hrun : run start (hs ++ [.reply r]) =
      lock ((run start hs).2.answer (run start hs).1 r) := run_concat start hs _
  cases hover : (run start hs).1.isOver with
  | true =>
    -- A dialogue that is over is over for good.
    have hstage : (run start (hs ++ [.reply r])).1 = (run start hs).1 := by
      rw [hrun]
      generalize run start hs = p at hover
      obtain ⟨stage, sh⟩ := p
      cases stage <;> first | rfl | contradiction
    constructor
    · intro h
      rw [hstage] at h
      generalize (run start hs).1 = stage at hover h
      cases stage <;> contradiction
    · intro h
      rw [← hstage, h] at hover
      contradiction
  | false =>
    have hleads := leads_answer r hover hkeeps.opening
    generalize (run start hs).2.answer (run start hs).1 r = p at hrun hleads
    have hstage : (run start (hs ++ [.reply r])).1 = p.1 := by rw [hrun, lock]
    constructor
    · intro h
      rw [hstage] at h
      -- A question is no end, so nothing is locked behind it.
      rw [hrun, lock_of_asking (Stage.isOver_of_isOpening h)]
      exact hleads.vault_eq_none h
    · intro h
      rw [hstage] at h
      obtain ⟨hcommand, hasks, hdirty, e, hresult, hsession⟩ := hleads.of_exitAnyway h
      refine ⟨hs, r, [], e, rfl, nofun, hcommand, hasks, hdirty, hresult, ?_⟩
      rw [hrun, lock_of_asking (by rw [h]; rfl)]
      exact hsession

theorem keeps_run {start : Stage × Shell} (hstart : Keeps start []) (hs : List Happening) :
    Keeps start hs := by
  induction hs using List.reverseRecOn with
  | nil => exact hstart
  | append_singleton hs h ih =>
    cases hreply : h.isReply with
    | true =>
      cases h with
      | reply r => exact keeps_reply ih r
      | _ => contradiction
    | false =>
      obtain ⟨hstage, hsession⟩ := react_eq hreply (run start hs)
      rw [← run_concat] at hstage hsession
      constructor
      · intro h
        rw [hstage] at h
        rw [hsession]
        exact ih.opening h
      · intro h
        rw [hstage] at h
        exact (ih.saved h).concat hreply

theorem keeps_openDialogue (verb : CommandLine.Verb) (settings : Settings) (base : Base) (w : World) :
    Keeps (Start.openDialogue verb settings base w) [] := by
  unfold Start.openDialogue
  dsimp only
  cases verb with
  | unlock => exact ⟨fun _ => rfl, nofun⟩
  | init =>
    dsimp only
    unfold startCreation
    split
    · exact ⟨nofun, nofun⟩
    · exact ⟨fun _ => rfl, nofun⟩

/-! ### Ends -/

section Ends

variable (start : Stage × Shell) (hs : List Happening) (r : Reply)

/-- The stage and the shell a reply leads to, with the vault still open. -/
def answered : Stage × Shell :=
  (run start hs).2.answer (run start hs).1 r

def Ends : Prop :=
  (run start hs).1.isOver = false ∧ (answered start hs r).1.isOver = true

/-- The user is asked whether to exit anyway, after a save that failed, and does. -/
def GivenUp : Prop :=
  (run start hs).1 = .exitAnyway ∧ r.givesUp = true ∧ AfterFailedSave start hs

/-- The dialogue ends with unsaved changes that the user has not given up. -/
def DropsSilently : Prop :=
  Ends start hs r ∧ (answered start hs r).2.session.isDirty = true ∧ ¬ GivenUp start hs r

end Ends

theorem isOver_brokenOff {sh : Shell} {stage : Stage} {r : Reply}
    (hchanging : stage.changesPassword = true) (hline : r.isLine = false) :
    (sh.answer stage r).1.isOver = true := by
  cases r with
  | line text => contradiction
  | closed | interrupted => cases stage <;> first | rfl | contradiction

theorem isCrashed_givenUp {sh : Shell} {r : Reply} (hgives : r.givesUp = true) :
    (sh.answer .exitAnyway r).1.isCrashed = false := by
  cases r with
  | line text =>
    have hyes : isYes text = true := hgives
    rw [answer, if_pos hyes]
    rfl
  | closed => rfl
  | interrupted => contradiction

/-- Unsaved changes are dropped silently in two ways only: the user leaves a password change at one
of its questions, or the program fails. -/
theorem dropsSilently_iff (verb : CommandLine.Verb) (settings : Settings) (base : Base) (w : World)
    (hs : List Happening) (r : Reply) :
    let start := Start.openDialogue verb settings base w
    DropsSilently start hs r ↔ (answered start hs r).2.session.isDirty = true ∧
      ((run start hs).1.changesPassword = true ∧ r.isLine = false ∨
        (run start hs).1.isOver = false ∧ (answered start hs r).1.isCrashed = true) := by
  intro start
  have hkeeps : Keeps start hs := keeps_run (keeps_openDialogue verb settings base w) hs
  constructor
  · rintro ⟨⟨hover, hend⟩, hdirty, hkept⟩
    refine ⟨hdirty, ?_⟩
    have hleads : Leads (run start hs).2 (run start hs).1 r (answered start hs r) :=
      leads_answer r hover hkeeps.opening
    generalize answered start hs r = p at hend hdirty hleads
    generalize hstage : (run start hs).1 = stage at hover hleads
    cases hleads with
    | crashed e => exact .inr ⟨hover, rfl⟩
    | opening _ _ hvault =>
      rw [Session.isDirty_of_locked hvault] at hdirty
      contradiction
    | left hclean =>
      rw [hclean] at hdirty
      contradiction
    | brokenOff hchanging hline _ => exact .inl ⟨hchanging, hline⟩
    | givenUp hgives _ => exact absurd ⟨hstage, hgives, hkeeps.saved hstage⟩ hkept
    | continued hnext => obtain rfl | rfl := hnext <;> contradiction
    | changing _ _ hnext =>
      obtain rfl | hnext := hnext
      · contradiction
      · rw [Stage.isOver_of_changesPassword hnext] at hend
        contradiction
    | opened _ | refused _ _ _ _ | stayed => contradiction
  · rintro ⟨hdirty, hway⟩
    have hends : Ends start hs r := by
      obtain ⟨hchanging, hline⟩ | ⟨hover, hcrashed⟩ := hway
      · exact ⟨Stage.isOver_of_changesPassword hchanging, isOver_brokenOff hchanging hline⟩
      · exact ⟨hover, Stage.isOver_of_isCrashed hcrashed⟩
    refine ⟨hends, hdirty, ?_⟩
    rintro ⟨hexit, hgives, -⟩
    rw [answered, hexit] at hway
    obtain ⟨hchanging, -⟩ | ⟨-, hcrashed⟩ := hway
    · contradiction
    · rw [isCrashed_givenUp hgives] at hcrashed
      contradiction

/-! ### A change that is lost -/

section Lost

open Session.State (blankWorld cheapParams isAccepted_cheapParams isFull_blankWorld
  isValid_blankWorld)

/-- While nothing can be written, storing fields leaves the session with unsaved changes. -/
theorem isDirty_execute_set {s : Session} {w : World} {v v' : Vault} {k : SessionKey}
    {password name : String} {fields : List Field} {record : Record} {ids : IdSource}
    (hv : s.vault = some v) (hkey : s.key = some k) (hk : k.IsOf password)
    (hset : v.set w.now w.ids name fields = .ok (record, v', ids)) (hsound : v'.IsSound)
    (hchanged : s.savedRevision ≠ some v'.revision) (hw : w.random.IsFull)
    (hfull : ∀ bytes, ∃ d, w.disk.store s.path bytes = (.error .full, d)) (current : Path) :
    ∃ s' w', s.execute current (.set ⟨name, fields⟩) w =
        ⟨.error (.session (.file ⟨.cannotWrite .full, s.path.text⟩)), s', w'⟩ ∧
      s'.isDirty = true := by
  -- The new vault is kept although it cannot be saved, whether its record is noted as new or not.
  have hcommit : ∀ w' : World, w'.random.bytes = w.random.bytes → w'.disk = w.disk →
      ∀ c result, ∃ s' w'', s.commit c result v' w' =
        ⟨.error (.session (.file ⟨.cannotWrite .full, s.path.text⟩)), s', w''⟩ ∧
        s'.isDirty = true := by
    intro w' hbytes hdisk c result
    have hw' : w'.random.IsFull := by
      intro n size
      rw [hbytes]
      exact hw n size
    obtain ⟨bytes, random, -, -, hsave⟩ :=
      Session.save_eq (s := { s with vault := some v' }) rfl hkey hk.isFit hsound hw'
    obtain ⟨d, hstore⟩ := hfull bytes
    rw [hdisk, hstore] at hsave
    refine ⟨{ s with vault := some v' }, { w' with random, disk := d }, ?_, ?_⟩
    · rw [Session.commit, hsave]
    · simpa [Session.isDirty, hkey] using hchanged
  unfold Session.execute
  rw [hv]
  dsimp only
  rw [hset]
  dsimp only
  split
  · exact hcommit { w with ids } rfl rfl _ _
  · exact hcommit ({ w with ids }.note (.recordCreated name)) rfl rfl _ _

/-- A dialogue that starts with the creation of a vault on an empty disk. -/
def firstDialogue : Stage × Shell :=
  Start.openDialogue .init { vaultPath := "/vault", params := cheapParams }
    ⟨⟨false, []⟩, ⟨false, []⟩⟩ blankWorld

/-- The vault is created, and then there is no more space. -/
def creation : List Happening :=
  [.reply (.line "password1"), .reply (.line "password1"), .diskFull true]

def createdSession (k : SessionKey) : Session :=
  { firstDialogue.2.session with vault := some .empty, key := some k, savedRevision := some 0 }

theorem run_creation : ∃ sh k, run firstDialogue creation = (.command, sh) ∧
    sh.session = createdSession k ∧ k.IsOf "password1" ∧
    sh.world.random.IsFull ∧ sh.world.now.IsValid ∧
    ∀ bytes, ∃ d, sh.world.disk.store firstDialogue.2.session.path bytes = (.error .full, d) := by
  obtain ⟨k, bytes, random, hk, -, hrandom, hcreate⟩ :=
    Session.create_eq (s := firstDialogue.2.session) (w := blankWorld) isAccepted_cheapParams
      isFull_blankWorld "password1" rfl
  have hfull : random.IsFull := by
    intro n size
    rw [hrandom]
    exact isFull_blankWorld n size
  have hstore : blankWorld.disk.store firstDialogue.2.session.path bytes =
      (.ok (), blankWorld.disk.put firstDialogue.2.session.path (.file bytes)) := rfl
  rw [hstore] at hcreate
  have hworld : (firstDialogue.2.success "Deriving encryption key...").world = blankWorld := rfl
  have hsession : (firstDialogue.2.success "Deriving encryption key...").session =
      firstDialogue.2.session := rfl
  have hrun : run firstDialogue creation =
      react (lock (firstDialogue.2.createVault "password1")) (.diskFull true) := rfl
  rw [hrun, createVault]
  dsimp only at hcreate ⊢
  rw [hworld, hsession, hcreate]
  exact ⟨_, k, rfl, rfl, hk, hfull, isValid_blankWorld, fun bytes' => ⟨_, rfl⟩⟩

theorem parse_set :
    Command.parse "set a b = c" = .ok (.set ⟨"a", [{ key := "b", value := "c" }]⟩) :=
  eq_ok_of_toOption (by decide +kernel)

theorem reply_set {sh : Shell} {k : SessionKey} {password : String} (hk : k.IsOf password)
    (hsession : sh.session = createdSession k) (hw : sh.world.random.IsFull)
    (hnow : sh.world.now.IsValid)
    (hfull : ∀ bytes, ∃ d,
      sh.world.disk.store firstDialogue.2.session.path bytes = (.error .full, d)) :
    ∃ sh', sh.reply .command (.line "set a b = c") = (.command, sh') ∧
      sh'.session.isDirty = true := by
  obtain ⟨record, v, ids, hset, hrevision⟩ : ∃ record v ids, Vault.empty.set sh.world.now
      sh.world.ids "a" [{ key := "b", value := "c" }] = .ok (record, v, ids) ∧ v.revision = 1 :=
    ⟨_, _, _, rfl, rfl⟩
  have hsound : v.IsSound := by
    have hperform : v = (Vault.perform sh.world.now (.empty, sh.world.ids)
        (.set "a" [{ key := "b", value := "c" }])).1 := by
      simp only [Vault.perform, hset]
    rw [hperform]
    exact Vault.isSound_perform hnow (.empty, sh.world.ids) Vault.isSound_empty _
  obtain ⟨s', w', hexecute, hdirty⟩ := isDirty_execute_set (s := sh.session) (k := k)
    (by rw [hsession]; rfl) (by rw [hsession]; rfl) hk hset hsound
    (by simp [hsession, hrevision, createdSession]) hw (by rw [hsession]; exact hfull) sh.base.current
  -- The failure is reported, in one way or another, and the next command is asked for.
  have hhandle : ∃ sh', sh.handle "set a b = c" = (.command, sh') ∧ sh'.session = s' := by
    unfold handle
    rw [parse_set]
    dsimp only
    rw [hexecute]
    dsimp only
    unfold reportFile
    split <;> exact ⟨_, rfl, rfl⟩
  obtain ⟨sh', hhandle, rfl⟩ := hhandle
  have hanswer : sh.answer .command (.line "set a b = c") = sh.handle "set a b = c" := rfl
  refine ⟨sh', ?_, hdirty⟩
  rw [reply, hanswer, hhandle]
  rfl

/-- A password change that is interrupted at its first question drops the change before it, which
could not be saved. -/
theorem dropsSilently_interrupted :
    DropsSilently firstDialogue
      (creation ++ [.reply (.line "set a b = c"), .reply (.line "passwd")]) .interrupted := by
  obtain ⟨sh, k, hrun, hsession, hk, hw, hnow, hfull⟩ := run_creation
  obtain ⟨sh', hset, hdirty⟩ := reply_set hk hsession hw hnow hfull
  have hset' : react (.command, sh) (.reply (.line "set a b = c")) = (.command, sh') := hset
  have hpasswd : react (.command, sh') (.reply (.line "passwd")) = (.currentPassword, sh') := rfl
  have hlater : run firstDialogue
      (creation ++ [.reply (.line "set a b = c"), .reply (.line "passwd")]) =
      (.currentPassword, sh') := by
    rw [run_append, hrun, run, List.foldl_cons, List.foldl_cons, List.foldl_nil, hset', hpasswd]
  have hanswered : answered firstDialogue
      (creation ++ [.reply (.line "set a b = c"), .reply (.line "passwd")]) .interrupted =
      sh'.cancel := by
    rw [answered, hlater]
    rfl
  refine ⟨⟨?_, ?_⟩, ?_, ?_⟩
  · rw [hlater]
    rfl
  · rw [hanswered]
    rfl
  · rw [hanswered]
    exact hdirty
  · rintro ⟨hexit, -⟩
    rw [hlater] at hexit
    contradiction

end Lost

end Shell

end Coffer
