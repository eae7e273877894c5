import Coffer.Proofs.Session.Keys
import Coffer.Proofs.Shell.Ending

/-!
A new master password is always confirmed. `Shell.Turn` says once what a reply does to the key of a
session and to its file: it brings no new key (`Shell.Retains`), it opens the file, it is a step of
the dialogue in which a new password is chosen, or it seals the file under the password that was
chosen. From it follows what every run keeps (`Shell.Accounts`): when a new password is to be
confirmed it was typed at the question before (`Shell.Chosen`), when the password is being changed
the current one was given first (`Shell.Vouched`), and the key of the session is that of a password
that opened the file or was chosen (`Shell.Source`).

Main statement: whenever the file changes, it is sealed under the key that the session had, or under
the key of a password that was chosen and has just been confirmed (`Shell.newKey_confirmed`).
-/

namespace Coffer

namespace Stage

/-- Whether the password that is to replace the current one is asked for, or asked for again. -/
def asksReplacement : Stage → Bool
  | .newPassword .change | .confirmPassword .change _ => true
  | _ => false

/-- Whether a stage says nothing about passwords typed before. -/
def isPlain : Stage → Bool
  | .currentPassword | .newPassword .change | .confirmPassword .. => false
  | _ => true

end Stage

namespace Shell

/-- The file that a dialogue is about, if there is one. -/
def vaultFile (sh : Shell) : Option Bytes :=
  sh.world.disk.file? sh.session.path

theorem Proceeds.isPlain {p : Stage × Shell} (h : Proceeds p) : p.1.isPlain = true := by
  obtain ⟨stage, sh⟩ := p
  obtain rfl | hcrashed := h
  · rfl
  · cases stage <;> first | rfl | contradiction

/-! ### Replies -/

/-- No new key: the file is as it was, or sealed under the key that there was. -/
structure Retains (sh : Shell) (p : Stage × Shell) : Prop where
  tree : p.2.world.disk.IsTree
  key : p.1.isOver = false → p.2.session.key = sh.session.key
  file : p.2.vaultFile = sh.vaultFile ∨
    ∃ k bytes, sh.session.key = some k ∧ p.2.vaultFile = some bytes ∧
      Session.SealedUnder k bytes

/-- What a reply does to the key and the file, stage by stage. -/
inductive Turn (sh : Shell) : Stage → Reply → Stage × Shell → Prop where
  | retained {stage r p} (retains : Retains sh p) (plain : p.1.isPlain = true) : Turn sh stage r p
  /-- The file is opened, and the session has a key of the password. -/
  | opened {attempt bytes k sh'} {password : String} (tree : sh'.world.disk.IsTree)
      (same : sh'.vaultFile = sh.vaultFile) (key : sh'.session.key = some k)
      (derived : k.ComesFrom password) (file : sh.vaultFile = some bytes)
      (opens : Session.IsOpenedBy password bytes) :
      Turn sh (.masterPassword attempt) (.line password) (.command, sh')
  /-- A password change begins. -/
  | begun {text} (word : ShellWord.ofLine? (Text.trim text.toList) = some .passwd) :
      Turn sh .command (.line text) (.currentPassword, sh)
  /-- The current password was given. -/
  | vouched {password : String} (right : sh.session.verify password = .ok true) :
      Turn sh .currentPassword (.line password) (.newPassword .change, sh)
  /-- The password that is to replace the current one is too short, or was not repeated. -/
  | refused {stage r sh'} (asks : stage.asksReplacement = true) (session : sh'.session = sh.session)
      (world : sh'.world = sh.world) : Turn sh stage r (.newPassword .change, sh')
  /-- A new password is to be confirmed. -/
  | chosen {purpose password} (long : minPasswordLength ≤ password.length) :
      Turn sh (.newPassword purpose) (.line password) (.confirmPassword purpose password, sh)
  /-- A new password was confirmed, and the file is sealed under it. -/
  | confirmed {purpose sh'} {password : String}
      (rekeys : Session.Rekeys password sh.session sh.world sh'.session sh'.world) :
      Turn sh (.confirmPassword purpose password) (.line password) (.command, sh')

section Replies

variable {sh : Shell} {p : Stage × Shell}

theorem retains_of_session {s : Session} {w : World}
    (h : Session.Retains sh.session sh.world s w) (hsession : p.2.session = s)
    (hdisk : p.2.world.disk = w.disk) : Retains sh p := by
  subst hsession
  refine ⟨hdisk ▸ h.tree, fun _ => h.key, ?_⟩
  rw [vaultFile, vaultFile, h.path, hdisk]
  exact h.file

/-- If nothing was stored, only the key is left to look at. -/
theorem retains_of_writes
    (h : Session.Writes sh.session sh.world p.2.session p.2.world false)
    (htree : sh.world.disk.IsTree)
    (hkey : p.1.isOver = false → p.2.session.key = sh.session.key) : Retains sh p := by
  refine ⟨h.tree htree, hkey, .inl ?_⟩
  obtain ⟨-, hfile⟩ | ⟨hstored, -⟩ := h.file htree
  · rw [vaultFile, h.path_eq, hfile, vaultFile]
  · contradiction

theorem retains_of_eq (htree : sh.world.disk.IsTree) (hsession : p.2.session = sh.session)
    (hworld : p.2.world.disk = sh.world.disk) : Retains sh p :=
  retains_of_writes (.kept (by rw [hsession]) hworld) htree fun _ => by rw [hsession]

/-! #### Opening a vault -/

theorem turn_unlockVault (htree : sh.world.disk.IsTree) (attempt : Nat) (password : String) :
    Turn sh (.masterPassword attempt) (.line password) (sh.unlockVault attempt password) := by
  have hunlocks := Session.unlock_unlocks password sh.session sh.world
  unfold unlockVault
  dsimp only
  generalize sh.session.unlock password sh.world = o at hunlocks
  cases hunlocks with
  | opened path disk key derived file opens =>
    refine .opened (disk ▸ htree) ?_ key derived file opens
    exact congrArg₂ Disk.file? disk path
  | @refused e w disk =>
    -- However the refusal is answered, by another try or by leaving, key and file stay.
    have hrefused : ∀ p : Stage × Shell, p.2.session = sh.session → p.2.world = w →
        p.1.isPlain = true → Turn sh (.masterPassword attempt) (.line password) p :=
      fun p hsession hworld hplain =>
        .retained (retains_of_eq htree hsession (by rw [hworld, disk])) hplain
    have htryAgain : ∀ message, Turn sh (.masterPassword attempt) (.line password)
        ((sh.after (⟨.error e, sh.session, w⟩ : Outcome SessionError Unit)).tryAgain attempt
          message) := by
      intro message
      unfold tryAgain
      dsimp only
      split <;> exact hrefused _ rfl rfl rfl
    dsimp only
    split
    · contradiction
    · exact hrefused _ rfl rfl rfl
    · exact htryAgain _
    · exact htryAgain _
    · exact hrefused _ rfl rfl rfl
    · exact hrefused _ rfl rfl rfl
  | underived path disk =>
    exact .retained (retains_of_writes (.kept path disk) htree nofun) rfl

theorem turn_startCreation (htree : sh.world.disk.IsTree) (stage : Stage) (r : Reply) :
    Turn sh stage r sh.startCreation := by
  unfold startCreation
  split <;> exact .retained (retains_of_eq htree rfl rfl) rfl

/-! #### New passwords -/

theorem turn_takePassword (htree : sh.world.disk.IsTree) (purpose : Purpose) (password : String) :
    Turn sh (.newPassword purpose) (.line password) (sh.takePassword purpose password) := by
  unfold takePassword
  split
  · cases purpose with
    | create => exact .retained (retains_of_eq htree rfl rfl) rfl
    | change => exact .refused rfl rfl rfl
  · next hlong => exact .chosen (Nat.le_of_not_lt hlong)

theorem turn_createVault (htree : sh.world.disk.IsTree) (password : String) :
    Turn sh (.confirmPassword .create password) (.line password) (sh.createVault password) := by
  have hwrites := Session.create_writes password sh.session sh.world
  have hrekeys : (sh.session.create password sh.world).result = .ok () → _ :=
    Session.create_rekeys htree
  have hsame : (sh.success "Deriving encryption key...").session.create password
      (sh.success "Deriving encryption key...").world = sh.session.create password sh.world := rfl
  unfold createVault
  dsimp only
  rw [hsame]
  generalize sh.session.create password sh.world = o at hwrites hrekeys
  obtain ⟨result, s, w⟩ := o
  cases result with
  | ok u => exact .confirmed (hrekeys rfl)
  | error e =>
    dsimp only
    split
    · contradiction
    · exact .retained (retains_of_writes hwrites htree nofun) rfl
    · exact .retained (retains_of_writes hwrites htree nofun) rfl

theorem turn_changePassword (htree : sh.world.disk.IsTree) (password : String) :
    Turn sh (.confirmPassword .change password) (.line password) (sh.changePassword password) := by
  have hwrites := Session.changePassword_writes password sh.session sh.world
  have hrekeys : (sh.session.changePassword password sh.world).result = .ok () → _ :=
    Session.changePassword_rekeys htree
  have hkey : ∀ e, (sh.session.changePassword password sh.world).result = .error (.file e) → _ :=
    fun _ => Session.key_changePassword
  -- What is said first does not matter to the session.
  have hsame : (sh.success "Re-encrypting vault...").session.changePassword password
      (sh.success "Re-encrypting vault...").world = sh.session.changePassword password sh.world :=
    rfl
  unfold changePassword
  dsimp only
  rw [hsame]
  generalize sh.session.changePassword password sh.world = o at hwrites hrekeys hkey
  obtain ⟨result, s, w⟩ := o
  cases result with
  | ok u => exact .confirmed (hrekeys rfl)
  | error e =>
    dsimp only
    split
    · contradiction
    · next f heq =>
      exact .retained (retains_of_writes hwrites htree fun _ => hkey f heq) rfl
    · exact .retained (retains_of_writes hwrites htree nofun) rfl

theorem turn_takeConfirmation (htree : sh.world.disk.IsTree) (purpose : Purpose)
    (first second : String) : Turn sh (.confirmPassword purpose first) (.line second)
      (sh.takeConfirmation purpose first second) := by
  unfold takeConfirmation
  split
  · cases purpose with
    | create => exact .retained (retains_of_eq htree rfl rfl) rfl
    | change => exact .refused rfl rfl rfl
  · next hsame =>
    obtain rfl := Decidable.of_not_not hsame
    cases purpose with
    | create => exact turn_createVault htree first
    | change => exact turn_changePassword htree first

theorem turn_checkPassword (htree : sh.world.disk.IsTree) (password : String) :
    Turn sh .currentPassword (.line password) (sh.checkPassword password) := by
  unfold checkPassword
  split
  · next hright => exact .vouched hright
  · exact .retained (retains_of_eq htree rfl rfl) rfl
  · exact .retained (retains_of_eq htree rfl rfl) rfl

/-! #### Commands -/

theorem retains_handle (htree : sh.world.disk.IsTree) (line : String) :
    Retains sh (sh.handle line) := by
  obtain ⟨hsession, hdisk⟩ := keepsFile_handle sh line
  exact retains_of_session (Session.retains_runLine htree sh.base.current line) hsession hdisk

theorem retains_trySave (htree : sh.world.disk.IsTree) :
    Session.Retains sh.session sh.world sh.trySave.2.session sh.trySave.2.world := by
  have hsave := Session.retains_save (s := sh.session) htree
  unfold trySave
  split
  · exact .refl htree
  · dsimp only
    split
    · exact hsave
    · exact hsave.note _
    · exact hsave

theorem turn_tryLeave (htree : sh.world.disk.IsTree) (stage : Stage) (r : Reply) :
    Turn sh stage r sh.tryLeave := by
  have hsave := retains_trySave htree
  unfold tryLeave
  split
  · exact .retained (retains_of_eq htree rfl rfl) rfl
  · split <;> (next heq =>
      rw [heq] at hsave
      exact .retained (retains_of_session hsave rfl rfl) rfl)

theorem turn_takeLine (htree : sh.world.disk.IsTree) (text : String) :
    Turn sh .command (.line text) (sh.takeLine text) := by
  have hsave := retains_trySave htree
  unfold takeLine
  dsimp only
  split
  · exact .retained (retains_of_eq htree rfl rfl) rfl
  · split
    · exact .retained (retains_of_eq htree rfl rfl) rfl
    · exact turn_tryLeave htree _ _
    · split <;> (next heq =>
        rw [heq] at hsave
        exact .retained (retains_of_session hsave rfl rfl) rfl)
    · next hword => exact .begun hword
    · exact .retained (retains_handle htree _) (proceeds_handle ..).isPlain

/-- A reply does no more to the key and the file than it may at its stage. -/
theorem turn_answer (htree : sh.world.disk.IsTree) (stage : Stage) (r : Reply) :
    Turn sh stage r (sh.answer stage r) := by
  -- Most replies only lead to another question.
  have hsame : ∀ p : Stage × Shell, p.2.session = sh.session → p.2.world = sh.world →
      p.1.isPlain = true → Turn sh stage r p :=
    fun p hsession hworld hplain => .retained (retains_of_eq htree hsession (by rw [hworld])) hplain
  cases stage with
  | finished code | crashed e => exact hsame _ rfl rfl rfl
  | masterPassword attempt =>
    cases r with
    | line text => exact turn_unlockVault htree attempt text
    | closed | interrupted => exact hsame _ rfl rfl rfl
  | createNow =>
    cases r with
    | line text =>
      rw [answer]
      split
      · exact turn_startCreation htree _ _
      · exact hsame _ rfl rfl rfl
    | closed | interrupted => exact hsame _ rfl rfl rfl
  | newPassword purpose =>
    cases r with
    | line text => exact turn_takePassword htree purpose text
    | closed | interrupted => exact hsame _ rfl rfl rfl
  | confirmPassword purpose first =>
    cases r with
    | line text => exact turn_takeConfirmation htree purpose first text
    | closed | interrupted => exact hsame _ rfl rfl rfl
  | command =>
    cases r with
    | line text => exact turn_takeLine htree text
    | closed => exact turn_tryLeave htree _ _
    | interrupted => exact hsame _ rfl rfl rfl
  | currentPassword =>
    cases r with
    | line text => exact turn_checkPassword htree text
    | closed | interrupted => exact hsame _ rfl rfl rfl
  | exitAnyway =>
    cases r with
    | line text =>
      rw [answer]
      split <;> exact hsame _ rfl rfl rfl
    | closed | interrupted => exact hsame _ rfl rfl rfl

/-- A file that a reply changes is sealed under the key that there was, or the reply confirms a new
password, and the file is sealed under its key. -/
theorem Turn.sealed {stage : Stage} {r : Reply} (h : Turn sh stage r p)
    (hchanged : p.2.vaultFile ≠ sh.vaultFile) :
    ∃ k bytes, p.2.vaultFile = some bytes ∧ Session.SealedUnder k bytes ∧
      (sh.session.key = some k ∨ ∃ purpose password, stage = .confirmPassword purpose password ∧
        r = .line password ∧ k.ComesFrom password) := by
  cases h with
  | retained retains plain =>
    obtain hsame | ⟨k, bytes, hkey, hbytes, hsealed⟩ := retains.file
    · exact absurd hsame hchanged
    · exact ⟨k, bytes, hbytes, hsealed, .inl hkey⟩
  | opened _ same => exact absurd same hchanged
  | refused _ session world =>
    exact absurd (by rw [vaultFile, session, world, vaultFile]) hchanged
  | confirmed rekeys =>
    obtain ⟨k, bytes, -, hk, -, -, hbytes, hsealed⟩ := rekeys.key
    rw [← rekeys.path] at hbytes
    exact ⟨k, bytes, hbytes, hsealed, .inr ⟨_, _, rfl, rfl, hk⟩⟩
  | begun | vouched | chosen => exact absurd rfl hchanged

end Replies

/-! ### Runs -/

section Runs

variable (start : Stage × Shell) (hs : List Happening)

/-- The last reply was this one, to the question of this stage. -/
def LastReply (stage : Stage) (r : Reply) : Prop :=
  ∃ before since, hs = before ++ .reply r :: since ∧ (∀ h ∈ since, h.isReply = false) ∧
    (run start before).1 = stage

/-- The last reply was the command to change the password. -/
def AfterPasswd : Prop :=
  ∃ text, ShellWord.ofLine? (Text.trim text.toList) = some .passwd ∧
    LastReply start hs .command (.line text)

/-- A password change goes on, in which the password typed first was that of the session's key.
Since then nothing but the password to replace it was asked for, and the session has not changed. -/
def Vouched : Prop :=
  ∃ (before : List Happening) (password : String) (since : List Happening) (k : SessionKey),
    hs = before ++ .reply (.line password) :: since ∧
    AfterPasswd start before ∧ (run start before).1 = .currentPassword ∧
    (run start before).2.session.key = some k ∧ k.ComesFrom password ∧
    (∀ front, front <+: since →
      (run start (before ++ .reply (.line password) :: front)).1.asksReplacement = true) ∧
    (run start hs).2.session = (run start before).2.session

/-- A new password is to be confirmed: it is long enough, and it is what was typed at the question
before. If it is to replace another one, that one was given first. -/
structure Chosen (purpose : Purpose) (password : String) : Prop where
  asked : (run start hs).1 = .confirmPassword purpose password
  typed : LastReply start hs (.newPassword purpose) (.line password)
  long : 8 ≤ password.length
  vouched : purpose = .change → Vouched start hs

/-- What a password is typed for that the key of a session comes from: it opens the file, or it is
the confirmation of a new one. -/
inductive Source (password : String) : Prop where
  | opened {attempt : Nat} {bytes : Bytes} (asked : (run start hs).1 = .masterPassword attempt)
      (file : (run start hs).2.vaultFile = some bytes)
      (opens : Session.IsOpenedBy password bytes) : Source password
  | confirmed {purpose : Purpose} (chosen : Chosen start hs purpose password) : Source password

/-- The key comes from a password that was typed to open the file, or to confirm a new one. -/
def Known (k : SessionKey) : Prop :=
  ∃ (before : List Happening) (password : String) (since : List Happening),
    hs = before ++ .reply (.line password) :: since ∧
    k.ComesFrom password ∧ Source start before password

/-- What is behind a question: how it came to be asked. -/
def Backed : Stage → Prop
  | .currentPassword => AfterPasswd start hs
  | .newPassword .change => Vouched start hs
  | .confirmPassword purpose password => Chosen start hs purpose password
  | _ => True

/-- What every run of a dialogue keeps. -/
structure Accounts : Prop where
  tree : (run start hs).2.world.disk.IsTree
  key : ∀ k, (run start hs).2.session.key = some k → Known start hs k
  backed : Backed start hs (run start hs).1

end Runs

variable {start : Stage × Shell} {hs : List Happening}

theorem lastReply_concat (start : Stage × Shell) (hs : List Happening) (r : Reply) :
    LastReply start (hs ++ [.reply r]) (run start hs).1 r :=
  ⟨hs, [], rfl, nofun, rfl⟩

theorem LastReply.concat {stage : Stage} {r : Reply} {h : Happening}
    (hlast : LastReply start hs stage r) (hreply : h.isReply = false) :
    LastReply start (hs ++ [h]) stage r := by
  obtain ⟨before, since, rfl, hsince, hstage⟩ := hlast
  refine ⟨before, since ++ [h], by simp, ?_, hstage⟩
  intro g hg
  obtain hg | hg := List.mem_append.mp hg
  · exact hsince g hg
  · rw [List.mem_singleton.mp hg]
    exact hreply

theorem Vouched.concat {h : Happening} (hvouched : Vouched start hs)
    (hsession : (run start (hs ++ [h])).2.session = (run start hs).2.session)
    (hasks : (run start (hs ++ [h])).1.asksReplacement = true) : Vouched start (hs ++ [h]) := by
  obtain ⟨before, password, since, k, rfl, hafter, hcurrent, hkey, hk, hsince, hsame⟩ := hvouched
  refine ⟨before, password, since ++ [h], k, by simp, hafter, hcurrent, hkey, hk, ?_,
    hsession.trans hsame⟩
  intro front hfront
  obtain rfl | hfront := List.prefix_concat_iff.mp hfront
  · simpa using hasks
  · exact hsince front hfront

theorem Known.concat {k : SessionKey} (hknown : Known start hs k) (h : Happening) :
    Known start (hs ++ [h]) k := by
  obtain ⟨before, password, since, rfl, hk, hsource⟩ := hknown
  exact ⟨before, password, since ++ [h], by simp, hk, hsource⟩

/-- Most questions may be asked at any time. -/
theorem backed_of_isPlain {stage : Stage} (h : stage.isPlain = true) : Backed start hs stage := by
  cases stage with
  | newPassword purpose =>
    cases purpose with
    | create => trivial
    | change => contradiction
  | currentPassword | confirmPassword => contradiction
  | _ => trivial

theorem Accounts.vouched (h : Accounts start hs)
    (hasks : (run start hs).1.asksReplacement = true) : Vouched start hs := by
  have hbacked := h.backed
  generalize (run start hs).1 = stage at hbacked hasks
  cases stage with
  | newPassword purpose =>
    cases purpose with
    | create => contradiction
    | change => exact hbacked
  | confirmPassword purpose password =>
    cases purpose with
    | create => contradiction
    | change => exact hbacked.vouched rfl
  | _ => contradiction

theorem Accounts.chosen {purpose : Purpose} {password : String} (h : Accounts start hs)
    (hconfirm : (run start hs).1 = .confirmPassword purpose password) :
    Chosen start hs purpose password := by
  have hbacked := h.backed
  rw [hconfirm] at hbacked
  exact hbacked

theorem accounts_of_run {p : Stage × Shell} (hrun : run start hs = p)
    (htree : p.2.world.disk.IsTree) (hkey : ∀ k, p.2.session.key = some k → Known start hs k)
    (hbacked : Backed start hs p.1) : Accounts start hs := by
  subst hrun
  exact ⟨htree, hkey, hbacked⟩

theorem accounts_openDialogue (verb : CommandLine.Verb) (settings : Settings) (base : Base)
    {w : World} (htree : w.disk.IsTree) :
    Accounts (Start.openDialogue verb settings base w) [] := by
  cases verb with
  | unlock => exact ⟨htree, nofun, trivial⟩
  | init =>
    unfold Start.openDialogue startCreation
    dsimp only
    split <;> exact ⟨htree, nofun, trivial⟩

/-! #### Happenings -/

/-- Nothing but a reply changes a file. -/
theorem disk_react {h : Happening} (hreply : h.isReply = false) (p : Stage × Shell) :
    (p.2.world.disk.IsTree → (react p h).2.world.disk.IsTree) ∧
      (react p h).2.vaultFile = p.2.vaultFile := by
  obtain ⟨stage, sh⟩ := p
  cases h with
  | reply r => contradiction
  | diskFull isFull => exact ⟨id, congrArg Except.toOption (Disk.read_filled _ _ _)⟩
  | timeout index =>
    unfold react fireTimer
    dsimp only
    split <;> exact ⟨id, rfl⟩
  | _ => exact ⟨id, rfl⟩

/-- While a question waits for its reply, nothing is added to what is behind it. -/
theorem Backed.concat {stage : Stage} {h : Happening} (hbacked : Backed start hs stage)
    (hstage : (run start hs).1 = stage) (hreply : h.isReply = false) :
    Backed start (hs ++ [h]) stage := by
  obtain ⟨hstage', hsession⟩ := react_eq hreply (run start hs)
  rw [← run_concat] at hstage' hsession
  have hasks : stage.asksReplacement = true →
      (run start (hs ++ [h])).1.asksReplacement = true := by
    rw [hstage', hstage]
    exact id
  cases stage with
  | currentPassword =>
    obtain ⟨text, hword, hlast⟩ := hbacked
    exact ⟨text, hword, hlast.concat hreply⟩
  | newPassword purpose =>
    cases purpose with
    | create => trivial
    | change => exact Vouched.concat hbacked hsession (hasks rfl)
  | confirmPassword purpose password =>
    obtain ⟨-, htyped, hlong, hvouched⟩ := hbacked
    refine ⟨hstage'.trans hstage, htyped.concat hreply, hlong, fun hchange => ?_⟩
    exact (hvouched hchange).concat hsession (hasks (by rw [hchange]; rfl))
  | _ => trivial

theorem accounts_noReply {h : Happening} (hreply : h.isReply = false)
    (haccounts : Accounts start hs) : Accounts start (hs ++ [h]) := by
  obtain ⟨hstage, hsession⟩ := react_eq hreply (run start hs)
  obtain ⟨htree, -⟩ := disk_react hreply (run start hs)
  rw [← run_concat] at hstage hsession htree
  refine ⟨htree haccounts.tree, ?_, ?_⟩
  · rw [hsession]
    exact fun k hk => (haccounts.key k hk).concat h
  · rw [hstage]
    exact haccounts.backed.concat rfl hreply

theorem eq_of_key_lock {p : Stage × Shell} {k : SessionKey} (h : (lock p).2.session.key = some k) :
    p.1.isOver = false ∧ p.2.session.key = some k := by
  obtain ⟨stage, sh⟩ := p
  unfold lock at h
  dsimp only at h
  split at h
  · contradiction
  · next hover => exact ⟨Bool.not_eq_true _ ▸ hover, h⟩

theorem world_lock (p : Stage × Shell) : (lock p).2.world = p.2.world := by
  unfold lock
  dsimp only
  split <;> rfl

theorem vaultFile_lock (p : Stage × Shell) : (lock p).2.vaultFile = p.2.vaultFile := by
  unfold lock
  dsimp only
  split <;> rfl

/-- What is behind the question that a reply leads to is the reply itself, or was behind the question
before. -/
theorem accounts_reply (haccounts : Accounts start hs) (r : Reply) :
    Accounts start (hs ++ [.reply r]) := by
  have hturn := turn_answer haccounts.tree (run start hs).1 r
  have hlast := lastReply_concat start hs r
  have hrun : run start (hs ++ [.reply r]) =
      lock ((run start hs).2.answer (run start hs).1 r) := run_concat start hs _
  generalize (run start hs).2.answer (run start hs).1 r = p at hturn hrun
  -- Where more is asked for, the vault is not locked.
  have hasking : p.1.isOver = false → run start (hs ++ [.reply r]) = p :=
    fun h => hrun.trans (lock_of_asking h)
  have hkept : ∀ k, (run start hs).2.session.key = some k → Known start (hs ++ [.reply r]) k :=
    fun k hk => (haccounts.key k hk).concat _
  generalize hstage : (run start hs).1 = stage at hturn hlast
  cases hturn with
  | retained retains plain =>
    refine accounts_of_run hrun ?_ ?_ (backed_of_isPlain plain)
    · rw [world_lock]
      exact retains.tree
    · intro k hk
      obtain ⟨hover, hk⟩ := eq_of_key_lock hk
      exact hkept k (retains.key hover ▸ hk)
  | opened tree same key derived file opens =>
    refine accounts_of_run (hasking rfl) tree (fun k' hk' => ?_) trivial
    cases key.symm.trans hk'
    exact ⟨hs, _, [], rfl, derived, .opened hstage file opens⟩
  | begun word => exact accounts_of_run (hasking rfl) haccounts.tree hkept ⟨_, word, hlast⟩
  | vouched right =>
    have hbacked := haccounts.backed
    rw [hstage] at hbacked
    obtain ⟨k, hkey, hk⟩ := Session.comesFrom_of_verify right
    refine accounts_of_run (hasking rfl) haccounts.tree hkept
      ⟨hs, _, [], k, rfl, hbacked, hstage, hkey, hk, ?_, by rw [hasking rfl]⟩
    intro front hfront
    rw [List.prefix_nil.mp hfront, hasking rfl]
    rfl
  | refused asks session world =>
    refine accounts_of_run (hasking rfl) (world ▸ haccounts.tree) (session ▸ hkept) ?_
    exact (haccounts.vouched (hstage ▸ asks)).concat (by rw [hasking rfl, session])
      (by rw [hasking rfl]; rfl)
  | @chosen purpose password long =>
    refine accounts_of_run (hasking rfl) haccounts.tree hkept
      ⟨by rw [hasking rfl], hlast, long, fun hchange => ?_⟩
    subst hchange
    exact (haccounts.vouched (by rw [hstage]; rfl)).concat (by rw [hasking rfl])
      (by rw [hasking rfl]; rfl)
  | confirmed rekeys =>
    refine accounts_of_run (hasking rfl) rekeys.tree (fun k' hk' => ?_) trivial
    obtain ⟨k, bytes, hkey, hk, -⟩ := rekeys.key
    cases hkey.symm.trans hk'
    exact ⟨hs, _, [], rfl, hk, .confirmed (haccounts.chosen hstage)⟩

theorem accounts_run (hstart : Accounts start []) (hs : List Happening) : Accounts start hs := by
  induction hs using List.reverseRecOn with
  | nil => exact hstart
  | append_singleton hs h ih =>
    cases hreply : h.isReply with
    | true =>
      cases h with
      | reply r => exact accounts_reply ih r
      | _ => contradiction
    | false => exact accounts_noReply hreply ih

/-- **A new master password is always confirmed.** Whenever the file changes, it is sealed under the
key that the session had, which comes from a password that was typed to open the file or to confirm
a new one; or under the key of a new password, which has just been typed to confirm it. That
password has at least 8 characters and is what was typed at the question before. If it replaces
another one, the password typed first in the same command was that of the session's key. -/
theorem newKey_confirmed (verb : CommandLine.Verb) (settings : Settings) (base : Base) {w : World}
    (htree : w.disk.IsTree) (hs : List Happening) (h : Happening) :
    let start := Start.openDialogue verb settings base w
    let before := (run start hs).2
    let after := (run start (hs ++ [h])).2
    after.vaultFile ≠ before.vaultFile →
    ∃ k bytes, after.vaultFile = some bytes ∧ Session.SealedUnder k bytes ∧
      (before.session.key = some k ∧ Known start hs k ∨
        ∃ purpose password, h = .reply (.line password) ∧ k.ComesFrom password ∧
          Chosen start hs purpose password) := by
  intro start before after hchanged
  have haccounts : Accounts start hs :=
    accounts_run (accounts_openDialogue verb settings base htree) hs
  have hafter : run start (hs ++ [h]) = react (run start hs) h := run_concat start hs h
  cases hreply : h.isReply with
  | false =>
    obtain ⟨-, hfile⟩ := disk_react hreply (run start hs)
    rw [← hafter] at hfile
    exact absurd hfile hchanged
  | true =>
    cases h with
    | reply r =>
      have hfile : after.vaultFile = ((run start hs).2.answer (run start hs).1 r).2.vaultFile :=
        (congrArg (fun p => p.2.vaultFile) hafter).trans (vaultFile_lock _)
      rw [hfile] at hchanged ⊢
      obtain ⟨k, bytes, hbytes, hsealed, hkey | ⟨purpose, password, hstage, rfl, hk⟩⟩ :=
        (turn_answer haccounts.tree (run start hs).1 r).sealed hchanged
      · exact ⟨k, bytes, hbytes, hsealed, .inl ⟨hkey, haccounts.key k hkey⟩⟩
      · exact ⟨k, bytes, hbytes, hsealed, .inr
          ⟨purpose, password, rfl, hk, haccounts.chosen hstage⟩⟩
    | _ => contradiction

section Replaced

open Session.State (blankWorld cheapParams isAccepted_cheapParams)

/-- Surroundings in which nothing has happened yet, and the bytes drawn first are others than those
drawn later. -/
def variedWorld : World :=
  { blankWorld with random := ⟨fun n size => List.replicate size (if n = 0 then 0 else 1), 0⟩ }

def variedDialogue : Stage × Shell :=
  Start.openDialogue .init { vaultPath := "/vault", params := cheapParams }
    ⟨⟨false, []⟩, ⟨false, []⟩⟩ variedWorld

theorem isFull_variedWorld : variedWorld.random.IsFull :=
  fun _ _ => List.length_replicate

def creating : List Happening :=
  [.reply (.line "password1"), .reply (.line "password1")]

/-- Its password is changed, up to the confirmation of another one. -/
def replacing : List Happening :=
  [.reply (.line "passwd"), .reply (.line "password1"), .reply (.line "password2")]

theorem run_creating : ∃ sh k, run variedDialogue creating = (.command, sh) ∧
    sh.session = { variedDialogue.2.session with
      vault := some .empty, key := some k, savedRevision := some 0 } ∧
    k.IsOf "password1" ∧ sh.world.random.bytes = variedWorld.random.bytes ∧
    sh.world.disk.Takes sh.session.path ∧
    Session.Rekeys "password1" variedDialogue.2.session variedWorld sh.session sh.world := by
  obtain ⟨k, bytes, random, hk, -, hrandom, hcreate⟩ :=
    Session.create_eq (s := variedDialogue.2.session) (w := variedWorld) isAccepted_cheapParams
      isFull_variedWorld "password1" rfl
  have hrekeys : (variedDialogue.2.session.create "password1" variedWorld).result = .ok () → _ :=
    Session.create_rekeys Disk.isTree_empty
  have hstore : variedWorld.disk.store variedDialogue.2.session.path bytes =
      (.ok (), variedWorld.disk.put variedDialogue.2.session.path (.file bytes)) := rfl
  rw [hstore] at hcreate
  dsimp only at hcreate
  rw [hcreate] at hrekeys
  have hrun : run variedDialogue creating = lock (variedDialogue.2.createVault "password1") := rfl
  -- What is said before the key is derived does not matter to the session.
  have hsame : (variedDialogue.2.success "Deriving encryption key...").session.create "password1"
      (variedDialogue.2.success "Deriving encryption key...").world =
      variedDialogue.2.session.create "password1" variedWorld := rfl
  rw [hrun, createVault]
  dsimp only
  rw [hsame, hcreate]
  exact ⟨_, k, rfl, rfl, hk, hrandom, fun bytes' => ⟨_, rfl⟩, hrekeys rfl⟩

theorem run_replacing {sh : Shell} {v : Vault} {k : SessionKey} (hv : sh.session.vault = some v)
    (hkey : sh.session.key = some k) (hk : k.ComesFrom "password1") :
    run (.command, sh) replacing = (.confirmPassword .change "password2", sh) := by
  have hcommand : react (.command, sh) (.reply (.line "passwd")) = (.currentPassword, sh) := rfl
  have hcurrent : react (.currentPassword, sh) (.reply (.line "password1")) =
      (.newPassword .change, sh) := by
    have hanswer : sh.answer .currentPassword (.line "password1") = sh.checkPassword "password1" :=
      rfl
    rw [react, reply, hanswer, checkPassword, Session.verify_of_comesFrom hv hkey hk]
    rfl
  have hnew : react (.newPassword .change, sh) (.reply (.line "password2")) =
      (.confirmPassword .change "password2", sh) := rfl
  rw [run, replacing, List.foldl_cons, hcommand, List.foldl_cons, hcurrent, List.foldl_cons, hnew,
    List.foldl_nil]

/-- Where the disk takes the file, it is sealed under the password that was confirmed. -/
theorem rekeys_reply {sh : Shell} {v : Vault} {k : SessionKey} (hv : sh.session.vault = some v)
    (hkey : sh.session.key = some k) (hparams : sh.session.params.IsAccepted)
    (hsound : v.IsSound) (hw : sh.world.random.IsFull)
    (htakes : sh.world.disk.Takes sh.session.path) (htree : sh.world.disk.IsTree)
    (password : String) :
    let p := sh.reply (.confirmPassword .change password) (.line password)
    Session.Rekeys password sh.session sh.world p.2.session p.2.world := by
  have hok : (sh.session.changePassword password sh.world).result = .ok () := by
    obtain ⟨k', w', heq, -⟩ | ⟨e, w', -, -, contents, f, hstore⟩ :=
      Session.changePassword_cases hv hkey hparams hsound hw password
    · rw [heq]
    · obtain ⟨d, hstored⟩ := htakes contents
      cases hstore.symm.trans hstored
  have hrekeys := Session.changePassword_rekeys htree hok
  have hanswer : sh.answer (.confirmPassword .change password) (.line password) =
      sh.changePassword password := if_neg (not_not_intro rfl)
  have hsame : (sh.success "Re-encrypting vault...").session.changePassword password
      (sh.success "Re-encrypting vault...").world = sh.session.changePassword password sh.world :=
    rfl
  rw [reply, hanswer, changePassword]
  dsimp only
  rw [hsame, hok]
  exact hrekeys

theorem draw_ne_of_calls {random : RandomSource} (hbytes : random.bytes = variedWorld.random.bytes)
    (hcalls : variedWorld.random.calls < random.calls) :
    (random.draw Session.saltSize).1 ≠ (variedWorld.random.draw Session.saltSize).1 := by
  have hlater : (random.draw Session.saltSize).1 = List.replicate Session.saltSize 1 := by
    have hpositive : random.calls ≠ 0 := Nat.ne_of_gt hcalls
    rw [RandomSource.draw, hbytes]
    exact congrArg (List.replicate Session.saltSize) (if_neg hpositive)
  rw [hlater]
  decide

/-- A vault that was created is sealed under another password, which was typed twice after the first
one. -/
theorem newKey_confirmed_replaced :
    let hs := creating ++ replacing
    let before := (run variedDialogue hs).2
    let after := (run variedDialogue (hs ++ [.reply (.line "password2")])).2
    variedWorld.disk.IsTree ∧ after.vaultFile ≠ before.vaultFile ∧
    ∃ k bytes, after.vaultFile = some bytes ∧ Session.SealedUnder k bytes ∧
      k.ComesFrom "password2" ∧ Chosen variedDialogue hs .change "password2" := by
  intro hs before after
  obtain ⟨sh, k, hrun, hsession, hk, hbytes, htakes, hcreated⟩ := run_creating
  have hkey : sh.session.key = some k := by rw [hsession]
  have hbefore : run variedDialogue hs = (.confirmPassword .change "password2", sh) := by
    rw [run_append, hrun, run_replacing (by rw [hsession]) hkey hk.derived]
  have hafter : run variedDialogue (hs ++ [.reply (.line "password2")]) =
      sh.reply (.confirmPassword .change "password2") (.line "password2") := by
    rw [run_concat, hbefore]
    rfl
  have hfull : sh.world.random.IsFull := by
    intro n size
    rw [hbytes]
    exact isFull_variedWorld n size
  have hrekeys := rekeys_reply (by rw [hsession]) hkey
    (by rw [hsession]; exact isAccepted_cheapParams) Vault.isSound_empty hfull htakes hcreated.tree
    "password2"
  generalize sh.reply (.confirmPassword .change "password2") (.line "password2") = p
    at hafter hrekeys
  have hold : before = sh := congrArg Prod.snd hbefore
  have hnew : after = p.2 := congrArg Prod.snd hafter
  -- The file is sealed under a key whose salt was drawn first, then under one with another salt.
  obtain ⟨_, bytes, hkey', -, -, hfirst, hfile, hsealed⟩ := hcreated.key
  cases hkey.symm.trans hkey'
  have hsalt : (sh.world.random.draw Session.saltSize).1 ≠ k.salt :=
    hfirst ▸ draw_ne_of_calls hbytes hcreated.drawn
  have hunsealed : ∀ bytes, p.2.vaultFile = some bytes → ¬ Session.SealedUnder k bytes :=
    fun bytes => hrekeys.not_sealedUnder hfull hk.salt hsalt
  have hchanged : after.vaultFile ≠ before.vaultFile := by
    rw [hold, hnew]
    intro heq
    rw [← hcreated.path] at hfile
    exact hunsealed bytes (heq.trans hfile) hsealed
  refine ⟨Disk.isTree_empty, hchanged, ?_⟩
  obtain ⟨k', bytes', hfile', hsealed', ⟨hkey', -⟩ | ⟨purpose, password, heq, hk', hchosen⟩⟩ :=
    newKey_confirmed .init { vaultPath := "/vault", params := cheapParams }
      ⟨⟨false, []⟩, ⟨false, []⟩⟩ Disk.isTree_empty hs (.reply (.line "password2")) hchanged
  · have hsame : sh.session.key = some k' := hold ▸ hkey'
    cases hkey.symm.trans hsame
    exact absurd hsealed' (hunsealed bytes' (hnew ▸ hfile'))
  · cases heq
    cases (congrArg Prod.fst hbefore).symm.trans hchosen.asked
    exact ⟨k', bytes', hfile', hsealed', hk', hchosen⟩

end Replaced

end Shell

end Coffer
