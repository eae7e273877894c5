import Coffer.Proofs.Session.Step

/-!
What a session has saved can be read. A `Deed` is one thing that is done with a session, or that
happens around it; `State.run` is the fold of many. After any deeds, in any order, with the disk
failing at any of them, an open session without unsaved changes has a file from which a new session
with the session's password gets the same vault (`unlock_of_clean`). The invariant behind it is
`State.IsDurable`: the key belongs to the current password, and as long as the saved count of changes
is the vault's, the file holds the vault.
-/

namespace Coffer.Session

/-- A session with its surroundings, and the password that it was last created, opened or sealed
with. -/
structure State where
  session : Session
  world : World
  password : Password

/-- What is done with a session, or happens around it. -/
inductive Deed where
  /-- Starts over with a new session. -/
  | renew (path : Path) (params : KeyParams)
  | create (password : Password)
  | unlock (password : Password)
  | execute (current : Path) (c : Command)
  /-- Changes the vault directly. -/
  | call (c : Vault.Call)
  | save
  | changePassword (password : Password)
  | close
  /-- Time passes. -/
  | wait (now : Timestamp)
  /-- The disk becomes another one: it fills up, or other files change. -/
  | disturb (disk : Disk)

namespace State

variable {ε α : Type}

def after (t : State) (o : Outcome ε α) : State :=
  { t with session := o.session, world := o.world }

/-- The state after a step that makes a password the current one, if it comes to a result. -/
def under (t : State) (password : Password) (o : Outcome ε α) : State :=
  ⟨o.session, o.world, if o.result.isOk then password else t.password⟩

def step (t : State) : Deed → State
  | .renew path params => { t with session := .new path params }
  | .create password => t.under password (t.session.create password t.world)
  | .unlock password => t.under password (t.session.unlock password t.world)
  | .execute current c => t.after (t.session.execute current c t.world)
  | .call c =>
    match t.session.vault with
    | none => t
    | some v =>
      let changed := Vault.perform t.world.now (v, t.world.ids) c
      { t with
        session := { t.session with vault := some changed.1 }
        world := { t.world with ids := changed.2 } }
  | .save => t.after (t.session.save t.world)
  | .changePassword password => t.under password (t.session.changePassword password t.world)
  | .close => { t with session := t.session.close }
  | .wait now => { t with world := { t.world with now } }
  | .disturb disk => { t with world := { t.world with disk } }

def run (t : State) (deeds : List Deed) : State :=
  deeds.foldl step t

/-- What every deed of a kind keeps, a run of such deeds keeps. -/
theorem run_induction {P : State → Prop} {Q : Deed → Prop}
    (hstep : ∀ t d, P t → Q d → P (t.step d)) {t : State} (h : P t) {deeds : List Deed}
    (hall : ∀ d ∈ deeds, Q d) : P (t.run deeds) := by
  induction deeds generalizing t with
  | nil => exact h
  | cons d deeds ih =>
    obtain ⟨hd, hall⟩ := List.forall_mem_cons.mp hall
    exact ih (hstep t d h hd) hall

/-- Parameters are accepted, the clock shows moments that can be written, and the session's file is
written by the session only. -/
def Allows (t : State) : Deed → Prop
  | .renew _ params => params.IsAccepted
  | .wait now => now.IsValid
  | .disturb disk => disk.read t.session.path = t.world.disk.read t.session.path
  | _ => True

def AllowsAll : State → List Deed → Prop
  | _, [] => True
  | t, d :: ds => t.Allows d ∧ (t.step d).AllowsAll ds

/-! ### The invariant -/

/-- What holds between the vault, its key, the current password and the file. A session that has lost
its key may have its vault still; its file is there in any case. -/
structure IsDurable (t : State) : Prop where
  full : t.world.random.IsFull
  now : t.world.now.IsValid
  params : t.session.params.IsAccepted
  locked : t.session.vault = none → t.session.key = none
  present : t.session.vault ≠ none → ∃ bytes, t.world.disk.read t.session.path = .ok bytes
  key : ∀ k, t.session.key = some k → k.IsOf t.password
  sound : ∀ v, t.session.vault = some v → v.IsSound
  saved : ∀ v r, t.session.vault = some v → t.session.savedRevision = some r →
    r ≤ v.revision ∧ (r = v.revision → Holds t.world.disk t.session.path t.password v)

variable {t : State}

theorem isDurable_of_locked (hfull : t.world.random.IsFull) (hnow : t.world.now.IsValid)
    (hparams : t.session.params.IsAccepted) (hvault : t.session.vault = none)
    (hkey : t.session.key = none) : t.IsDurable where
  full := hfull
  now := hnow
  params := hparams
  locked := fun _ => hkey
  present := fun hv => absurd hvault hv
  key := by rw [hkey]; exact nofun
  sound := by rw [hvault]; exact nofun
  saved := by rw [hvault]; exact nofun

/-- A session that is open, and whose file is there and holds the vault if it says so, is durable. -/
theorem isDurable_of_open {v : Vault} {k : SessionKey} (hfull : t.world.random.IsFull)
    (hnow : t.world.now.IsValid) (hparams : t.session.params.IsAccepted)
    (hpresent : ∃ bytes, t.world.disk.read t.session.path = .ok bytes)
    (hvault : t.session.vault = some v) (hkey : t.session.key = some k) (hk : k.IsOf t.password)
    (hsound : v.IsSound)
    (hsaved : ∀ r, t.session.savedRevision = some r → r ≤ v.revision ∧
      (r = v.revision → Holds t.world.disk t.session.path t.password v)) : t.IsDurable where
  full := hfull
  now := hnow
  params := hparams
  locked := by rw [hvault]; exact nofun
  present := fun _ => hpresent
  key := by rw [hkey]; rintro _ ⟨⟩; exact hk
  sound := by rw [hvault]; rintro _ ⟨⟩; exact hsound
  saved := by rw [hvault]; rintro _ r ⟨⟩ hr; exact hsaved r hr

theorem IsDurable.keep (h : t.IsDurable) {w : World} (hw : t.world.Continues w)
    (hread : ∀ old, t.world.disk.read t.session.path = .ok old →
      w.disk.read t.session.path = .ok old) : IsDurable { t with world := w } where
  full := hw.isFull h.full
  now := hw.now ▸ h.now
  params := h.params
  locked := h.locked
  present hv := by
    obtain ⟨bytes, hbytes⟩ := h.present hv
    exact ⟨bytes, hread bytes hbytes⟩
  key := h.key
  sound := h.sound
  saved v r hv hr := by
    obtain ⟨hle, hholds⟩ := h.saved v r hv hr
    refine ⟨hle, fun heq => ?_⟩
    obtain ⟨bytes, hbytes, hopens⟩ := hholds heq
    exact ⟨bytes, hread bytes hbytes, hopens⟩

theorem IsDurable.loseKey (h : t.IsDurable) :
    IsDurable { t with session := { t.session with key := none } } :=
  { h with locked := fun _ => rfl, key := nofun }

theorem IsDurable.replace (h : t.IsDurable) {v v' : Vault} (hv : t.session.vault = some v)
    (hsound : v'.IsSound) (hfollows : v.Follows v') (ids : IdSource) :
    IsDurable { t with
      session := { t.session with vault := some v' }
      world := { t.world with ids } } where
  full := h.full
  now := h.now
  params := h.params
  locked := nofun
  present _ := h.present (hv ▸ Option.some_ne_none v)
  key := h.key
  sound := by rintro _ ⟨⟩; exact hsound
  saved := by
    rintro _ r ⟨⟩ hr
    obtain ⟨hle, hholds⟩ := h.saved v r hv hr
    refine ⟨Nat.le_trans hle hfollows.revision_le, fun heq => ?_⟩
    obtain rfl | hlt := hfollows
    · exact hholds heq
    · omega

theorem IsDurable.create (h : t.IsDurable) (password : Password) :
    (t.step (.create password)).IsDurable := by
  obtain ⟨text, rfl⟩ | hnone := password.text_or_not
  · obtain ⟨e, heq⟩ | ⟨k, w, heq, hk, hw, hholds⟩ | ⟨e, w, heq, hw⟩ :=
      create_cases h.params h.full text
    · rw [step, heq]
      exact h
    · rw [step, heq]
      refine isDurable_of_open (hw.isFull h.full) (hw.now ▸ h.now) h.params hholds.exists_read rfl
        rfl hk Vault.isSound_empty ?_
      rintro _ ⟨⟩
      exact ⟨Nat.le_refl 0, fun _ => hholds⟩
    · rw [step, heq]
      exact isDurable_of_locked (hw.isFull h.full) (hw.now ▸ h.now) h.params rfl rfl
  -- Where there is a file already, all passwords are refused. Otherwise the session is locked, so
  -- that there is no key to be lost.
  · cases hfree : t.world.disk.isPresent t.session.path with
    | true =>
      rw [step, Session.create, if_pos hfree]
      exact h
    | false =>
      have hv : t.session.vault = none := by
        by_contra hv
        obtain ⟨bytes, hread⟩ := h.present hv
        rw [Disk.isPresent_of_read hread] at hfree
        contradiction
      rw [step, create_of_not_text h.params h.full hnone hfree]
      have hlost : t.session.lostKey? t.world = none := by rw [lostKey?, h.locked hv]; rfl
      exact isDurable_of_locked (World.Continues.random t.world rfl |>.isFull h.full) h.now h.params
        hv hlost

theorem IsDurable.unlock (h : t.IsDurable) (password : Password) :
    (t.step (.unlock password)).IsDurable := by
  obtain ⟨text, rfl⟩ | hnone := password.text_or_not
  · obtain ⟨e, w, heq, -, hw, hdisk⟩ | ⟨v, k, saved, w, heq, hsound, hk, hw, hdisk, hsaved⟩ :=
      unlock_cases h.params h.full text
    · rw [step, heq]
      exact h.keep hw fun old hold => by rw [hdisk]; exact hold
    · have hpresent := exists_read_of_unlock (by rw [heq])
      rw [← hdisk] at hpresent
      rw [step, heq]
      refine isDurable_of_open (hw.isFull h.full) (hw.now ▸ h.now) h.params hpresent rfl rfl hk
        (hsound h.now) ?_
      rintro r hr
      obtain hnone | ⟨hsome, hholds⟩ := hsaved
      · cases hnone.symm.trans hr
      · cases hsome.symm.trans hr
        exact ⟨Nat.le_refl _, fun _ => hholds⟩
  · obtain ⟨e, heq, -⟩ | ⟨bytes, envelope, -, -, heq⟩ :=
      unlock_of_not_text hnone t.session t.world
    · rw [step, heq]
      exact h
    · rw [step, heq]
      exact h.keep ((World.Continues.refl t.world).note _) fun old hold => hold

/-- A save that fails for the disk changes nothing, as far as a readable file is concerned. -/
theorem IsDurable.keepDisk (h : t.IsDurable) {w : World} (hw : t.world.Continues w)
    (hdisk : t.world.disk.Refused t.session.path w.disk) : IsDurable { t with world := w } := by
  obtain ⟨contents, e, hstore⟩ := hdisk
  exact h.keep hw fun old hold => by rw [Disk.eq_of_store_error hold hstore]; exact hold

theorem IsDurable.save (h : t.IsDurable) : (t.step .save).IsDurable := by
  cases hopen : t.session.isOpen with
  | false =>
    rw [step, save_of_closed hopen]
    exact h
  | true =>
    obtain ⟨v, k, hv, hkey⟩ := exists_of_isOpen hopen
    have hk := h.key k hkey
    obtain ⟨w, heq, hw, hsealed⟩ | ⟨e, w, heq, hw, hdisk⟩ :=
      save_cases hv hkey hk.isFit (h.sound v hv) h.full
    · rw [step, heq]
      refine isDurable_of_open (hw.isFull h.full) (hw.now ▸ h.now) h.params
        (hsealed.holds hk).exists_read hv hkey hk (h.sound v hv) ?_
      rintro _ ⟨⟩
      exact ⟨Nat.le_refl _, fun _ => hsealed.holds hk⟩
    · rw [step, heq]
      exact h.keepDisk hw hdisk

theorem IsDurable.changePassword (h : t.IsDurable) (password : Password) :
    (t.step (.changePassword password)).IsDurable := by
  cases hopen : t.session.isOpen with
  | false =>
    rw [step, changePassword_of_closed hopen]
    exact h
  | true =>
    obtain ⟨text, rfl⟩ | hnone := password.text_or_not
    · obtain ⟨v, k, hv, hkey⟩ := exists_of_isOpen hopen
      obtain ⟨k', w, heq, hk', hw, hholds⟩ | ⟨e, w, heq, hw, hdisk⟩ :=
        changePassword_cases hv hkey h.params (h.sound v hv) h.full text
      · rw [step, heq]
        refine isDurable_of_open (hw.isFull h.full) (hw.now ▸ h.now) h.params hholds.exists_read hv
          rfl hk' (h.sound v hv) ?_
        rintro _ ⟨⟩
        exact ⟨Nat.le_refl _, fun _ => hholds⟩
      · rw [step, heq]
        exact h.keepDisk hw hdisk
    · rw [step, changePassword_of_not_text hopen h.params h.full hnone]
      exact h.loseKey.keep (.random t.world rfl) fun old hold => hold

theorem IsDurable.call (h : t.IsDurable) (c : Vault.Call) : (t.step (.call c)).IsDurable := by
  rw [step]
  cases hv : t.session.vault with
  | none => exact h
  | some v =>
    exact h.replace hv (Vault.isSound_perform h.now (v, t.world.ids) (h.sound v hv) c)
      (Vault.follows_perform t.world.now (v, t.world.ids) c) _

theorem IsDurable.execute (h : t.IsDurable) (current : Path) (c : Command) :
    (t.step (.execute current c)).IsDurable := by
  cases hv : t.session.vault with
  | none =>
    rw [step, execute_of_locked hv]
    exact h
  | some v =>
  cases hkey : t.session.key with
  | none =>
    obtain hspares | ⟨e, v', w, heq, hsound, hfollows, hw, hdisk⟩ :=
      execute_of_keyless hv hkey (h.sound v hv) h.now current c
    · rw [step, after, hspares.session, hspares.world]
      exact h
    · rw [step, heq]
      exact (h.replace hv hsound hfollows t.world.ids).keep hw fun old hold => by
        rw [hdisk]; exact hold
  | some k =>
    have hk := h.key k hkey
    obtain hspares | ⟨v', w, -, -, hsound, hfollows, hw, ⟨r, heq, hsealed⟩ | ⟨e, heq, -, hdisk⟩⟩ :=
      execute_outcome hv hkey hk.isFit (h.sound v hv) h.full h.now current c
    · rw [step, after, hspares.session, hspares.world]
      exact h
    · rw [step, heq]
      refine isDurable_of_open (hw.isFull h.full) (hw.now ▸ h.now) h.params
        (hsealed.holds hk).exists_read rfl hkey hk hsound ?_
      rintro _ ⟨⟩
      exact ⟨Nat.le_refl _, fun _ => hsealed.holds hk⟩
    · rw [step, heq]
      exact (h.replace hv hsound hfollows t.world.ids).keepDisk hw hdisk

theorem IsDurable.step (h : t.IsDurable) {d : Deed} (hd : t.Allows d) : (t.step d).IsDurable := by
  cases d with
  | renew path params => exact isDurable_of_locked h.full h.now hd rfl rfl
  | create password => exact h.create password
  | unlock password => exact h.unlock password
  | execute current c => exact h.execute current c
  | call c => exact h.call c
  | save => exact h.save
  | changePassword password => exact h.changePassword password
  | close => exact isDurable_of_locked h.full h.now h.params rfl rfl
  | wait now => exact { h with now := hd }
  | disturb disk =>
    have hread : disk.read t.session.path = t.world.disk.read t.session.path := hd
    refine { h with present := fun hv => ?_, saved := fun v r hv hr => ?_ }
    · obtain ⟨bytes, hbytes⟩ := h.present hv
      exact ⟨bytes, hread.trans hbytes⟩
    · obtain ⟨hle, hholds⟩ := h.saved v r hv hr
      exact ⟨hle, fun heq => (hholds heq).congr hread⟩

/-- Deeds that are allowed keep a session durable. -/
theorem IsDurable.run (h : t.IsDurable) {deeds : List Deed} (hall : t.AllowsAll deeds) :
    (t.run deeds).IsDurable := by
  induction deeds generalizing t with
  | nil => exact h
  | cons d deeds ih => exact ih (h.step hall.1) hall.2

/-- The state before any deed: a new session. -/
def start (path : Path) (params : KeyParams) (w : World) : State :=
  ⟨.new path params, w, ""⟩

theorem isDurable_start {path : Path} {params : KeyParams} {w : World} (hfull : w.random.IsFull)
    (hnow : w.now.IsValid) (hparams : params.IsAccepted) : (start path params w).IsDurable :=
  isDurable_of_locked hfull hnow hparams rfl rfl

/-! ### The file -/

theorem unlock_of_holds {path : Path} {password : Password} {v : Vault} {w : World}
    (h : Holds w.disk path password v) (params : KeyParams) :
    ∃ s w' v', (Session.new path params).unlock password w = ⟨.ok (), s, w'⟩ ∧
      s.vault = some v' ∧ v'.dump = v.dump := by
  obtain ⟨bytes, hread, e, key, contents, v', hdecode, hlegacy, hopen, hpayload, hdump⟩ := h
  have hread' : w.disk.read (Session.new path params).path = .ok bytes := hread
  obtain ⟨w', hunlock⟩ := unlock_current hread' hdecode hlegacy hopen (hpayload w.now)
  exact ⟨_, w', v', hunlock, rfl, hdump⟩

/-- After any deeds, an open session without unsaved changes has a file from which a new session,
whatever its parameters, gets the same vault under the session's password. -/
theorem unlock_of_clean {path : Path} {params : KeyParams} {w : World} {deeds : List Deed}
    (hfull : w.random.IsFull) (hnow : w.now.IsValid) (hparams : params.IsAccepted)
    (hall : (start path params w).AllowsAll deeds) :
    let t := (start path params w).run deeds
    t.session.isOpen = true → t.session.isDirty = false →
    ∀ (params' : KeyParams) (w' : World),
      w'.disk.read t.session.path = t.world.disk.read t.session.path →
      ∃ s w'' v v', (Session.new t.session.path params').unlock t.password w' = ⟨.ok (), s, w''⟩ ∧
        t.session.vault = some v ∧ s.vault = some v' ∧ v'.dump = v.dump := by
  intro t hopen hclean params' w' hread
  have hdurable : t.IsDurable := (isDurable_start hfull hnow hparams).run hall
  obtain ⟨v, k, hv, hkey⟩ := exists_of_isOpen hopen
  have hsaved : t.session.savedRevision = some v.revision := by
    simpa [isDirty, hv, hkey] using hclean
  have hholds := (hdurable.saved v _ hv hsaved).2 rfl
  obtain ⟨s, w'', v', hunlock, hv', hdump⟩ := unlock_of_holds (hholds.congr hread) params'
  exact ⟨s, w'', v, v', hunlock, hv, hv', hdump⟩

/-! ### A first vault -/

/-- Surroundings in which nothing has happened yet; random bytes are all zero. -/
def blankWorld : World :=
  ⟨.empty, ⟨fun _ size => List.replicate size 0, 0⟩, ⟨fun n => ⟨BitVec.ofNat 128 n⟩, 0⟩, .utc 0, []⟩

theorem isFull_blankWorld : blankWorld.random.IsFull :=
  fun _ _ => List.length_replicate

theorem isValid_blankWorld : blankWorld.now.IsValid :=
  Timestamp.isValid_utc (by decide) (by decide)

/-- The cheapest way to a key. -/
def cheapParams : KeyParams :=
  ⟨KeyParams.pbkdf2, 1, 0, 0⟩

theorem isAccepted_cheapParams : cheapParams.IsAccepted :=
  ⟨by decide, by decide, by decide, by decide, by decide, by decide⟩

theorem session_create : ∃ k,
    ((start ⟨false, ["vault"]⟩ cheapParams blankWorld).run [.create "open sesame"]).session =
      ⟨⟨false, ["vault"]⟩, cheapParams, some .empty, some k, some 0⟩ := by
  obtain ⟨k, bytes, random, -, -, -, hcreate⟩ :=
    create_eq (s := .new ⟨false, ["vault"]⟩ cheapParams) isAccepted_cheapParams isFull_blankWorld
      "open sesame" rfl
  have hstore : blankWorld.disk.store ⟨false, ["vault"]⟩ bytes =
      (.ok (), blankWorld.disk.put ⟨false, ["vault"]⟩ (.file bytes)) := rfl
  have hpath : (Session.new ⟨false, ["vault"]⟩ cheapParams).path = ⟨false, ["vault"]⟩ := rfl
  rw [hpath, hstore] at hcreate
  have hrun : ((start ⟨false, ["vault"]⟩ cheapParams blankWorld).run
      [.create "open sesame"]).session =
    ((Session.new ⟨false, ["vault"]⟩ cheapParams).create "open sesame" blankWorld).session := rfl
  rw [hrun, hcreate]
  exact ⟨k, rfl⟩

/-- Creating a vault is a run after which the session is open and clean. -/
theorem unlock_of_clean_create :
    let t := (start ⟨false, ["vault"]⟩ cheapParams blankWorld).run [.create "open sesame"]
    t.session.isOpen = true ∧ t.session.isDirty = false ∧
      ∃ s w' v v', (Session.new t.session.path {}).unlock t.password t.world = ⟨.ok (), s, w'⟩ ∧
        t.session.vault = some v ∧ s.vault = some v' ∧ v'.dump = v.dump := by
  intro t
  obtain ⟨k, ht⟩ : ∃ k, t.session =
    ⟨⟨false, ["vault"]⟩, cheapParams, some .empty, some k, some 0⟩ := session_create
  have hopen : t.session.isOpen = true := by rw [ht]; rfl
  have hclean : t.session.isDirty = false := by rw [ht]; rfl
  have hall : (start ⟨false, ["vault"]⟩ cheapParams blankWorld).AllowsAll
    [.create "open sesame"] := ⟨trivial, trivial⟩
  exact ⟨hopen, hclean, unlock_of_clean isFull_blankWorld isValid_blankWorld
    isAccepted_cheapParams hall hopen hclean {} t.world rfl⟩

end State

end Coffer.Session
