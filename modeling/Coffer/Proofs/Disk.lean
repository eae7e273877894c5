import Coffer.Disk

/-!
Storing a file. Its contents go through a draft, of which nothing is left, whether the file is
replaced or not (`replace_cases`). A file that was stored can be read (`read_store`); when storing
fails where there was a file before, nothing has changed (`eq_of_store_error`). Where there was none,
folders may have been made, but on a disk that is a tree (`IsTree`) all files are as they were
(`Refused.file?`). Storing a file touches no other (`IsTree.file?_store`), and the disk stays a tree
(`IsTree.store`). Whether a file can be stored does not depend on its contents (`store_result`).
-/

namespace Coffer

/-- Runs that differ at most in what they yield both yield something, or fail with the same error. -/
theorem cases_of_map_eq {ε α β γ : Type} {f : α → γ} {g : β → γ} {x : Except ε α} {y : Except ε β}
    (h : x.map f = y.map g) :
    (∃ e, x = .error e ∧ y = .error e) ∨ ∃ a b, x = .ok a ∧ y = .ok b ∧ f a = g b := by
  cases x with
  | error e =>
    cases y with
    | error e' => cases h; exact .inl ⟨e, rfl, rfl⟩
    | ok b => cases h
  | ok a =>
    cases y with
    | error e => cases h
    | ok b => exact .inr ⟨a, b, rfl, rfl, Except.ok.inj h⟩

namespace Disk

/-! ### Finding -/

/-- One name further from a folder. -/
def enter (d : Disk) (p : Path) (name : String) : Except DiskError DiskEntry :=
  if name.utf8ByteSize > maxNameSize then .error .nameTooLong
  else
    match d.entry? (p.child name) with
    | none => .error .notFound
    | some e => .ok e

theorem follow_append (d : Disk) (name : String) : ∀ (names : List String) (at_ : Path)
    (e : DiskEntry), d.follow at_ e (names ++ [name]) =
      match d.follow at_ e names with
      | .ok .folder => d.enter { at_ with names := at_.names ++ names } name
      | .ok (.file _) => .error .notAFolder
      | .error f => .error f
  | [], at_, e => by
    cases e with
    | file contents => rfl
    | folder =>
      rw [List.nil_append, follow, follow, List.append_nil, enter]
      split
      · rfl
      · cases d.entry? (at_.child name) <;> rfl
  | n :: names, at_, e => by
    cases e with
    | file contents => rfl
    | folder =>
      rw [List.cons_append, follow, follow]
      split
      · rfl
      · cases d.entry? (at_.child n) with
        | none => rfl
        | some e =>
          have hpath : (at_.child n).names ++ names = at_.names ++ n :: names := by
            rw [Path.child, List.append_assoc, List.singleton_append]
          dsimp only
          rw [follow_append d name names (at_.child n) e, hpath]
          rfl

theorem find_child (d : Disk) (p : Path) (name : String) : d.find (p.child name) =
    match d.find p with
    | .ok .folder => d.enter p name
    | .ok (.file _) => .error .notAFolder
    | .error e => .error e := by
  rw [find, find, Path.child, follow_append]
  rfl

theorem child_parent {p : Path} (h : p.names ≠ []) : p.parent.child p.base = p := by
  rw [Path.parent, Path.child, Path.base, List.getLastD_eq_getLast?,
    List.getLast?_eq_some_getLast h, Option.getD_some, List.dropLast_concat_getLast]

/-- Whatever is found lies in a folder. -/
theorem find_parent {d : Disk} {p : Path} {e : DiskEntry} (hp : p.names ≠ [])
    (h : d.find p = .ok e) : d.find p.parent = .ok .folder := by
  rw [← child_parent hp, find_child] at h
  split at h
  · assumption
  · contradiction
  · contradiction

theorem names_ne_nil {d : Disk} {p : Path} (h : d.find p ≠ .ok .folder) : p.names ≠ [] := by
  intro hroot
  apply h
  rw [find, hroot]
  rfl

theorem entry?_root (d : Disk) {p : Path} (hroot : p.names = []) : d.entry? p = some .folder :=
  if_pos hroot

theorem entry?_of_find {d : Disk} {p : Path} {e : DiskEntry} (h : d.find p = .ok e) :
    d.entry? p = some e := by
  by_cases hp : p.names = []
  · rw [find, hp] at h
    cases h
    exact entry?_root d hp
  · have hparent := find_parent hp h
    rw [← child_parent hp, find_child, hparent] at h
    dsimp only at h
    rw [enter, child_parent hp] at h
    split at h
    · contradiction
    · cases hentry : d.entry? p with
      | none =>
        rw [hentry] at h
        contradiction
      | some f =>
        rw [hentry] at h
        cases h
        rfl

/-- Space plays no part in finding. -/
theorem follow_filled (d : Disk) (full : Bool) : ∀ (names : List String) (at_ : Path)
    (e : DiskEntry), follow { d with isFull := full } at_ e names = d.follow at_ e names
  | [], _, _ => rfl
  | name :: names, at_, e => by
    have ih := follow_filled d full names
    cases e with
    | file contents => rfl
    | folder =>
      rw [follow, follow]
      split
      · rfl
      · have hentry : entry? { d with isFull := full } (at_.child name) =
            d.entry? (at_.child name) := rfl
        rw [hentry]
        cases d.entry? (at_.child name) with
        | none => rfl
        | some e => exact ih (at_.child name) e

theorem read_filled (d : Disk) (full : Bool) (p : Path) :
    read { d with isFull := full } p = d.read p := by
  rw [read, find, follow_filled]
  rfl

/-! ### Putting -/

theorem lookup_filter (p q : Path) : ∀ es : List (Path × DiskEntry),
    (es.filter (·.1 ≠ p)).lookup q = if q = p then none else es.lookup q
  | [] => by simp
  | (r, e) :: es => by
    have ih := lookup_filter p q es
    by_cases hr : r = p
    · rw [List.filter_cons_of_neg (by simpa using hr), ih, hr]
      by_cases hq : q = p
      · rw [if_pos hq, if_pos hq]
      · rw [if_neg hq, if_neg hq, List.lookup_cons, beq_eq_false_iff_ne.mpr hq]
    · rw [List.filter_cons_of_pos (by simpa using hr), List.lookup_cons, List.lookup_cons, ih]
      by_cases hqr : q = r
      · have hqp : ¬ q = p := by rw [hqr]; exact hr
        rw [beq_iff_eq.mpr hqr]
        exact (if_neg hqp).symm
      · rw [beq_eq_false_iff_ne.mpr hqr]

theorem entry?_put (d : Disk) (p q : Path) (e : DiskEntry) (hp : p.names ≠ []) :
    entry? (d.put p e) q = if q = p then some e else d.entry? q := by
  unfold entry?
  by_cases hroot : q.names = []
  · have hq : ¬ q = p := by
      rintro rfl
      exact hp hroot
    rw [if_pos hroot, if_neg hq, if_pos hroot]
  · rw [if_neg hroot, if_neg hroot, put, List.lookup_append, lookup_filter]
    by_cases hq : q = p
    · rw [if_pos hq, if_pos hq, hq]
      simp
    · rw [if_neg hq, if_neg hq]
      simp [List.lookup_cons, beq_eq_false_iff_ne.mpr hq]

/-- Putting an entry changes nothing about the folders it lies in. -/
theorem find_put_of_lt {d : Disk} {p : Path} {e : DiskEntry} (hp : p.names ≠ []) {q : Path}
    (hq : q.names.length < p.names.length) : (d.put p e).find q = d.find q := by
  generalize hn : q.names.length = n at hq
  induction n generalizing q with
  | zero =>
    have hroot : q.names = [] := List.length_eq_zero_iff.mp hn
    rw [find, find, hroot]
    rfl
  | succ n ih =>
    have hne : q.names ≠ [] := by
      intro h
      rw [h] at hn
      contradiction
    have hparent : q.parent.names.length = n := by
      rw [Path.parent, List.length_dropLast, hn, Nat.add_sub_cancel]
    have hother : ¬ q.parent.child q.base = p := by
      rw [child_parent hne]
      rintro rfl
      omega
    rw [← child_parent hne, find_child, find_child, ih hparent (by omega), enter, enter,
      entry?_put d p _ e hp, if_neg hother]

theorem length_parent_lt {p : Path} (hp : p.names ≠ []) :
    p.parent.names.length < p.names.length := by
  have hpos := List.length_pos_iff.mpr hp
  rw [Path.parent, List.length_dropLast]
  omega

theorem find_put {d : Disk} {p : Path} {e : DiskEntry} (hp : p.names ≠ [])
    (hparent : d.find p.parent = .ok .folder) (hname : p.base.utf8ByteSize ≤ maxNameSize) :
    (d.put p e).find p = .ok e := by
  have hfind : (d.put p e).find (p.parent.child p.base) = .ok e := by
    rw [find_child, find_put_of_lt hp (length_parent_lt hp), hparent]
    simp only [enter, child_parent hp, entry?_put d p p e hp, if_true, if_neg (Nat.not_lt.mpr hname)]
  rwa [child_parent hp] at hfind

/-! ### Folders -/

theorem isFolder_iff {d : Disk} {p : Path} : d.isFolder p = true ↔ d.find p = .ok .folder := by
  rw [isFolder]
  split
  · next h => simp [h]
  · next h => simpa using fun heq => h heq

theorem makeFolder_eq_ok {d d' : Disk} {p : Path} (h : d.makeFolder p = .ok d') :
    d' = d.put p .folder ∧ p.names ≠ [] ∧ d.find p.parent = .ok .folder ∧
      p.base.utf8ByteSize ≤ maxNameSize := by
  unfold makeFolder at h
  split at h
  · contradiction
  · next hmissing =>
    split at h
    · next e hparent =>
      cases h
      have hp : p.names ≠ [] := names_ne_nil (d := d) (by rw [hmissing]; exact nofun)
      rw [← child_parent hp, find_child, hparent] at hmissing
      split at hmissing
      · next hfolder =>
        rw [enter] at hmissing
        split at hmissing
        · cases hmissing
        · next hname => exact ⟨rfl, hp, hparent.trans hfolder, Nat.not_lt.mp hname⟩
      · cases hmissing
      · contradiction
    · contradiction
  · contradiction

theorem find_of_makeFolder {d d' : Disk} {p : Path} (h : d.makeFolder p = .ok d') :
    d.find p = .error .notFound := by
  unfold makeFolder at h
  split at h
  · contradiction
  · assumption
  · contradiction

theorem find_makeFolder {d d' : Disk} {p : Path} (h : d.makeFolder p = .ok d') :
    d'.find p = .ok .folder := by
  obtain ⟨rfl, hp, hparent, hname⟩ := makeFolder_eq_ok h
  exact find_put hp hparent hname

/-- What making one folder keeps, making a folder and those it lies in keeps. None of these has a
longer path. -/
theorem makeFoldersFrom_induction {P : Disk → Prop} (doubled : Bool) (d : Disk) (names : List String)
    (h : P d) (step : ∀ (d : Disk) (p : Path) (d' : Disk), p.names.length ≤ names.length → P d →
      d.makeFolder p = .ok d' → P d') : P (makeFoldersFrom doubled d names).2 := by
  induction names with
  | nil => exact h
  | cons name names ih =>
    rw [makeFoldersFrom]
    dsimp only
    -- The folder around it is there or is made first, so either way it is made last.
    have hmade : P (if d.isPresent (Path.parent ⟨doubled, (name :: names).reverse⟩) = true then
        (Except.ok (), d) else makeFoldersFrom doubled d names).2 := by
      split
      · exact h
      · exact ih fun d p d' hlength => step d p d' (Nat.le_succ_of_le hlength)
    generalize (if d.isPresent (Path.parent ⟨doubled, (name :: names).reverse⟩) = true then
      (Except.ok (), d) else makeFoldersFrom doubled d names) = made at hmade
    split
    · exact hmade
    · split
      · next hfolder => exact step _ _ _ (Nat.le_of_eq List.length_reverse) hmade hfolder
      · exact hmade

theorem find_makeFoldersFrom {doubled : Bool} {names : List String} {d d' : Disk}
    (h : makeFoldersFrom doubled d names = (.ok (), d')) :
    d'.find ⟨doubled, names.reverse⟩ = .ok .folder := by
  cases names with
  | nil => rfl
  | cons name names =>
    rw [makeFoldersFrom] at h
    dsimp only at h
    generalize (if d.isPresent (Path.parent ⟨doubled, (name :: names).reverse⟩) = true then
      (Except.ok (), d) else makeFoldersFrom doubled d names) = made at h
    split at h
    · cases h
    · split at h
      · next hmade =>
        cases h
        exact find_makeFolder hmade
      · split at h
        · next hfolder =>
          cases h
          exact isFolder_iff.mp hfolder
        · cases h

theorem makeFolders_of_find {d : Disk} {p : Path} (h : d.find p = .ok .folder) :
    d.makeFolders p = (.ok (), d) := by
  rw [makeFolders]
  cases hnames : p.names.reverse with
  | nil => rfl
  | cons name names =>
    have hpath : (⟨p.doubled, (name :: names).reverse⟩ : Path) = p := by
      rw [← hnames, List.reverse_reverse]
    have hne : p.names ≠ [] := by
      intro hroot
      rw [hroot] at hnames
      contradiction
    have hparent : d.isPresent p.parent = true := by
      rw [isPresent, find_parent hne h]
      rfl
    have hexists : d.makeFolder p = .error .exists := by rw [makeFolder, h]
    rw [makeFoldersFrom, hpath, hparent]
    simp only [if_true, hexists, isFolder_iff.mpr h]

/-! ### Reading -/

theorem read_eq_ok_iff {d : Disk} {p : Path} {bytes : Bytes} :
    d.read p = .ok bytes ↔ d.find p = .ok (.file bytes) := by
  rw [read]
  cases hfind : d.find p with
  | error e => simp [contents]
  | ok e => cases e <;> simp [contents]

/-! ### Replacing -/

theorem draft_names_ne_nil (p : Path) (n : Nat) : (draft p n).names ≠ [] := by
  rw [draft, Path.child]
  exact List.append_ne_nil_of_right_ne_nil _ (List.cons_ne_nil _ _)

theorem free_of_freeDraft? {d : Disk} {p q : Path} : ∀ {tries n : Nat},
    d.freeDraft? p n tries = some q → d.entry? q = none ∧ q.names ≠ []
  | tries + 1, n, h => by
    rw [freeDraft?] at h
    split at h
    · next hfree =>
      cases h
      exact ⟨hfree, draft_names_ne_nil p n⟩
    · exact free_of_freeDraft? h

theorem remove_put {d : Disk} {q : Path} {e : DiskEntry} (hfree : d.entry? q = none)
    (hq : q.names ≠ []) : (d.put q e).remove q = d := by
  unfold entry? at hfree
  rw [if_neg hq, List.lookup_eq_none_iff] at hfree
  have hkeep : d.entries.filter (·.1 ≠ q) = d.entries := by
    refine List.filter_eq_self.mpr fun r hr => decide_eq_true fun heq => ?_
    exact bne_iff_ne.mp (hfree r hr) heq.symm
  have hdrop : [(q, e)].filter (·.1 ≠ q) = [] := List.filter_cons_of_neg (by simp)
  rw [remove, put]
  dsimp only
  rw [List.filter_append, hkeep, hkeep, hdrop, List.append_nil]

theorem follow_put_of_free {d : Disk} {q : Path} {x : DiskEntry} (hfree : d.entry? q = none)
    (hq : q.names ≠ []) : ∀ {names : List String} {at_ : Path} {e f : DiskEntry},
    d.follow at_ e names = .ok f → (d.put q x).follow at_ e names = .ok f
  | [], _, _, _, h => h
  | name :: names, at_, e, f, h => by
    cases e with
    | file contents => contradiction
    | folder =>
      rw [follow] at h ⊢
      split at h
      · contradiction
      · next hname =>
        rw [if_neg hname]
        have hput := entry?_put d q (at_.child name) x hq
        cases hentry : d.entry? (at_.child name) with
        | none =>
          rw [hentry] at h
          contradiction
        | some e =>
          -- What is passed on the way is there already, and so is not at the place that is free.
          have hne : at_.child name ≠ q := by
            intro heq
            rw [heq, hfree] at hentry
            contradiction
          rw [hentry] at h
          rw [hput, if_neg hne, hentry]
          exact follow_put_of_free hfree hq h

theorem read_eq_ok_of_put {d : Disk} {q : Path} {contents c : Bytes} (hq : q.names ≠ [])
    (h : (d.put q (.file contents)).read q = .ok c) : c = contents := by
  have hentry := entry?_of_find (read_eq_ok_iff.mp h)
  rw [entry?_put d q q _ hq, if_pos rfl] at hentry
  cases hentry
  rfl

/-- A file is replaced, unless there is a folder in its place, or nothing changes. The draft is gone
either way. -/
theorem replace_cases (d : Disk) (p : Path) (contents : Bytes) :
    (∃ e, d.replace p contents = (.error e, d)) ∨
    d.replace p contents = (.ok (), d.put p (.file contents)) ∧ p.names ≠ [] ∧
      d.find p ≠ .ok .folder ∧ p.base.utf8ByteSize ≤ maxNameSize := by
  unfold replace
  split
  · exact .inl ⟨_, rfl⟩
  next hname =>
  cases hdraft : d.freeDraft? p 0 maxDrafts with
  | none => exact .inl ⟨_, rfl⟩
  | some q =>
    obtain ⟨hfree, hq⟩ := free_of_freeDraft? hdraft
    have hremove : (d.put q (.file contents)).remove q = d := remove_put hfree hq
    have hlost : d.find p = .ok .folder → (d.put q (.file contents)).find p = .ok .folder :=
      follow_put_of_free hfree hq
    dsimp only
    -- Whether the draft can be moved is asked of the disk with the draft on it, but that disk has a
    -- folder at the place exactly if the disk before had one.
    rw [move, hremove]
    split
    · next hmoved =>
      split at hmoved
      · contradiction
      · split at hmoved
        · contradiction
        · next hfolder =>
          rw [isFolder_iff] at hfolder
          split at hmoved
          · next c hread =>
            cases hmoved
            rw [read_eq_ok_of_put hq hread]
            exact .inr ⟨rfl, names_ne_nil hfolder, mt hlost hfolder, by omega⟩
          · contradiction
    · exact .inl ⟨_, rfl⟩

/-! ### Storing -/

/-- Storing a file makes the folder that it goes into, and then either puts the file there or changes
nothing more. -/
theorem store_cases (d : Disk) (p : Path) (contents : Bytes) :
    (∃ e, d.store p contents = (.error e, (d.makeFolders p.parent).2)) ∨
    ∃ d₁, d.makeFolders p.parent = (.ok (), d₁) ∧ d₁.find p.parent = .ok .folder ∧
      d.store p contents = (.ok (), d₁.put p (.file contents)) ∧ p.names ≠ [] ∧
      d₁.find p ≠ .ok .folder ∧ p.base.utf8ByteSize ≤ maxNameSize := by
  unfold store
  split
  · next e d₁ hmade =>
    rw [hmade]
    exact .inl ⟨e, rfl⟩
  · next d₁ hmade =>
    have hparent := find_makeFoldersFrom hmade
    rw [List.reverse_reverse] at hparent
    rw [hmade]
    obtain ⟨e, hreplace⟩ | ⟨hreplace, hp, hfolder, hname⟩ := replace_cases d₁ p contents
    · exact .inl ⟨e, hreplace⟩
    · exact .inr ⟨d₁, rfl, hparent, hreplace, hp, hfolder, hname⟩

/-- A file that was stored can be read. -/
theorem read_store {d d' : Disk} {p : Path} {contents : Bytes}
    (h : d.store p contents = (.ok (), d')) : d'.read p = .ok contents := by
  obtain ⟨e, hstore⟩ | ⟨d₁, -, hparent, hstore, hp, -, hname⟩ := store_cases d p contents
  · rw [hstore] at h
    cases h
  · rw [hstore] at h
    cases h
    exact read_eq_ok_iff.mpr (find_put hp hparent hname)

theorem eq_makeFolders_of_store_error {d d' : Disk} {p : Path} {contents : Bytes} {e : DiskError}
    (h : d.store p contents = (.error e, d')) : d' = (d.makeFolders p.parent).2 := by
  obtain ⟨f, hstore⟩ | ⟨d₁, -, -, hstore, -⟩ := store_cases d p contents
  · rw [hstore] at h
    cases h
    rfl
  · rw [hstore] at h
    cases h

theorem isPresent_of_read {d : Disk} {p : Path} {bytes : Bytes} (h : d.read p = .ok bytes) :
    d.isPresent p = true := by
  rw [isPresent, read_eq_ok_iff.mp h]
  rfl

/-- A file that cannot be stored where there is one already leaves everything as it is. -/
theorem eq_of_store_error {d d' : Disk} {p : Path} {contents old : Bytes} {e : DiskError}
    (hread : d.read p = .ok old) (h : d.store p contents = (.error e, d')) : d' = d := by
  have hfind := read_eq_ok_iff.mp hread
  have hp : p.names ≠ [] := names_ne_nil (d := d) (by rw [hfind]; exact nofun)
  rw [eq_makeFolders_of_store_error h, makeFolders_of_find (find_parent hp hfind)]

theorem store_of_isFull {d : Disk} (h : d.isFull = true) (p : Path) (contents : Bytes) :
    ∃ e, d.store p contents = (.error e, (d.makeFolders p.parent).2) := by
  have hfull : (d.makeFolders p.parent).2.isFull = true := by
    refine makeFoldersFrom_induction (P := fun d => d.isFull = true) _ _ _ h ?_
    rintro d₁ q d₂ - hd₁ hmade
    obtain ⟨rfl, -⟩ := makeFolder_eq_ok hmade
    exact hd₁
  obtain hrefused | ⟨d₁, hmade, -, hstore, -⟩ := store_cases d p contents
  · exact hrefused
  · -- The draft could be written, but not put in the place of the file.
    rw [hmade] at hfull
    rw [store, hmade] at hstore
    dsimp only at hfull hstore
    unfold replace move at hstore
    simp only [put, hfull, if_true] at hstore
    split at hstore
    · cases hstore
    · split at hstore <;> cases hstore

/-! ### Contents -/

def isFile : DiskEntry → Bool
  | .file _ => true
  | .folder => false

theorem follow_put_file {d : Disk} {q : Path} (hq : q.names ≠ []) (a b : Bytes) :
    ∀ (names : List String) (at_ : Path) {e e' : DiskEntry}, isFile e = isFile e' →
      ((d.put q (.file a)).follow at_ e names).map isFile =
        ((d.put q (.file b)).follow at_ e' names).map isFile
  | [], _, _, _, h => congrArg Except.ok h
  | name :: names, at_, e, e', h => by
    cases e with
    | file _ =>
      cases e' with
      | file _ => rfl
      | folder => cases h
    | folder =>
      cases e' with
      | file _ => cases h
      | folder =>
        simp only [follow, entry?_put d q _ _ hq]
        split
        · rfl
        -- At the place itself the two entries differ, but both are files.
        by_cases hplace : at_.child name = q
        · simp only [if_pos hplace]
          exact follow_put_file hq a b names _ rfl
        · simp only [if_neg hplace]
          cases d.entry? (at_.child name) with
          | none => rfl
          | some e => exact follow_put_file hq a b names _ rfl

theorem find_put_file {d : Disk} {q : Path} (hq : q.names ≠ []) (a b : Bytes) (p : Path) :
    ((d.put q (.file a)).find p).map isFile = ((d.put q (.file b)).find p).map isFile :=
  follow_put_file hq a b p.names p.root rfl

theorem isFolder_eq (d : Disk) (p : Path) :
    d.isFolder p = (((d.find p).map isFile).toOption == some false) := by
  rw [isFolder]
  cases d.find p with
  | error e => rfl
  | ok e => cases e <;> rfl

theorem read_put_file {d : Disk} {q : Path} (hq : q.names ≠ []) (a b : Bytes) (p : Path) :
    ((d.put q (.file a)).read p).map (fun _ => ()) =
      ((d.put q (.file b)).read p).map fun _ => () := by
  rw [read, read]
  obtain ⟨e, ha, hb⟩ | ⟨x, y, ha, hb, hfile⟩ := cases_of_map_eq (find_put_file (d := d) hq a b p)
  · rw [ha, hb]
  · rw [ha, hb]
    cases x <;> cases y <;> first | rfl | cases hfile

theorem move_put_file {d : Disk} {q : Path} (hq : q.names ≠ []) (a b : Bytes) (p : Path) :
    ((d.put q (.file a)).move q p).map (fun _ => ()) =
      ((d.put q (.file b)).move q p).map fun _ => () := by
  have hfolder : (d.put q (.file a)).isFolder p = (d.put q (.file b)).isFolder p := by
    rw [isFolder_eq, isFolder_eq, find_put_file hq a b]
  have hfull : (d.put q (.file a)).isFull = (d.put q (.file b)).isFull := rfl
  rw [move, move, hfolder, hfull]
  split
  · rfl
  split
  · rfl
  obtain ⟨e, ha, hb⟩ | ⟨x, y, ha, hb, -⟩ := cases_of_map_eq (read_put_file (d := d) hq a b q)
  · rw [ha, hb]
  · rw [ha, hb]
    rfl

/-- Whether a file can be replaced does not depend on the new contents. -/
theorem replace_result (d : Disk) (p : Path) (a b : Bytes) :
    (d.replace p a).1 = (d.replace p b).1 := by
  unfold replace
  split
  · rfl
  cases hdraft : d.freeDraft? p 0 maxDrafts with
  | none => rfl
  | some q =>
    have hmove := move_put_file (d := d) (free_of_freeDraft? hdraft).2 a b p
    obtain ⟨e, ha, hb⟩ | ⟨x, y, ha, hb, -⟩ := cases_of_map_eq hmove
    all_goals simp only [ha, hb]

theorem store_result (d : Disk) (p : Path) (a b : Bytes) :
    (d.store p a).1 = (d.store p b).1 := by
  unfold store
  split
  · rfl
  · exact replace_result _ p a b

/-! ### Trees -/

/-- Everything on the disk lies in a folder. -/
def IsTree (d : Disk) : Prop :=
  ∀ (p : Path) (e : DiskEntry), d.entry? p = some e → d.entry? p.parent = some .folder

theorem isTree_empty : empty.IsTree := by
  intro p e h
  by_cases hp : p.names = []
  · exact entry?_root empty (by rw [Path.parent, hp]; rfl)
  · have hnone : empty.entry? p = none := if_neg hp
    rw [hnone] at h
    contradiction

/-- In a tree the entry at a place is found there, unless a name is too long to be looked for. No
name is, if anything is found there in any other tree. -/
theorem IsTree.find {d d' : Disk} (h : d.IsTree) {p : Path} {e f : DiskEntry}
    (hd' : d'.find p = .ok f) (he : d.entry? p = some e) : d.find p = .ok e := by
  generalize hn : p.names.length = n
  induction n generalizing p e f with
  | zero =>
    have hroot : p.names = [] := List.length_eq_zero_iff.mp hn
    rw [entry?_root d hroot] at he
    cases he
    rw [Disk.find, hroot]
    rfl
  | succ n ih =>
    have hp : p.names ≠ [] := by
      intro hroot
      rw [hroot] at hn
      contradiction
    have hlength : p.parent.names.length = n := by
      rw [Path.parent, List.length_dropLast, hn, Nat.add_sub_cancel]
    -- The folder that the entry lies in is found in both trees; `d'` shows that the last name is
    -- not too long.
    have hparent' := find_parent hp hd'
    have hparent := ih hparent' (h p e he) hlength
    rw [← child_parent hp, find_child, hparent'] at hd'
    rw [← child_parent hp, find_child, hparent]
    dsimp only at hd' ⊢
    rw [enter] at hd' ⊢
    rw [child_parent hp, he]
    split at hd'
    · contradiction
    · next hname => exact if_neg hname

/-- An entry may be put into a folder, but a file not in the place of a folder. -/
theorem IsTree.put {d : Disk} (h : d.IsTree) {p : Path} {e : DiskEntry} (hp : p.names ≠ [])
    (hparent : d.entry? p.parent = some .folder)
    (he : e = .folder ∨ d.entry? p ≠ some .folder) : (d.put p e).IsTree := by
  intro q f hq
  -- What lies in the folder at `p` would be lost if `p` became a file.
  have hentry : d.entry? q.parent = some .folder := by
    rw [entry?_put d p q e hp] at hq
    split at hq
    · next heq => rw [heq, hparent]
    · exact h q f hq
  rw [entry?_put d p q.parent e hp]
  split
  · next heq =>
    obtain rfl | hother := he
    · rfl
    · rw [heq] at hentry
      contradiction
  · exact hentry

theorem IsTree.makeFolder {d d' : Disk} (h : d.IsTree) {p : Path}
    (hd' : d.makeFolder p = .ok d') : d'.IsTree := by
  obtain ⟨rfl, hp, hparent, -⟩ := makeFolder_eq_ok hd'
  exact h.put hp (entry?_of_find hparent) (.inl rfl)

/-! ### Files -/

/-- The file at a place, if there is one that can be read. -/
def file? (d : Disk) (p : Path) : Option Bytes :=
  (d.read p).toOption

theorem file?_eq_some_iff {d : Disk} {p : Path} {bytes : Bytes} :
    d.file? p = some bytes ↔ d.find p = .ok (.file bytes) := by
  rw [← read_eq_ok_iff, file?]
  cases d.read p <;> simp [Except.toOption]

theorem IsTree.file?_congr {d d' : Disk} (h : d.IsTree) (h' : d'.IsTree) {p : Path}
    (hentry : ∀ bytes, d'.entry? p = some (.file bytes) ↔ d.entry? p = some (.file bytes)) :
    d'.file? p = d.file? p := by
  ext bytes
  rw [file?_eq_some_iff, file?_eq_some_iff]
  constructor
  · intro hfind
    exact h.find hfind ((hentry bytes).mp (entry?_of_find hfind))
  · intro hfind
    exact h'.find hfind ((hentry bytes).mpr (entry?_of_find hfind))

/-- Making folders keeps a tree a tree, and adds and removes no files. -/
theorem IsTree.makeFolders {d : Disk} (h : d.IsTree) (p : Path) :
    (d.makeFolders p).2.IsTree ∧ ∀ q bytes,
      entry? (d.makeFolders p).2 q = some (.file bytes) ↔ d.entry? q = some (.file bytes) := by
  refine makeFoldersFrom_induction (P := fun d' => d'.IsTree ∧ ∀ q bytes,
    entry? d' q = some (.file bytes) ↔ d.entry? q = some (.file bytes)) _ d _ ⟨h, fun _ _ => .rfl⟩ ?_
  rintro d₁ r d₂ - ⟨htree, hsame⟩ hmade
  refine ⟨htree.makeFolder hmade, fun q bytes => ?_⟩
  rw [← hsame q bytes]
  have hfound := find_makeFolder hmade
  have hmissing := find_of_makeFolder hmade
  obtain ⟨rfl, hr, -, -⟩ := makeFolder_eq_ok hmade
  rw [entry?_put d₁ r q .folder hr]
  split
  · next heq =>
    subst heq
    constructor
    · intro hfolder
      cases hfolder
    · intro hfile
      rw [htree.find hfound hfile] at hmissing
      contradiction
  · exact .rfl

/-- Storing a file keeps a tree a tree, whether it fails or not. -/
theorem IsTree.store {d : Disk} (h : d.IsTree) (p : Path) (contents : Bytes) :
    (d.store p contents).2.IsTree := by
  have hfolders := (h.makeFolders p.parent).1
  obtain ⟨e, hstore⟩ | ⟨d₁, hmade, hparent, hstore, hp, hfolder, hname⟩ := store_cases d p contents
  · rw [hstore]
    exact hfolders
  · rw [hmade] at hfolders
    rw [hstore]
    refine hfolders.put hp (entry?_of_find hparent) (.inr fun hentry => hfolder ?_)
    exact hfolders.find (find_put (e := .folder) hp hparent hname) hentry

/-- Storing a file touches no other file. -/
theorem IsTree.file?_store {d d' : Disk} (h : d.IsTree) {p q : Path} {contents : Bytes}
    (hstore : d.store p contents = (.ok (), d')) (hq : q ≠ p) : d'.file? q = d.file? q := by
  have htree := h.store p contents
  rw [hstore] at htree
  obtain ⟨e, heq⟩ | ⟨d₁, hmade, -, heq, hp, -⟩ := store_cases d p contents
  · rw [heq] at hstore
    cases hstore
  · rw [heq] at hstore
    cases hstore
    refine h.file?_congr htree fun bytes => ?_
    have hfolders := (h.makeFolders p.parent).2 q bytes
    rw [hmade] at hfolders
    rw [entry?_put d₁ p q _ hp, if_neg hq]
    exact hfolders

/-- A disk takes a file at a place, whatever is in it. -/
def Takes (d : Disk) (p : Path) : Prop :=
  ∀ contents, ∃ d', d.store p contents = (.ok (), d')

/-- The disk after a file could not be stored at a place. -/
def Refused (d : Disk) (p : Path) (d' : Disk) : Prop :=
  ∃ contents e, d.store p contents = (.error e, d')

/-- When a file could not be stored, all files are as they were before. -/
theorem Refused.file? {d d' : Disk} {p : Path} (h : d.Refused p d') (htree : d.IsTree) (q : Path) :
    d'.file? q = d.file? q := by
  obtain ⟨contents, e, hstore⟩ := h
  obtain ⟨htree', hfiles⟩ := htree.makeFolders p.parent
  rw [eq_makeFolders_of_store_error hstore]
  exact htree.file?_congr htree' (hfiles q)

/-- A file that could not be stored is as it was before. -/
theorem Refused.read {d d' : Disk} {p : Path} (h : d.Refused p d') (htree : d.IsTree) :
    (d'.read p).toOption = (d.read p).toOption :=
  h.file? htree p

/-- Making folders changes nothing below the last of them. -/
theorem entry?_makeFoldersFrom {doubled : Bool} {q : Path} (names : List String) (d : Disk)
    (hlength : names.length < q.names.length) :
    entry? (makeFoldersFrom doubled d names).2 q = d.entry? q := by
  refine makeFoldersFrom_induction (P := fun d' => d'.entry? q = d.entry? q) _ _ _ rfl ?_
  intro d₁ p d₂ hp hsame hmade
  obtain ⟨rfl, hroot, -, -⟩ := makeFolder_eq_ok hmade
  have hne : q ≠ p := by
    rintro rfl
    exact absurd hlength (Nat.not_lt.mpr hp)
  rw [entry?_put _ _ q _ hroot, if_neg hne]
  exact hsame

/-- Where there was nothing and a file could not be stored, there is still nothing. -/
theorem Refused.isPresent {d d' : Disk} {p : Path} (h : d.Refused p d') (htree : d.IsTree)
    (hfree : d.isPresent p = false) : d'.isPresent p = false := by
  obtain ⟨contents, e, hstore⟩ := h
  have hd' := eq_makeFolders_of_store_error hstore
  cases hfind : d'.find p with
  | error f =>
    rw [Disk.isPresent, hfind]
    rfl
  | ok x =>
    have hentry := entry?_of_find hfind
    have hp : p.names ≠ [] := by
      intro hroot
      rw [Disk.isPresent, Disk.find, hroot] at hfree
      contradiction
    rw [hd', Disk.makeFolders, entry?_makeFoldersFrom] at hentry
    · rw [Disk.isPresent, htree.find hfind hentry] at hfree
      contradiction
    · rw [List.length_reverse]
      exact length_parent_lt hp

end Disk

end Coffer
