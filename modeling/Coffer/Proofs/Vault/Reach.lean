import Coffer.Proofs.Uuid
import Coffer.Proofs.Vault.History
import Coffer.Vault.Query

/-!
No log gets out of reach.

What a reference means is looked up in three places, one after the other: among the names of the
live records, among the names of the deleted ones from the last back, and among the ids. A name that
is used again hides what it meant before, in this place and in the next. But nothing is hidden for
good: records are never lost (`Keeps`), and as long as ids are distinct, the text of an id finds its
record wherever it is and whatever it is called by now, unless somebody has used that very text for a
name. Among deleted records of one name the last to be found is the last that was deleted, since they
are kept in that order (`tombstones_run`).

Main statement: `history_reaches`.
-/

namespace Coffer

/-- The log of a record as it is shown, with values that were sensitive hidden unless they are asked
for. -/
def Record.log (r : Record) (reveal : Bool) : List HistoryEntry :=
  if reveal then r.history else r.history.map HistoryEntry.masked

namespace Vault

variable {now : Timestamp} {v v' : Vault} {c : Call} {r t : Record} {ref : String}

/-! ### Looking up -/

theorem history_of_findAny (h : v.findAny ref = some r) (reveal : Bool) :
    v.history ref reveal = .ok (r.log reveal) := by
  rw [history, h]
  rfl

theorem findAny_of_live (hv : v.names.Nodup) (hr : r ∈ v.records) : v.findAny r.name = some r := by
  have hfind : v.find? r.name = some r := find?_key_of_nodup hv hr
  rw [findAny, hfind]

/-- A name that is not live means the last deleted record of those that had it. -/
theorem findAny_of_gone {before after : List Record} (hfree : t.name ∉ v.names)
    (hgone : v.tombstones = before ++ t :: after) (hlast : ∀ q ∈ after, q.name ≠ t.name) :
    v.findAny t.name = some t := by
  have hafter : after.reverse.find? (·.name == t.name) = none := by
    rw [List.find?_eq_none]
    intro q hq
    simpa using hlast q (List.mem_reverse.mp hq)
  have hfind : v.tombstones.reverse.find? (·.name == t.name) = some t := by
    rw [hgone, List.reverse_append, List.reverse_cons, List.find?_append, List.find?_append, hafter]
    simp
  rw [findAny, find?_eq_none_iff.mpr hfree, hfind]

theorem findAny_of_id (hids : v.ids.Nodup) (hr : r ∈ v.all)
    (hnames : ∀ q ∈ v.all, q.name ≠ r.id.text) : v.findAny r.id.text = some r := by
  obtain ⟨hlive, hgone⟩ := List.forall_mem_append.mp hnames
  have hfree : v.find? r.id.text = none := by
    rw [find?, List.find?_eq_none]
    intro q hq
    simpa using hlive q hq
  have hburied : v.tombstones.reverse.find? (·.name == r.id.text) = none := by
    rw [List.find?_eq_none]
    intro q hq
    simpa using hgone q (List.mem_reverse.mp hq)
  rw [findAny, hfree, hburied, Uuid.ofText?_text]
  exact find?_key_of_nodup hids hr

/-! ### The order of deletion -/

/-- What a call deletes: the record as the deletion returns it. -/
def deletion (now : Timestamp) (v : Vault) : Call → List Record
  | .delete name =>
    match v.delete now name with
    | .ok (r, _) => [r]
    | .error _ => []
  | _ => []

/-- What calls delete, one after the other. -/
def deletions (st : Vault × IdSource) : List (Timestamp × Call) → List Record
  | [] => []
  | c :: calls => deletion c.1 st.1 c.2 ++ deletions (perform c.1 st c.2) calls

theorem Idle.deletion_eq (h : Idle v c) (now : Timestamp) : deletion now v c = [] := by
  cases h with
  | delete hr => rw [deletion, delete_eq, hr]
  | set | deleteFields | rename => rfl

theorem Step.tombstones_eq (h : Step now v c v') :
    v'.tombstones = v.tombstones ++ deletion now v c := by
  cases h with
  | deleted hr =>
    rw [deletion, delete_eq, hr]
    rfl
  | created | stored | dropped | renamed => exact (List.append_nil _).symm

/-- A call keeps what was deleted before, and puts what it deletes behind it. -/
theorem tombstones_perform (now : Timestamp) (st : Vault × IdSource) (c : Call) :
    (perform now st c).1.tombstones = st.1.tombstones ++ deletion now st.1 c := by
  have single : ∀ (st : Vault × IdSource) (c : Call), c.isImport = false →
      (perform now st c).1.tombstones = st.1.tombstones ++ deletion now st.1 c := by
    intro st c hc
    obtain ⟨hidle, hsame⟩ | hstep := perform_cases now st hc
    · rw [hsame, hidle.deletion_eq, List.append_nil]
    · exact hstep.tombstones_eq
  cases c with
  | importEntries entries =>
    -- Setting fields deletes nothing, however often it is done.
    rw [perform, importEntries_eq_foldl]
    show (List.foldl _ st entries).1.tombstones = st.1.tombstones ++ []
    induction entries generalizing st with
    | nil => exact (List.append_nil _).symm
    | cons e entries ih =>
      rw [List.foldl_cons, ih, single st _ rfl]
      exact List.append_nil _
  | set | delete | deleteFields | rename => exact single st _ rfl

/-- Deleted records are kept as they were then, in the order of deletion. -/
theorem tombstones_run (st : Vault × IdSource) (calls : List (Timestamp × Call)) :
    (run st calls).1.tombstones = st.1.tombstones ++ deletions st calls := by
  induction calls generalizing st with
  | nil => exact (List.append_nil _).symm
  | cons c calls ih =>
    show (run (perform c.1 st c.2) calls).1.tombstones = _
    rw [ih, tombstones_perform, deletions, List.append_assoc]

/-! ### Runs -/

theorem run_append (st : Vault × IdSource) (earlier later : List (Timestamp × Call)) :
    run st (earlier ++ later) = run (run st earlier) later :=
  List.foldl_append

/-- **No log gets out of reach.** After any calls from an empty vault, if the ids that were taken are
distinct: every record there was at any time is still there and its log has only gone on, and it is
shown under the text of its id, unless a record, live or deleted, is called just that. Under the
name of a live record its own log is shown. Under a name that is not live, it is that of the record
deleted last under this name. -/
theorem history_reaches {ids : IdSource} {calls : List (Timestamp × Call)}
    (hids : (ids.taken (run (.empty, ids) calls).2).Nodup) :
    let v := (run (.empty, ids) calls).1
    (∀ earlier later, calls = earlier ++ later → ∀ q ∈ (run (.empty, ids) earlier).1.all,
      ∃ r ∈ v.all, q.Extends r ∧ ((∀ p ∈ v.all, p.name ≠ q.id.text) →
        ∀ reveal, v.history q.id.text reveal = .ok (r.log reveal))) ∧
    (∀ r ∈ v.records, ∀ reveal, v.history r.name reveal = .ok (r.log reveal)) ∧
    ∀ before t after, deletions (.empty, ids) calls = before ++ t :: after → t.name ∉ v.names →
      (∀ q ∈ after, q.name ≠ t.name) →
        ∀ reveal, v.history t.name reveal = .ok (t.log reveal) := by
  intro v
  have hlawful : v.IsLawful := isLawful_empty.run ids calls
  have hperm : v.ids.Perm (ids.taken (run (.empty, ids) calls).2) :=
    (grows_run isLawful_empty.names ids calls).ids
  have hnodup : v.ids.Nodup := hperm.nodup_iff.mpr hids
  refine ⟨?_, ?_, ?_⟩
  · rintro earlier later rfl q hq
    have hkeeps : Keeps (run (.empty, ids) earlier).1 v := by
      have hnames := (isLawful_empty.run ids earlier).names
      have hlater := keeps_run hnames (run (.empty, ids) earlier).2 later
      rwa [← run_append] at hlater
    obtain ⟨r, hr, hfollows⟩ := hkeeps.follows q hq
    refine ⟨r, hr, hfollows, fun hnames reveal => history_of_findAny ?_ reveal⟩
    rw [← hfollows.id] at hnames ⊢
    exact findAny_of_id hnodup hr hnames
  · intro r hr reveal
    exact history_of_findAny (findAny_of_live hlawful.names hr) reveal
  · intro before t after hsplit hfree hlast reveal
    have hgone : v.tombstones = before ++ t :: after := (tombstones_run _ calls).trans hsplit
    exact history_of_findAny (findAny_of_gone hfree hgone hlast) reveal

/-- A name is used by three records, one after the other: the first is called something else now, the
second was deleted, and so was the third. The name now means the third; the second is found by its
id. -/
theorem history_reaches_reused :
    let ids : IdSource := ⟨fun n => ⟨BitVec.ofNat 128 n⟩, 0⟩
    let earlier : List (Timestamp × Call) :=
      [(.utc 0, .set "mail" [⟨"user", "me", false⟩]), (.utc 1, .rename "mail" "post"),
        (.utc 2, .set "mail" [⟨"user", "you", false⟩])]
    let later : List (Timestamp × Call) :=
      [(.utc 3, .delete "mail"), (.utc 4, .importEntries [⟨1, ⟨"mail", []⟩⟩]),
        (.utc 5, .delete "mail")]
    let v := (run (.empty, ids) (earlier ++ later)).1
    let second : Record := ⟨"mail", ⟨1⟩, [⟨"user", "you", false⟩], [], .utc 2, .utc 2⟩
    let third : Record := buried (.utc 5) (.blank "mail" ⟨2⟩ (.utc 4))
    (ids.taken (run (.empty, ids) (earlier ++ later)).2).Nodup ∧
      (∃ r ∈ v.all, second.Extends r ∧
        v.history "00000000-0000-0000-0000-000000000001" true = .ok r.history) ∧
      (∃ r ∈ v.records, r.id = ⟨0⟩ ∧ v.history "post" true = .ok r.history) ∧
      v.history "mail" true = .ok third.history := by
  intro ids earlier later v second third
  have hids : (ids.taken (run (.empty, ids) (earlier ++ later)).2).Nodup := by decide +kernel
  have htext : second.id.text = "00000000-0000-0000-0000-000000000001" := by decide +kernel
  obtain ⟨hid, hlive, hgone⟩ := history_reaches hids
  refine ⟨hids, ?_, ?_, ?_⟩
  · obtain ⟨r, hr, hfollows, hreached⟩ := hid earlier later rfl second (by decide +kernel)
    rw [htext] at hreached
    exact ⟨r, hr, hfollows, hreached (by decide +kernel) true⟩
  · exact ⟨_, List.mem_singleton_self _, rfl, hlive _ (List.mem_singleton_self _) true⟩
  · exact hgone _ third [] rfl (by decide +kernel) (by decide) true

end Vault

end Coffer
