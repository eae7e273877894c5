import Coffer.Proofs.Vault.Course

/-!
Updates of different records may be made in either order.

An `Update` changes a record that is there: it sets fields, removes fields or gives a new name. What
it comes to depends on that one record and on the moment alone (`Update.course_eq`): it is refused,
or it leaves the record as it is, or it writes a revised record in its place. An update of another
record finds the same record before and after that (`Update.find?_written`), and the two write in
different places (`Update.written_comm`). A new name makes no difference as long as nobody else asks
for it or takes it.

Main statement: `updates_commute`.
-/

namespace Coffer.Vault

/-- What a course yields, or why it stops. -/
def answerOf {α : Type} : EStateM.Result VaultError Desk α → Except VaultError α
  | .ok a _ => .ok a
  | .error e _ => .error e

/-- A change to a record that is there. -/
inductive Update where
  | set (name : String) (fields : List Field)
  | deleteFields (name : String) (keys : List String)
  | rename (old new : String)
deriving DecidableEq, Repr

namespace Update

def call : Update → Call
  | .set name fields => .set name fields
  | .deleteFields name keys => .deleteFields name keys
  | .rename old new => .rename old new

/-- The name of the record that is to change. -/
def target : Update → String
  | .set name _ | .deleteFields name _ | .rename name _ => name

def newName? : Update → Option String
  | .rename _ new => some new
  | _ => none

/-- The names and keys that are given can be stored. -/
def IsStorable : Update → Prop
  | .set name fields => Storable name fields
  | .deleteFields .. => True
  | .rename _ new => new ≠ ""

/-- The complaint about what is to be stored, if there is one. -/
def fault? : Update → Option VaultError
  | .set name fields =>
    if name = "" then some .emptyName
    else match checkFields [] fields with
      | .ok _ => none
      | .error e => some e
  | .deleteFields .. => none
  | .rename _ new => if new = "" then some .emptyName else none

/-- There is a record to change, and the name that it is given is free. -/
structure Fits (v : Vault) (u : Update) : Prop where
  found : u.target ∈ v.names
  free : ∀ new ∈ u.newName?, new ∉ v.names

/-- Two updates are about different records, and give different names. -/
structure Independent (v : Vault) (a b : Update) : Prop where
  left : a.Fits v
  right : b.Fits v
  targets : a.target ≠ b.target
  newNames : ∀ new ∈ a.newName?, new ∉ b.newName?

/-! ### What an update comes to -/

variable {now : Timestamp} {v : Vault} {ids : IdSource} {u a b : Update} {r : Record}

/-- What becomes of the record, if it changes at all. -/
def revised? (now : Timestamp) (r : Record) : Update → Option Record
  | .set _ fields => some { storeFields now r fields with updatedAt := now }
  | .deleteFields _ keys =>
    if ∀ k ∈ keys, k ∉ fieldKeys r.fields then none
    else some { dropFields now r keys with updatedAt := now }
  | .rename old new => some (renamed now old new r)

def written (u : Update) (v : Vault) : Option Record → Vault
  | none => v
  | some r => (v.replace u.target r).touched

theorem fault?_set_eq_none {name : String} {fields : List Field} :
    (Update.set name fields).fault? = none ↔ Storable name fields := by
  rw [fault?, Storable, ← checkFields_nil]
  by_cases hname : name = ""
  · simp [hname]
  · cases hcheck : checkFields [] fields <;> simp [hname]

theorem fault?_eq_none_iff : u.fault? = none ↔ u.IsStorable := by
  cases u with
  | set name fields => exact fault?_set_eq_none
  | deleteFields name keys => simp [fault?, IsStorable]
  | rename old new => simp [fault?, IsStorable]

theorem set_of_fault? {name : String} {fields : List Field} {e : VaultError}
    (h : (Update.set name fields).fault? = some e) (now : Timestamp) (v : Vault) (ids : IdSource) :
    v.set now ids name fields = .error e := by
  rw [fault?] at h
  split at h
  · next hname =>
    cases h
    simp only [Vault.set, hname, if_true]
    rfl
  · next hname =>
    split at h
    · cases h
    · next e' hcheck =>
      cases h
      simp only [Vault.set, hname, hcheck, if_false]
      rfl

/-- At one moment, an update is refused for what it says, or depends on its record alone. -/
theorem course_eq (hr : v.find? u.target = some r) (hfree : ∀ new ∈ u.newName?, v.find? new = none) :
    u.call.course ⟨v, ids, .still now⟩ = match u.fault? with
      | some e => .error e ⟨v, ids, .still now⟩
      | none => .ok (.record ((u.revised? now r).getD r))
        ⟨u.written v (u.revised? now r), ids, .still now⟩ := by
  -- What is left are the equations of the calls, in which only the record itself is looked up.
  refine (Operation.course_still (.call u.call)).trans ?_
  cases u with
  | set name fields =>
    rw [call, Operation.atOnce]
    cases hfault : (Update.set name fields).fault? with
    | some e =>
      rw [set_of_fault? hfault]
      rfl
    | none =>
      rw [target] at hr
      rw [set_of_storable now v ids (fault?_set_eq_none.mp hfault), hr]
      rfl
  | deleteFields name keys =>
    rw [target] at hr
    rw [call, Operation.atOnce, deleteFields_eq, hr]
    by_cases hidle : ∀ k ∈ keys, k ∉ fieldKeys r.fields
    · simp only [fault?, revised?, if_pos hidle]
      rfl
    · simp only [fault?, revised?, if_neg hidle]
      rfl
  | rename old new =>
    rw [target] at hr
    have hcontains : ¬ v.contains new = true := by
      rw [contains, hfree new rfl]
      decide
    rw [call, Operation.atOnce, rename_eq, hr]
    by_cases hnew : new = ""
    · simp only [fault?, if_pos hnew]
      rfl
    · simp only [fault?, if_neg hnew, if_neg hcontains]
      rfl

theorem name_of_revised? {r' : Record} (hr : v.find? u.target = some r)
    (h : u.revised? now r = some r') : r'.name = u.target ∨ r'.name ∈ u.newName? := by
  have hname : r.name = u.target := name_of_find? hr
  cases u with
  | set name fields =>
    cases h
    left
    simpa using hname
  | deleteFields name keys =>
    rw [revised?] at h
    split at h
    · cases h
    · cases h
      left
      simpa using hname
  | rename old new =>
    cases h
    right
    rfl

/-! ### Two updates -/

/-- A name that an update neither asks for nor gives is looked up as before. -/
theorem find?_written {name : String} (hr : v.find? u.target = some r) (htarget : name ≠ u.target)
    (hnew : name ∉ u.newName?) : (u.written v (u.revised? now r)).find? name = v.find? name := by
  cases hrevised : u.revised? now r with
  | none => rfl
  | some r' =>
    have hr' : r'.name ≠ name := by
      intro heq
      subst heq
      exact (name_of_revised? hr hrevised).elim htarget hnew
    -- Neither the record that goes nor the one that comes in its place has the name.
    have hsame : ∀ q : Record,
        ((if q.name = u.target then r' else q).name == name) = (q.name == name) := by
      intro q
      by_cases hq : q.name = u.target
      · simp [hq, hr', htarget.symm]
      · simp [hq]
    simp only [written, touched, find?, replace, List.find?_map, Function.comp_def, hsame]
    cases hfound : v.records.find? (·.name == name) with
    | none => rfl
    | some q =>
      have hq : q.name ≠ u.target := by
        rw [name_of_find? hfound]
        exact htarget
      simp [hq]

/-- Two records are written in different places, so it does not matter which is written first. -/
theorem written_comm {ra rb : Option Record} (htargets : a.target ≠ b.target)
    (ha : ∀ r ∈ ra, r.name ≠ b.target) (hb : ∀ r ∈ rb, r.name ≠ a.target) :
    b.written (a.written v ra) rb = a.written (b.written v rb) ra := by
  cases ra with
  | none => rfl
  | some ra =>
    cases rb with
    | none => rfl
    | some rb =>
      have ha : ra.name ≠ b.target := ha ra rfl
      have hb : rb.name ≠ a.target := hb rb rfl
      simp only [written, touched, replace, List.map_map]
      congr 1
      apply List.map_congr_left
      intro q _
      by_cases hqa : q.name = a.target
      · simp [hqa, htargets, ha]
      · by_cases hqb : q.name = b.target
        · simp [hqb, htargets.symm, hb]
        · simp [hqa, hqb]

theorem Independent.symm (h : Independent v a b) : Independent v b a :=
  ⟨h.right, h.left, h.targets.symm, fun new hb ha => h.newNames new ha hb⟩

theorem Fits.exists_record (h : u.Fits v) : ∃ r, v.find? u.target = some r := by
  rw [← Option.ne_none_iff_exists']
  intro hnone
  exact find?_eq_none_iff.mp hnone h.found

theorem Fits.find?_new (h : u.Fits v) : ∀ new ∈ u.newName?, v.find? new = none := by
  intro new hnew
  exact find?_eq_none_iff.mpr (h.free new hnew)

theorem Independent.name_ne (h : Independent v a b) (hr : v.find? a.target = some r) :
    ∀ r' ∈ a.revised? now r, r'.name ≠ b.target := by
  intro r' hr' heq
  rcases name_of_revised? hr hr' with hname | hname
  · exact h.targets (hname.symm.trans heq)
  · exact h.left.free _ hname (heq ▸ h.right.found)

/-- After an update, one that is independent of it comes to the same, except that it writes into the
vault that is there now. -/
theorem Independent.course_after (h : Independent v a b) {ra rb : Record}
    (ha : v.find? a.target = some ra) (hb : v.find? b.target = some rb) :
    b.call.course (deskAfter (a.call.course ⟨v, ids, .still now⟩)) =
      let w := match a.fault? with
        | some _ => v
        | none => a.written v (a.revised? now ra)
      match b.fault? with
        | some e => .error e ⟨w, ids, .still now⟩
        | none => .ok (.record ((b.revised? now rb).getD rb))
          ⟨b.written w (b.revised? now rb), ids, .still now⟩ := by
  have hnot : ∀ {name : String}, name ∈ v.names → name ∉ a.newName? :=
    fun hname hnew => h.left.free _ hnew hname
  rw [course_eq ha h.left.find?_new]
  cases a.fault? with
  | some e => exact course_eq hb h.right.find?_new
  | none =>
    refine course_eq ?_ ?_
    · rw [find?_written ha h.targets.symm (hnot h.right.found)]
      exact hb
    · intro new hnew
      -- The record that `a` asks for is there, so its name is not the one that `b` gives.
      have htarget : new ≠ a.target := by
        intro heq
        exact h.right.free new hnew (heq ▸ h.left.found)
      rw [find?_written ha htarget fun hnew' => h.newNames new hnew' hnew]
      exact h.right.find?_new new hnew

end Update

/-- **Updates of different records may be made in either order**, at one moment and in any vault:
each yields in both orders what it yields alone, and what is left on the desk at the end is the same,
the vault with all its records, their order, their logs and times and the count of changes. An update
yields a record exactly if the names and keys that it gives can be stored. -/
theorem updates_commute {v : Vault} {a b : Update} (h : Update.Independent v a b)
    (now : Timestamp) (ids : IdSource) :
    let d : Desk := ⟨v, ids, .still now⟩
    let second := b.call.course (deskAfter (a.call.course d))
    let second' := a.call.course (deskAfter (b.call.course d))
    answerOf second = answerOf (b.call.course d) ∧
    answerOf second' = answerOf (a.call.course d) ∧
    deskAfter second = deskAfter second' ∧
    ∀ u, u = a ∨ u = b → (u.IsStorable ↔ ∃ r, answerOf (u.call.course d) = .ok (.record r)) := by
  obtain ⟨ra, ha⟩ := h.left.exists_record
  obtain ⟨rb, hb⟩ := h.right.exists_record
  intro d second second'
  have hfirst : a.call.course d = _ := Update.course_eq ha h.left.find?_new
  have hfirst' : b.call.course d = _ := Update.course_eq hb h.right.find?_new
  have hsecond : second = _ := h.course_after ha hb
  have hsecond' : second' = _ := h.symm.course_after hb ha
  have hcomm : b.written (a.written v (a.revised? now ra)) (b.revised? now rb) =
      a.written (b.written v (b.revised? now rb)) (a.revised? now ra) :=
    Update.written_comm h.targets (h.name_ne ha) (h.symm.name_ne hb)
  rw [hsecond, hsecond']
  refine ⟨?_, ?_, ?_, ?_⟩
  · rw [hfirst']
    cases b.fault? <;> rfl
  · rw [hfirst]
    cases a.fault? <;> rfl
  · cases a.fault? with
    | some e => cases b.fault? <;> rfl
    | none =>
      cases b.fault? with
      | some e => rfl
      | none =>
        dsimp only [deskAfter]
        rw [hcomm]
  · intro u hu
    rw [← Update.fault?_eq_none_iff]
    rcases hu with rfl | rfl
    · rw [hfirst]
      cases u.fault? <;> simp [answerOf]
    · rw [hfirst']
      cases u.fault? <;> simp [answerOf]

/-- Two records are renamed, with a third one between them that stays where it is. -/
theorem updates_commute_renames :
    let record (name : String) (n : Nat) : Record :=
      ⟨name, ⟨BitVec.ofNat 128 n⟩, [⟨"pin", "17", true⟩], [], .utc n, .utc n⟩
    let v : Vault := ⟨[record "mail" 0, record "home" 1, record "bank" 2], [], 3⟩
    let ids : IdSource := ⟨fun n => ⟨BitVec.ofNat 128 n⟩, 3⟩
    let a : Update := .rename "mail" "post"
    let b : Update := .rename "bank" "safe"
    let d : Desk := ⟨v, ids, .still (.utc 5)⟩
    let second := b.call.course (deskAfter (a.call.course d))
    let second' := a.call.course (deskAfter (b.call.course d))
    Update.Independent v a b ∧ (deskAfter second).vault.names = ["post", "home", "safe"] ∧
      answerOf second = answerOf (b.call.course d) ∧
      answerOf second' = answerOf (a.call.course d) ∧ deskAfter second = deskAfter second' := by
  intro record v ids a b d second second'
  have hv : v.names = ["mail", "home", "bank"] := rfl
  have h : Update.Independent v a b := by
    refine ⟨⟨?_, ?_⟩, ⟨?_, ?_⟩, ?_, ?_⟩ <;> simp [hv, a, b, Update.target, Update.newName?]
  obtain ⟨hright, hleft, hdesk, -⟩ := updates_commute h (.utc 5) ids
  exact ⟨h, rfl, hright, hleft, hdesk⟩

end Coffer.Vault
