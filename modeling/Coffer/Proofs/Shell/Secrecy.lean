import Coffer.Proofs.Filter.Depth
import Coffer.Proofs.Session.Durability
import Coffer.Shell
import Mathlib.Data.List.Forall2

/-!
Listings and logs give no hidden value away. Two vaults are `Alike` if they differ at most in what is
to be hidden: in the values of sensitive fields, in kept values that were sensitive, and in sensitive
values of snapshots. A command is discreet (`Command.IsDiscreet`) if it does not ask for hidden
values and its filter looks at no field that is sensitive in a live record. Then the shell prints the
same lines for both vaults, and goes on in the same way: `Shell.handle_alike`.

Hiding takes a field or an entry to the same one as any that is alike (`Field.Alike.masked`,
`HistoryEntry.Alike.masked`); what is left is to show that filters and references find records that
are alike in places that are alike.
-/

namespace Coffer

/-! ### Alike -/

/-- Fields that differ at most in a sensitive value. -/
structure Field.Alike (f g : Field) : Prop where
  key : f.key = g.key
  sensitive : f.sensitive = g.sensitive
  value : f.sensitive = false → f.value = g.value

/-- Log entries that differ at most in a kept value that was sensitive, and in sensitive values of
their snapshots. Whether a value is kept at all is not hidden. -/
structure HistoryEntry.Alike (d e : HistoryEntry) : Prop where
  time : d.time = e.time
  kind : d.kind = e.kind
  fieldKey : d.fieldKey = e.fieldKey
  priorSensitive : d.priorSensitive = e.priorSensitive
  priorPresent : d.priorValue.isPresent = e.priorValue.isPresent
  priorValue : d.priorSensitive.isTruthy = false → d.priorValue = e.priorValue
  snapshot : List.Forall₂ Field.Alike d.snapshot e.snapshot

/-- Records whose fields and log entries are alike, one by one, and that are the same otherwise. -/
structure Record.Alike (r q : Record) : Prop where
  name : r.name = q.name
  id : r.id = q.id
  fields : List.Forall₂ Field.Alike r.fields q.fields
  history : List.Forall₂ HistoryEntry.Alike r.history q.history
  createdAt : r.createdAt = q.createdAt
  updatedAt : r.updatedAt = q.updatedAt

/-- Vaults whose records are alike, one by one, and that are the same otherwise. -/
structure Vault.Alike (v w : Vault) : Prop where
  records : List.Forall₂ Record.Alike v.records w.records
  tombstones : List.Forall₂ Record.Alike v.tombstones w.tombstones
  revision : v.revision = w.revision

section Pairs

variable {α β γ : Type} {R : α → β → Prop} {xs : List α} {ys : List β}

/-- What makes no difference between related members makes none between related lists. -/
theorem map_eq_of_forall₂ {f : α → γ} {g : β → γ} (h : List.Forall₂ R xs ys)
    (hfg : ∀ x y, R x y → f x = g y) : xs.map f = ys.map g := by
  induction h with
  | nil => rfl
  | @cons x y xs ys hxy _ ih => rw [List.map_cons, List.map_cons, hfg x y hxy, ih]

/-- In related lists the same place is found. -/
theorem find?_of_forall₂ {p : α → Bool} {q : β → Bool} (h : List.Forall₂ R xs ys)
    (hpq : ∀ x y, R x y → p x = q y) : Option.Rel R (xs.find? p) (ys.find? q) := by
  induction h with
  | nil => exact .none
  | @cons x y xs ys hxy _ ih =>
    rw [List.find?_cons, List.find?_cons, ← hpq x y hxy]
    cases p x with
    | true => exact .some hxy
    | false => exact ih

end Pairs

/-! ### Hiding -/

theorem Field.Alike.masked {f g : Field} (h : f.Alike g) : f.masked = g.masked := by
  obtain ⟨key, value, sensitive⟩ := f
  obtain ⟨key', value', sensitive'⟩ := g
  obtain ⟨hkey, hsensitive, hvalue⟩ := h
  dsimp only at hkey hsensitive hvalue
  subst hkey hsensitive
  cases sensitive with
  | true => rfl
  | false => rw [hvalue rfl]

theorem HistoryEntry.Alike.masked {d e : HistoryEntry} (h : d.Alike e) : d.masked = e.masked := by
  obtain ⟨time, kind, fieldKey, priorValue, priorSensitive, snapshot⟩ := d
  obtain ⟨time', kind', fieldKey', priorValue', priorSensitive', snapshot'⟩ := e
  obtain ⟨htime, hkind, hkey, hsensitive, hpresent, hvalue, hsnapshot⟩ := h
  dsimp only at htime hkind hkey hsensitive hpresent hvalue hsnapshot
  subst htime hkind hkey hsensitive
  have hfields := map_eq_of_forall₂ hsnapshot fun f g hfg => hfg.masked
  -- A value that was sensitive is hidden if there is one, and there is one on both sides or neither.
  have hprior : (if priorSensitive.isTruthy && priorValue.isPresent then Json.str mask
      else priorValue) = if priorSensitive.isTruthy && priorValue'.isPresent then Json.str mask
      else priorValue' := by
    cases htruthy : priorSensitive.isTruthy with
    | false => rw [hvalue htruthy]
    | true =>
      rw [← hpresent]
      cases priorValue <;> cases priorValue' <;> simp_all [Json.isPresent]
  simp only [HistoryEntry.masked, hfields, hprior]

theorem Record.Alike.recordLine {r q : Record} (h : r.Alike q) :
    Display.recordLine r.masked = Display.recordLine q.masked := by
  have hfields : r.masked.fields = q.masked.fields :=
    map_eq_of_forall₂ h.fields fun f g hfg => hfg.masked
  have hname : r.masked.name = q.masked.name := h.name
  rw [Display.recordLine, Display.recordLine, hfields, hname]

/-! ### Filters -/

namespace Formula

variable {α : Type}

/-- The truth of a formula hangs on the tests of its own atoms only. -/
theorem holds_congr {test test' : α → Bool} {f : Formula α}
    (h : ∀ a ∈ f.atoms, test a = test' a) : f.holds test = f.holds test' := by
  induction f with
  | atom a => exact h a (by simp [atoms])
  | and l r ihl ihr | or l r ihl ihr =>
    simp only [atoms, List.mem_append] at h
    have hl := ihl fun a ha => h a (.inl ha)
    have hr := ihr fun a ha => h a (.inr ha)
    simp only [holds, hl, hr]
  | group e ih => exact ih h

end Formula

def Filter.keys (f : Filter) : List String :=
  f.atoms.filterMap fun p =>
    match p.subject with
    | .name => none
    | .field key => some key

def Record.IsOpenAt (r : Record) (key : String) : Prop :=
  ∀ f ∈ r.fields, f.key = key → f.sensitive = false

theorem Record.Alike.predicate {r q : Record} (h : r.Alike q) {p : Predicate}
    (hopen : ∀ key, p.subject = .field key → r.IsOpenAt key) : p.holds r = p.holds q := by
  have hsubject : p.subject.of r = p.subject.of q := by
    cases hs : p.subject with
    | name => exact congrArg some h.name
    | field key =>
      have hfound := find?_of_forall₂ (p := (·.key == key)) (q := (·.key == key)) h.fields
        fun f g hfg => by rw [hfg.key]
      rw [Subject.of, Subject.of, Record.field?, Record.field?]
      cases hf : r.fields.find? (·.key == key) with
      | none =>
        rw [hf] at hfound
        generalize q.fields.find? (·.key == key) = found at hfound
        cases hfound
        rfl
      | some f =>
        have hvisible : f.sensitive = false :=
          hopen key hs f (List.mem_of_find?_eq_some hf) (by simpa using List.find?_some hf)
        rw [hf] at hfound
        generalize q.fields.find? (·.key == key) = found at hfound
        cases hfound with
        | some hfg => exact congrArg some (hfg.value hvisible)
  rw [Predicate.holds, Predicate.holds, hsubject]

theorem Record.Alike.filter? {r q : Record} (h : r.Alike q) {f : Filter}
    (hopen : ∀ key ∈ f.keys, r.IsOpenAt key) : f.holds? r = f.holds? q := by
  refine Formula.within_congr fun p hp => h.predicate fun key hkey => hopen key ?_
  exact List.mem_filterMap.mpr ⟨p, hp, by rw [hkey]⟩

theorem Record.Alike.filter {r q : Record} (h : r.Alike q) {f : Filter}
    (hopen : ∀ key ∈ f.keys, r.IsOpenAt key) : f.holds r = f.holds q := by
  refine Formula.holds_congr fun p hp => h.predicate fun key hkey => hopen key ?_
  exact List.mem_filterMap.mpr ⟨p, hp, by rw [hkey]⟩

theorem Display.records_masked {rs qs : List Record} (h : List.Forall₂ Record.Alike rs qs) :
    Display.records (rs.map Record.masked) = Display.records (qs.map Record.masked) := by
  have hlines : (rs.map Record.masked).map Display.recordLine =
      (qs.map Record.masked).map Display.recordLine := by
    rw [List.map_map, List.map_map]
    exact map_eq_of_forall₂ h fun r q hrq => hrq.recordLine
  have hempty : (rs.map Record.masked).isEmpty = (qs.map Record.masked).isEmpty := by
    cases h <;> rfl
  rw [Display.records, Display.records, hempty, hlines]

/-! ### Vaults -/

namespace Vault.Alike

variable {v w : Vault}

/-- Of records that are alike, a filter on what is not hidden leaves ones that are alike. -/
theorem reveal (h : v.Alike w) {filter : Option Filter}
    (hopen : ∀ f, filter = some f → ∀ key ∈ f.keys, ∀ r ∈ v.records, r.IsOpenAt key) :
    List.Forall₂ Record.Alike (v.reveal filter) (w.reveal filter) := by
  cases filter with
  | none => exact h.records
  | some f =>
    have hall : ∀ r ∈ v.records, ∀ key ∈ f.keys, r.IsOpenAt key :=
      fun r hr key hkey => hopen f rfl key hkey r hr
    have hboth := (List.forall₂_and_left v.records w.records).mpr ⟨hall, h.records⟩
    have hsame : ∀ r q, ((∀ key ∈ f.keys, r.IsOpenAt key) ∧ r.Alike q) →
        (f.holds r = true ↔ f.holds q = true) := by
      rintro r q ⟨hkeys, hrq⟩
      rw [hrq.filter hkeys]
    exact (List.rel_filter (fun r q hrq => hsame r q hrq) hboth).imp fun r q hrq => hrq.2

/-- What is found by such a filter is alike, or the filter is too deep for either vault. -/
theorem reveal? (h : v.Alike w) {filter : Option Filter}
    (hopen : ∀ f, filter = some f → ∀ key ∈ f.keys, ∀ r ∈ v.records, r.IsOpenAt key) :
    Option.Rel (List.Forall₂ Record.Alike) (v.reveal? filter) (w.reveal? filter) := by
  have hdeep : v.reveal? filter = none ↔ w.reveal? filter = none := by
    cases filter with
    | none => simp [Vault.reveal?]
    | some f =>
      have hall : ∀ r ∈ v.records, ∀ key ∈ f.keys, r.IsOpenAt key :=
        fun r hr key hkey => hopen f rfl key hkey r hr
      have hboth := (List.forall₂_and_left v.records w.records).mpr ⟨hall, h.records⟩
      have hsame : v.records.map f.holds? = w.records.map f.holds? :=
        map_eq_of_forall₂ hboth fun r q hrq => hrq.2.filter? hrq.1
      rw [Vault.reveal?, Vault.reveal?, Vault.sift_eq_none, Vault.sift_eq_none, hsame]
  have hfound := h.reveal hopen
  cases hv : v.reveal? filter with
  | none =>
    rw [hdeep.mp hv]
    exact .none
  | some found =>
    cases hw : w.reveal? filter with
    | none =>
      rw [hdeep.mpr hw] at hv
      cases hv
    | some found' =>
      rw [Vault.reveal_of_reveal? hv, Vault.reveal_of_reveal? hw] at hfound
      exact .some hfound

/-- A reference means records that are alike, or none in either vault. -/
theorem findAny (h : v.Alike w) (ref : String) :
    Option.Rel Record.Alike (v.findAny ref) (w.findAny ref) := by
  -- Names and ids are the same on either side, so each search ends at the same place in both lists.
  have hlive : Option.Rel Record.Alike (v.find? ref) (w.find? ref) :=
    find?_of_forall₂ h.records fun r q hrq => by rw [hrq.name]
  have hdeleted : Option.Rel Record.Alike (v.tombstones.reverse.find? (·.name == ref))
      (w.tombstones.reverse.find? (·.name == ref)) :=
    find?_of_forall₂ (List.rel_reverse h.tombstones) fun r q hrq => by rw [hrq.name]
  unfold Vault.findAny
  generalize v.find? ref = found at hlive
  generalize w.find? ref = found' at hlive
  cases hlive with
  | some hrq => exact .some hrq
  | none =>
    dsimp only
    generalize v.tombstones.reverse.find? (·.name == ref) = found at hdeleted
    generalize w.tombstones.reverse.find? (·.name == ref) = found' at hdeleted
    cases hdeleted with
    | some hrq => exact .some hrq
    | none =>
      cases Uuid.ofText? ref with
      | none => exact .none
      | some id =>
        exact find?_of_forall₂ (List.rel_append h.records h.tombstones)
          fun r q hrq => by rw [hrq.id]

/-- The log that is shown without asking for hidden values is the same. -/
theorem history (h : v.Alike w) (ref : String) : v.history ref false = w.history ref false := by
  have hfound := h.findAny ref
  unfold Vault.history
  generalize v.findAny ref = found at hfound
  generalize w.findAny ref = found' at hfound
  cases hfound with
  | none => rfl
  | some hrq =>
    exact congrArg Except.ok (map_eq_of_forall₂ hrq.history fun d e hde => hde.masked)

end Vault.Alike

/-! ### The shell -/

/-- Whether a command shows nothing that is to be hidden: it does not ask for it, and its filter, if
it has one, looks at no field that is sensitive in a live record. -/
def Command.IsDiscreet (v : Vault) : Command → Prop
  | .show filter reveal => reveal = false ∧
    ∀ f, filter = some f → ∀ key ∈ f.keys, ∀ r ∈ v.records, r.IsOpenAt key
  | .history _ reveal => reveal = false
  | _ => False

namespace Shell

/-- Whatever is to be hidden, the shell prints the same lines for a discreet command, and goes on in
the same way. -/
theorem handle_alike {sh sh' : Shell} {v w : Vault} {line : String} {c : Command}
    (hv : sh.session.vault = some v) (hw : sh'.session.vault = some w) (halike : v.Alike w)
    (hprinted : sh.output = sh'.output) (hparse : Command.parse line = .ok c)
    (hdiscreet : c.IsDiscreet v) :
    (sh.handle line).1 = (sh'.handle line).1 ∧
      (sh.handle line).2.output = (sh'.handle line).2.output := by
  unfold handle
  rw [hparse]
  dsimp only
  cases c with
  | «show» filter reveal =>
    obtain ⟨rfl, hopen⟩ := hdiscreet
    have hfound := halike.reveal? hopen
    simp only [Session.execute, hv, hw]
    generalize v.reveal? filter = found at hfound
    generalize w.reveal? filter = found' at hfound
    cases hfound with
    | none => exact ⟨rfl, hprinted⟩
    | some hrecords =>
      have hlines := Display.records_masked hrecords
      simp only [Bool.false_eq_true, if_false, present, next, print, after, hlines, hprinted,
        and_self]
  | history name reveal =>
    obtain rfl : reveal = false := hdiscreet
    have hentries := halike.history name
    simp only [Session.execute, hv, hw, hentries]
    cases w.history name false with
    | error e =>
      simp only [Session.refuse, after]
      cases isReported e <;> exact ⟨rfl, by simp [failure, next, crash, print, hprinted]⟩
    | ok entries =>
      simp only [present, after]
      cases hshown : Display.history name entries with
      | mk lines e =>
        cases e <;> exact ⟨rfl, by simp [next, crash, print, hprinted]⟩
  | set | delete | copy | rename | importFile => exact hdiscreet.elim

/-- A vault with a sensitive field that has been changed, and a deleted record with another one. -/
def mailAndBank (password former pin : String) : Vault where
  records := [{
    name := "mail", id := ⟨1⟩
    fields := [⟨"user", "me", false⟩, ⟨"pass", password, true⟩]
    history := [Vault.setEntry (.utc 0) ⟨"pass", former, true⟩]
    createdAt := .utc 0, updatedAt := .utc 0 }]
  tombstones := [{
    name := "bank", id := ⟨2⟩, fields := []
    history := [{ time := .utc 0, kind := .recordDeleted, snapshot := [⟨"pin", pin, true⟩] }]
    createdAt := .utc 0, updatedAt := .utc 0 }]
  revision := 4

theorem alike_mailAndBank (password former pin password' former' pin' : String) :
    (mailAndBank password former pin).Alike (mailAndBank password' former' pin') := by
  have hidden : ∀ key value value', Field.Alike ⟨key, value, true⟩ ⟨key, value', true⟩ :=
    fun _ _ _ => ⟨rfl, rfl, nofun⟩
  have hmail := HistoryEntry.Alike.mk (d := Vault.setEntry (.utc 0) ⟨"pass", former, true⟩)
    (e := Vault.setEntry (.utc 0) ⟨"pass", former', true⟩) rfl rfl rfl rfl rfl nofun .nil
  refine ⟨.cons ⟨rfl, rfl, .cons ⟨rfl, rfl, fun _ => rfl⟩ (.cons (hidden _ _ _) .nil),
    .cons hmail .nil, rfl, rfl⟩ .nil, .cons ⟨rfl, rfl, .nil, .cons ?_ .nil, rfl, rfl⟩ .nil, rfl⟩
  exact ⟨rfl, rfl, rfl, rfl, rfl, fun _ => rfl, .cons (hidden _ _ _) .nil⟩

def showing (v : Vault) : Shell where
  settings := {}
  base := ⟨⟨false, []⟩, ⟨false, []⟩⟩
  session := { path := ⟨false, ["vault"]⟩, params := {}, vault := some v }
  world := Session.State.blankWorld

/-- A listing by a visible field, the log of a live record and that of a deleted one are the same,
whatever the passwords and the number are. -/
theorem handle_alike_mailAndBank :
    let v := mailAndBank "hunter2" "hunter1" "0000"
    let w := mailAndBank "swordfish" "tuna" "1234"
    v ≠ w ∧ ∀ line ∈ ["show user contains 'm'", "history mail", "history bank"],
      ((showing v).handle line).2.output = ((showing w).handle line).2.output := by
  have hshow : Command.parse "show user contains 'm'" =
      .ok (.show (some (.atom ⟨.field "user", .contains "m"⟩)) false) :=
    eq_ok_of_toOption (by decide +kernel)
  have hmail : Command.parse "history mail" = .ok (.history "mail" false) :=
    eq_ok_of_toOption (by decide +kernel)
  have hbank : Command.parse "history bank" = .ok (.history "bank" false) :=
    eq_ok_of_toOption (by decide +kernel)
  intro v w
  have hv : (showing v).session.vault = some v := rfl
  have hw : (showing w).session.vault = some w := rfl
  have halike : v.Alike w := alike_mailAndBank _ _ _ _ _ _
  have hdiscreet : Command.IsDiscreet v
      (.show (some (.atom ⟨.field "user", .contains "m"⟩)) false) := by
    refine ⟨rfl, ?_⟩
    rintro f ⟨⟩ key hkey r hr g hg
    obtain rfl : key = "user" := by simpa [Filter.keys, Formula.atoms] using hkey
    obtain rfl := List.mem_singleton.mp hr
    revert hg
    revert g
    decide
  refine ⟨by decide, ?_⟩
  intro line hline
  simp only [List.mem_cons, List.not_mem_nil, or_false] at hline
  obtain rfl | rfl | rfl := hline
  · exact (handle_alike hv hw halike rfl hshow hdiscreet).2
  · exact (handle_alike hv hw halike rfl hmail rfl).2
  · exact (handle_alike hv hw halike rfl hbank rfl).2

end Shell

end Coffer
