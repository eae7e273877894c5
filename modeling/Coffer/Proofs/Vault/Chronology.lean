import Coffer.Proofs.Vault.Course
import Coffer.Proofs.Vault.WellFormed

/-!
The log of a record is in the order of time, as long as the clock never goes backwards.

A record is made, and its log written, at moments that the clock showed one after the other. What is
carried through a run is this: the times of every record are in order up to its last change
(`Record.IsInOrder`), and the clock has not shown anything later than what it will show next
(`Desk.IsTimely`). Operations look at the clock several times, and not all of them touch the record
they are about; a record that is touched has been in order up to the first look, and its log goes on
at that moment (`Turn.isTimely`).

Main statement: `run_isInOrder`.
-/

namespace Coffer

def Clock.Ascends (c : Clock) : Prop :=
  ∀ n, (c.reading n).instant ≤ (c.reading (n + 1)).instant

theorem Clock.Ascends.le {c : Clock} (h : c.Ascends) {m n : Nat} (hmn : m ≤ n) :
    (c.reading m).instant ≤ (c.reading n).instant := by
  induction hmn with
  | refl => exact Int.le_refl _
  | step _ ih => exact Int.le_trans ih (h _)

/-- The times of a record are in order up to a moment: first that of its creation, then those of the
entries of its log, one after the other, and at the end the moment itself. -/
structure Record.IsInOrder (r : Record) (t : Timestamp) : Prop where
  created : r.createdAt.instant ≤ t.instant
  entries : ∀ e ∈ r.history, r.createdAt.instant ≤ e.time.instant ∧ e.time.instant ≤ t.instant
  ordered : r.history.Pairwise fun e e' => e.time.instant ≤ e'.time.instant

/-- The times of a record are in order up to its last change, and that is not later than `t`. -/
structure Record.IsTimely (r : Record) (t : Timestamp) : Prop where
  order : r.IsInOrder r.updatedAt
  updated : r.updatedAt.instant ≤ t.instant

/-! ### Records -/

namespace Record.IsInOrder

variable {r : Record} {t t' now : Timestamp}

theorem mono (h : r.IsInOrder t) (ht : t.instant ≤ t'.instant) : r.IsInOrder t' where
  created := Int.le_trans h.created ht
  entries e he := ⟨(h.entries e he).1, Int.le_trans (h.entries e he).2 ht⟩
  ordered := h.ordered

theorem blank (name : String) (id : Uuid) (now : Timestamp) :
    (Record.blank name id now).IsInOrder now where
  created := Int.le_refl _
  entries := nofun
  ordered := .nil

theorem congr (h : r.IsInOrder t) (name : String) (fields : List Field) (updatedAt : Timestamp) :
    IsInOrder { r with name, fields, updatedAt } t :=
  ⟨h.created, h.entries, h.ordered⟩

theorem log (h : r.IsInOrder t) {e : HistoryEntry} (he : e.time = t) :
    IsInOrder { r with history := r.history ++ [e] } t where
  created := h.created
  entries := by
    subst he
    exact List.forall_mem_append.mpr
      ⟨h.entries, List.forall_mem_singleton.mpr ⟨h.created, Int.le_refl _⟩⟩
  ordered := by
    subst he
    refine List.pairwise_append.mpr ⟨h.ordered, List.pairwise_singleton .., fun e' he' _ hmem => ?_⟩
    rw [List.mem_singleton.mp hmem]
    exact (h.entries e' he').2

theorem storeFields (h : r.IsInOrder now) (fields : List Field) :
    (Vault.storeFields now r fields).IsInOrder now :=
  Vault.storeFields_induction now fields r (P := fun q => q.IsInOrder now)
    (fun q _ _ hq => hq.congr q.name _ q.updatedAt) (fun _ _ hq => hq.log rfl) h

theorem dropFields (h : r.IsInOrder now) (keys : List String) :
    (Vault.dropFields now r keys).IsInOrder now :=
  Vault.dropFields_induction now (P := fun q => q.IsInOrder now)
    (fun q _ _ hq => (hq.log rfl).congr q.name _ q.updatedAt) keys r h

theorem buried (h : r.IsInOrder now) : (Vault.buried now r).IsInOrder now :=
  (h.log rfl).congr r.name [] now

theorem renamed (h : r.IsInOrder now) (old new : String) :
    (Vault.renamed now old new r).IsInOrder now :=
  (h.log rfl).congr new r.fields now

/-- A record is touched at a later look at the clock than the one its log goes by. -/
theorem touchedAt (h : r.IsInOrder now) (ht : now.instant ≤ t.instant)
    (ht' : t.instant ≤ t'.instant) : (r.touchedAt t).IsTimely t' :=
  ⟨(h.mono ht).congr r.name r.fields t, ht'⟩

end Record.IsInOrder

namespace Record.IsTimely

variable {r : Record} {t t' : Timestamp}

theorem mono (h : r.IsTimely t) (ht : t.instant ≤ t'.instant) : r.IsTimely t' :=
  ⟨h.order, Int.le_trans h.updated ht⟩

theorem isInOrder (h : r.IsTimely t) : r.IsInOrder t :=
  h.order.mono h.updated

end Record.IsTimely

namespace Vault

/-! ### Turns -/

/-- The clock never goes backwards, and all records were in order when it came here. -/
structure Desk.IsTimely (d : Desk) : Prop where
  clock : d.clock.Ascends
  records : ∀ r ∈ d.vault.all, r.IsTimely (d.clock.reading 0)

variable {d d' : Desk} {c : Call}

/-- What a turn leaves is in order when the clock is looked at next. -/
theorem Turn.isTimely (h : Turn d c d') (hd : d.IsTimely) : d'.IsTimely := by
  have hshift : ∀ k, Clock.Ascends ⟨fun n => d.clock.reading (n + k)⟩ := by
    intro k n
    have hstep := hd.clock (n + k)
    rwa [Nat.add_right_comm] at hstep
  obtain ⟨hlive, hgone⟩ := List.forall_mem_append.mp hd.records
  -- A record that is found has been in order up to the first look at the clock.
  have hfound : ∀ {name r}, d.vault.find? name = some r → r.IsInOrder (d.clock.reading 0) :=
    fun hr => (hlive _ (List.mem_of_find?_eq_some hr)).isInOrder
  have hlive' : ∀ k, ∀ r ∈ d.vault.records, r.IsTimely (d.clock.reading k) :=
    fun k r hr => (hlive r hr).mono (hd.clock.le k.zero_le)
  have hgone' : ∀ k, ∀ r ∈ d.vault.tombstones, r.IsTimely (d.clock.reading k) :=
    fun k r hr => (hgone r hr).mono (hd.clock.le k.zero_le)
  cases h with
  | @created name fields hs hfree =>
    have hmade : ((Record.blank name d.ids.next.1 (d.clock.reading 0)).touchedAt
        (d.clock.reading 1)).IsInOrder (d.clock.reading 2) :=
      ((Record.IsInOrder.blank name _ _).congr name [] _).mono (hd.clock.le (by decide))
    refine ⟨hshift 4, List.forall_mem_append.mpr ⟨?_, hgone' 4⟩⟩
    refine List.forall_mem_append.mpr ⟨hlive' 4, List.forall_mem_singleton.mpr ?_⟩
    exact (hmade.storeFields fields).touchedAt (hd.clock 2) (hd.clock 3)
  | stored hs hr =>
    refine ⟨hshift 2, List.forall_mem_append.mpr ⟨forall_replace (hlive' 2) ?_, hgone' 2⟩⟩
    exact ((hfound hr).storeFields _).touchedAt (hd.clock 0) (hd.clock 1)
  | deleted hr =>
    refine ⟨hshift 2, List.forall_mem_append.mpr
      ⟨fun q hq => hlive' 2 q (List.mem_of_mem_filter hq), ?_⟩⟩
    refine List.forall_mem_append.mpr ⟨hgone' 2, List.forall_mem_singleton.mpr ?_⟩
    exact (hfound hr).buried.touchedAt (hd.clock 0) (hd.clock 1)
  | passed hr hkeys =>
    exact ⟨hshift 1, List.forall_mem_append.mpr ⟨hlive' 1, hgone' 1⟩⟩
  | dropped hr hkeys =>
    refine ⟨hshift 2, List.forall_mem_append.mpr ⟨forall_replace (hlive' 2) ?_, hgone' 2⟩⟩
    exact ((hfound hr).dropFields _).touchedAt (hd.clock 0) (hd.clock 1)
  | renamed hnew hr hfree =>
    refine ⟨hshift 2, List.forall_mem_append.mpr ⟨forall_replace (hlive' 2) ?_, hgone' 2⟩⟩
    exact ((hfound hr).renamed _ _).touchedAt (hd.clock 0) (hd.clock 1)

/-! ### Runs -/

def Desk.after (d : Desk) (ops : List Operation) : Desk :=
  ops.foldl (fun d op => deskAfter (op.course d)) d

theorem Desk.IsTimely.after (hd : d.IsTimely) (ops : List Operation) : (d.after ops).IsTimely := by
  induction ops generalizing d with
  | nil => exact hd
  | cons op ops ih =>
    exact ih (op.after_induction (fun _ _ _ h hturn => hturn.isTimely h) d hd)

/-- A call at one moment keeps records in order up to then. -/
theorem isTimely_perform {now : Timestamp} {v : Vault} (ids : IdSource) (c : Call)
    (hv : ∀ r ∈ v.all, r.IsTimely now) : ∀ r ∈ (perform now (v, ids) c).1.all, r.IsTimely now := by
  have hdesk : Desk.IsTimely ⟨v, ids, .still now⟩ := ⟨fun _ => Int.le_refl _, hv⟩
  have hafter := (Operation.call c).after_induction (fun _ _ _ h hturn => hturn.isTimely h) _ hdesk
  rw [deskAfter_still] at hafter
  exact hafter.records

theorem isInOrder_run : ∀ (calls : List (Timestamp × Call)) (st : Vault × IdSource),
    (calls.Pairwise fun c c' => c.1.instant ≤ c'.1.instant) →
    (∀ r ∈ st.1.all, r.IsInOrder r.updatedAt ∧ ∀ c ∈ calls, r.updatedAt.instant ≤ c.1.instant) →
    ∀ r ∈ (run st calls).1.all, r.IsInOrder r.updatedAt
  | [], st, _, h => fun r hr => (h r hr).1
  | c :: calls, st, hcalls, h => by
    obtain ⟨hfirst, hrest⟩ := List.pairwise_cons.mp hcalls
    refine isInOrder_run calls _ hrest fun r hr => ?_
    have htimely : r.IsTimely c.1 := by
      refine isTimely_perform st.2 c.2 (fun q hq => ?_) r hr
      exact ⟨(h q hq).1, (h q hq).2 c List.mem_cons_self⟩
    exact ⟨htimely.order, fun c' hc' => Int.le_trans htimely.updated (hfirst c' hc')⟩

/-- **Under a clock that never goes backwards, the log of every record is in the order of time.**
Whatever operations are carried out from an empty vault, failing ones included, the times of every
record, live or deleted, are in order: that of its creation, then those of its log, then that of its
last change. So it is also with calls that take one moment each. -/
theorem run_isInOrder (ids : IdSource) :
    (∀ clock : Clock, clock.Ascends → ∀ ops : List Operation,
      ∀ r ∈ (Desk.after ⟨.empty, ids, clock⟩ ops).vault.all, r.IsInOrder r.updatedAt) ∧
    ∀ calls : List (Timestamp × Call), (calls.Pairwise fun c c' => c.1.instant ≤ c'.1.instant) →
      ∀ r ∈ (run (.empty, ids) calls).1.all, r.IsInOrder r.updatedAt := by
  refine ⟨fun clock hclock ops r hr => ?_, fun calls hcalls => isInOrder_run calls _ hcalls nofun⟩
  have hd : Desk.IsTimely ⟨.empty, ids, clock⟩ := ⟨hclock, nofun⟩
  exact ((hd.after ops).records r hr).order

/-- A clock that ticks at every look: the record is made at the first, its log is written at the
fifth, the seventh and the ninth, and it is gone at the tenth. -/
theorem run_isInOrder_ticking :
    let ids : IdSource := ⟨fun n => ⟨BitVec.ofNat 128 n⟩, 0⟩
    let clock : Clock := ⟨fun n => .utc n⟩
    let ops : List Operation := [.call (.set "mail" [⟨"user", "me", false⟩]),
      .call (.set "mail" [⟨"user", "you", false⟩]), .call (.rename "mail" "post"),
      .call (.delete "mail"), .ask (.get "post" true), .call (.delete "post")]
    let calls : List (Timestamp × Call) :=
      [(.utc 0, .set "bank" []), (.utc 0, .rename "bank" "vault"), (.utc 5, .delete "vault")]
    let d := Desk.after ⟨.empty, ids, clock⟩ ops
    let v := (run (.empty, ids) calls).1
    clock.Ascends ∧ (calls.Pairwise fun c c' => c.1.instant ≤ c'.1.instant) ∧
      (d.vault.all.map fun r => (r.createdAt, r.history.map (·.time), r.updatedAt)) =
        [(.utc 0, [.utc 4, .utc 6, .utc 8], .utc 9)] ∧
      (∀ r ∈ d.vault.all, r.IsInOrder r.updatedAt) ∧ ∀ r ∈ v.all, r.IsInOrder r.updatedAt := by
  intro ids clock ops calls d v
  have hclock : clock.Ascends := by
    intro n
    show (n : Int) - 0 ≤ ((n + 1 : Nat) : Int) - 0
    omega
  have hcalls : calls.Pairwise fun c c' => c.1.instant ≤ c'.1.instant := by decide
  obtain ⟨htimed, hrun⟩ := run_isInOrder ids
  exact ⟨hclock, hcalls, by decide +kernel, htimed clock hclock ops, hrun calls hcalls⟩

end Vault

end Coffer
