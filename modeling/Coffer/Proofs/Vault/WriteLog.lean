import Mathlib.Data.List.Forall2
import Coffer.Proofs.Vault.Call

/-!
No value is lost from the log of a record.

A `Ledger` keeps, for every record there ever was, all writes to its fields in the order they were
made; it knows nothing of history entries. From the writes to a record one reads off, for each key,
the stints of the field: which value and sensitivity it held, from the write that stored the pair
until another pair, a removal or the deletion of the record took its place.

What is proved: after any calls from an empty vault, the stints of a key that were ended by another
pair or by a removal are, in order and one for one, the prior values in the log of the record; the
stint that still runs is the field; and the stint that the deletion of the record ended is what the
last entry of the log keeps of the field (`run_matches`).
-/

namespace Coffer

/-! ### Stints -/

structure Stint where
  value : String
  sensitive : Bool
deriving DecidableEq, Repr

def Field.stint (f : Field) : Stint :=
  ⟨f.value, f.sensitive⟩

def Stint.prior (s : Stint) : Json × Json :=
  (.str s.value, .bool s.sensitive)

inductive Touch where
  | written (f : Field)
  | removed (key : String)
  | buried
deriving DecidableEq, Repr

/-- The stints of one key: those ended by a write or a removal, in order, the one that runs, and the
one that ended with the record. -/
structure Stints where
  ended : List Stint := []
  running : Option Stint := none
  last : Option Stint := none
deriving DecidableEq, Repr

/-- The stints of a key after one more change. Writing the pair that is held already goes on with
the same stint. -/
def Stints.touch (k : String) (s : Stints) : Touch → Stints
  | .written f =>
    if f.key = k ∧ s.running ≠ some f.stint then
      { s with ended := s.ended ++ s.running.toList, running := some f.stint }
    else s
  | .removed key =>
    if key = k then { s with ended := s.ended ++ s.running.toList, running := none } else s
  | .buried => { s with running := none, last := s.running }

def stints (k : String) (log : List Touch) : Stints :=
  log.foldl (Stints.touch k) {}

theorem stints_concat (k : String) (log : List Touch) (t : Touch) :
    stints k (log ++ [t]) = (stints k log).touch k t := by
  simp [stints]

/-! ### The ledger -/

/-- The changes to the records: for each live one under its name, in the order of creation, and for
each deleted one in the order of deletion. -/
structure Ledger where
  live : List (String × List Touch) := []
  gone : List (List Touch) := []
deriving Repr

namespace Ledger

def isLive (l : Ledger) (name : String) : Bool :=
  l.live.any (·.1 = name)

/-- The ledger with changes noted under a name. -/
def note (l : Ledger) (name : String) (ts : List Touch) : Ledger :=
  { l with live := l.live.map fun e => if e.1 = name then (e.1, e.2 ++ ts) else e }

/-- Fields are written under a name if they may be stored; a name that is not live starts a record.
-/
def set (l : Ledger) (name : String) (fields : List Field) : Ledger :=
  if Vault.Storable name fields then
    if l.isLive name then l.note name (fields.map .written)
    else { l with live := l.live ++ [(name, fields.map .written)] }
  else l

def delete (l : Ledger) (name : String) : Ledger where
  live := l.live.filter (·.1 ≠ name)
  gone := l.gone ++ (l.live.filter (·.1 = name)).map fun e => e.2 ++ [.buried]

def rename (l : Ledger) (old new : String) : Ledger :=
  if new = "" ∨ l.isLive new then l
  else { l with live := l.live.map fun e => if e.1 = old then (new, e.2) else e }

def perform (l : Ledger) : Vault.Call → Ledger
  | .set name fields => l.set name fields
  | .delete name => l.delete name
  | .deleteFields name keys => l.note name (keys.map .removed)
  | .rename old new => l.rename old new
  | .importEntries entries => entries.foldl (fun l e => l.set e.spec.name e.spec.fields) l

def run (calls : List Vault.Call) : Ledger :=
  calls.foldl perform {}

end Ledger

/-! ### Prior values -/

def HistoryEntry.isChangeOf (k : String) (e : HistoryEntry) : Bool :=
  (e.kind = .fieldSet ∨ e.kind = .fieldDeleted) ∧ e.fieldKey = .str k

def Record.priors (r : Record) (k : String) : List (Json × Json) :=
  (r.history.filter (·.isChangeOf k)).map fun e => (e.priorValue, e.priorSensitive)

theorem isChangeOf_of_kind {e : HistoryEntry}
    (h : e.kind = .recordDeleted ∨ e.kind = .recordRenamed) (k : String) :
    e.isChangeOf k = false := by
  rcases h with h | h <;> simp [HistoryEntry.isChangeOf, h]

theorem Record.priors_concat {r r' : Record} {e : HistoryEntry}
    (h : r'.history = r.history ++ [e]) (k : String) :
    r'.priors k = r.priors k ++
      if e.isChangeOf k then [(e.priorValue, e.priorSensitive)] else [] := by
  rw [priors, h, List.filter_append, List.map_append]
  by_cases he : e.isChangeOf k = true
  · simp [priors, he]
  · simp [priors, he]

theorem isChangeOf_setEntry (now : Timestamp) (f : Field) (k : String) :
    (Vault.setEntry now f).isChangeOf k = decide (f.key = k) := by
  simp [HistoryEntry.isChangeOf, Vault.setEntry]

theorem isChangeOf_deleteEntry (now : Timestamp) (f : Field) (k : String) :
    (Vault.deleteEntry now f).isChangeOf k = decide (f.key = k) := by
  simp [HistoryEntry.isChangeOf, Vault.deleteEntry]

/-! ### A live record and its changes -/

/-- The log of a live record keeps every stint that ended, and its fields are those that run. -/
structure Tracks (r : Record) (log : List Touch) : Prop where
  distinct : (fieldKeys r.fields).Nodup
  ended : ∀ k, r.priors k = (stints k log).ended.map Stint.prior
  running : ∀ k, (findField k r.fields).map Field.stint = (stints k log).running

namespace Tracks

variable {now : Timestamp} {r r' : Record} {log : List Touch} {f previous : Field} {key : String}

theorem blank (name : String) (id : Uuid) (now : Timestamp) : Tracks (.blank name id now) [] :=
  ⟨by simp [Record.blank, fieldKeys], fun _ => rfl, fun _ => rfl⟩

theorem congr (h : Tracks r log) (hf : r'.fields = r.fields)
    (hp : ∀ k, r'.priors k = r.priors k) : Tracks r' log := by
  refine ⟨?_, fun k => ?_, fun k => ?_⟩
  · rw [hf]; exact h.distinct
  · rw [hp]; exact h.ended k
  · rw [hf]; exact h.running k

theorem running_eq (h : Tracks r log) (hf : findField key r.fields = some previous) :
    (stints key log).running = some previous.stint := by
  rw [← h.running key, hf]; rfl

theorem store_new (h : Tracks r log) (hf : findField f.key r.fields = none) :
    Tracks { r with fields := storeField f r.fields } (log ++ [.written f]) := by
  have hidle : (stints f.key log).running = none := by rw [← h.running, hf]; rfl
  refine ⟨nodup_storeField h.distinct, fun k => (h.ended k).trans ?_, fun k => ?_⟩
  · rw [stints_concat, Stints.touch]
    by_cases hk : f.key = k
    · subst hk
      simp [hidle]
    · simp [hk]
  · rw [stints_concat, Stints.touch]
    by_cases hk : f.key = k
    · subst hk
      simp [findField_storeField, hidle]
    · simpa [findField_storeField, hk] using h.running k

/-- A field that stays the same: its stint goes on. -/
theorem store_same (h : Tracks r log) (hf : findField f.key r.fields = some f) :
    Tracks r (log ++ [.written f]) := by
  have hrun := h.running_eq hf
  have hsame : ∀ k, stints k (log ++ [.written f]) = stints k log := by
    intro k
    rw [stints_concat, Stints.touch]
    by_cases hk : f.key = k
    · subst hk
      simp [hrun]
    · simp [hk]
  refine ⟨h.distinct, fun k => ?_, fun k => ?_⟩
  · rw [hsame]; exact h.ended k
  · rw [hsame]; exact h.running k

theorem store_changed (h : Tracks r log) (hf : findField f.key r.fields = some previous)
    (hne : previous ≠ f) :
    Tracks { r with
      fields := storeField f r.fields
      history := r.history ++ [Vault.setEntry now previous] } (log ++ [.written f]) := by
  have hkey := key_of_findField hf
  have hrun := h.running_eq hf
  have hstint : previous.stint ≠ f.stint := by
    intro he
    obtain ⟨pk, pv, ps⟩ := previous
    obtain ⟨fk, fv, fs⟩ := f
    simp only [Field.stint, Stint.mk.injEq] at he
    exact hne (by rw [Field.mk.injEq]; exact ⟨hkey, he⟩)
  -- What has ended is the stint that was running before; no other key is touched.
  refine ⟨nodup_storeField h.distinct, fun k => ?_, fun k => ?_⟩
  · rw [stints_concat, Stints.touch, Record.priors_concat rfl, isChangeOf_setEntry, hkey, h.ended]
    by_cases hk : f.key = k
    · subst hk
      have hends : f.key = f.key ∧ (stints f.key log).running ≠ some f.stint :=
        ⟨rfl, by rw [hrun]; simpa using hstint⟩
      rw [if_pos hends, hrun]
      simp [Vault.setEntry, Stint.prior, Field.stint]
    · simp [hk]
  · rw [stints_concat, Stints.touch, findField_storeField]
    by_cases hk : f.key = k
    · subst hk
      simp [hrun, hstint]
    · simpa [hk] using h.running k

theorem storeFields : ∀ (fs : List Field) {r : Record} {log : List Touch}, Tracks r log →
    Tracks (Vault.storeFields now r fs) (log ++ fs.map .written)
  | [], _, _, h => by simpa [Vault.storeFields] using h
  | f :: fs, r, log, h => by
    rw [List.map_cons, List.append_cons, Vault.storeFields, Record.field?_eq]
    cases hf : findField f.key r.fields with
    | none => exact storeFields fs (h.store_new hf)
    | some previous =>
      by_cases hp : previous = f
      · subst hp
        simpa using storeFields fs (h.store_same hf)
      · simpa [hp] using storeFields fs (h.store_changed hf hp)

theorem drop_missing (h : Tracks r log) (hf : findField key r.fields = none) :
    Tracks r (log ++ [.removed key]) := by
  have hidle : (stints key log).running = none := by rw [← h.running, hf]; rfl
  have hsame : ∀ k, stints k (log ++ [.removed key]) = stints k log := by
    intro k
    rw [stints_concat, Stints.touch]
    by_cases hk : key = k
    · subst hk
      rw [if_pos rfl, hidle, Option.toList_none, List.append_nil, ← hidle]
    · rw [if_neg hk]
  refine ⟨h.distinct, fun k => ?_, fun k => ?_⟩
  · rw [hsame]; exact h.ended k
  · rw [hsame]; exact h.running k

/-- A field that goes: its stint ends and goes into the log. -/
theorem drop_held (h : Tracks r log) (hf : findField key r.fields = some previous) :
    Tracks { r with
      fields := r.fields.filter (·.key ≠ key)
      history := r.history ++ [Vault.deleteEntry now previous] } (log ++ [.removed key]) := by
  have hkey := key_of_findField hf
  have hrun := h.running_eq hf
  refine ⟨nodup_filter h.distinct _, fun k => ?_, fun k => ?_⟩
  · rw [stints_concat, Stints.touch, Record.priors_concat rfl, isChangeOf_deleteEntry, hkey, h.ended]
    by_cases hk : key = k
    · subst hk
      simp [hrun, Vault.deleteEntry, Stint.prior, Field.stint]
    · simp [hk]
  · rw [stints_concat, Stints.touch, findField_filter]
    by_cases hk : key = k
    · simp [hk]
    · simpa [hk] using h.running k

theorem dropFields : ∀ (keys : List String) {r : Record} {log : List Touch}, Tracks r log →
    Tracks (Vault.dropFields now r keys) (log ++ keys.map .removed)
  | [], _, _, h => by simpa [Vault.dropFields] using h
  | key :: keys, r, log, h => by
    rw [List.map_cons, List.append_cons, Vault.dropFields, Record.field?_eq]
    cases hf : findField key r.fields with
    | none => exact dropFields keys (h.drop_missing hf)
    | some previous => exact dropFields keys (h.drop_held hf)

theorem drop_none (h : Tracks r log) : ∀ keys : List String, (∀ k ∈ keys, k ∉ fieldKeys r.fields) →
    Tracks r (log ++ keys.map .removed) := by
  intro keys hkeys
  induction keys generalizing log with
  | nil => simpa using h
  | cons key keys ih =>
    rw [List.map_cons, List.append_cons]
    have hmissing := findField_eq_none_iff.mpr (hkeys key List.mem_cons_self)
    exact ih (h.drop_missing hmissing) fun k hk => hkeys k (List.mem_cons_of_mem key hk)

end Tracks

/-! ### A deleted record and its changes -/

/-- A live record keeps every stint that ended, and each of its fields is the stint that runs. -/
structure Record.Matches (r : Record) (log : List Touch) : Prop where
  ended : ∀ k, r.priors k = (stints k log).ended.map Stint.prior
  running : ∀ k, (r.fields.filter (·.key = k)).map Field.stint = (stints k log).running.toList

/-- A deleted record keeps every stint that ended before it did, and the snapshot in the last entry
of its log is made of the stints that ended with it. -/
structure Record.Closes (r : Record) (log : List Touch) : Prop where
  ended : ∀ k, r.priors k = (stints k log).ended.map Stint.prior
  last : ∃ before e, r.history = before ++ [e] ∧ e.kind = .recordDeleted ∧
    ∀ k, (e.snapshot.filter (·.key = k)).map Field.stint = (stints k log).last.toList

theorem Tracks.matches {r : Record} {log : List Touch} (h : Tracks r log) : r.Matches log := by
  refine ⟨h.ended, fun k => ?_⟩
  rw [filter_key_eq h.distinct, ← h.running k]
  cases findField k r.fields <;> rfl

/-- Burying a record ends all its stints at once. -/
theorem Tracks.buried {now : Timestamp} {r : Record} {log : List Touch} (h : Tracks r log) :
    (Vault.buried now r).Closes (log ++ [.buried]) := by
  refine ⟨fun k => ?_, r.history, _, rfl, rfl, fun k => ?_⟩
  · rw [stints_concat, Record.priors_concat (r := r) rfl, isChangeOf_of_kind (.inl rfl)]
    simpa [Stints.touch] using h.ended k
  · rw [stints_concat]
    exact h.matches.running k

/-- A new name is noted in the log, but ends no stint. -/
theorem Tracks.renamed {now : Timestamp} {old new : String} {r : Record} {log : List Touch}
    (h : Tracks r log) : Tracks (Vault.renamed now old new r) log := by
  refine h.congr rfl fun k => ?_
  rw [Record.priors_concat (r := r) rfl, isChangeOf_of_kind (.inr rfl)]
  simp

namespace Vault

/-! ### The vault and the ledger -/

section Pairs

variable {α β : Type} {R S : α → β → Prop} {xs : List α} {ys : List β}

/-- Lists that are mapped side by side stay related, if related members go to related values. -/
theorem forall₂_map {f : α → α} {g : β → β} (h : List.Forall₂ R xs ys)
    (hfg : ∀ x ∈ xs, ∀ y, R x y → S (f x) (g y)) :
    List.Forall₂ S (xs.map f) (ys.map g) := by
  induction h with
  | nil => exact .nil
  | @cons x y xs ys hxy _ ih =>
    refine .cons (hfg x List.mem_cons_self y hxy) (ih fun z hz => ?_)
    exact hfg z (List.mem_cons_of_mem x hz)

end Pairs

/-- A record and the changes noted under its name. -/
def Paired (r : Record) (e : String × List Touch) : Prop :=
  r.name = e.1 ∧ Tracks r e.2

structure Sim (v : Vault) (l : Ledger) : Prop where
  names : v.names.Nodup
  live : List.Forall₂ Paired v.records l.live
  gone : List.Forall₂ Record.Closes v.tombstones l.gone

theorem Sim.empty : Sim .empty {} :=
  ⟨by simp [Vault.names, Vault.empty], .nil, .nil⟩

namespace Sim

variable {now : Timestamp} {v : Vault} {l : Ledger} {name old new : String} {r : Record}
  {fields : List Field} {keys : List String}

theorem isLive_eq (h : Sim v l) (name : String) : l.isLive name = (v.find? name).isSome := by
  have hlive := h.live
  rw [Vault.find?, Ledger.isLive]
  generalize v.records = rs, l.live = es at hlive
  clear h
  induction hlive with
  | nil => rfl
  | @cons r e rs es hre _ ih =>
    rw [List.any_cons, List.find?_cons, ih, ← hre.1]
    by_cases hn : r.name = name
    · simp [hn]
    · have hne : (r.name == name) = false := by simpa using hn
      simp [hn, hne]

theorem not_live (h : Sim v l) (hr : v.find? name = none) : ∀ e ∈ l.live, e.1 ≠ name := by
  have hnone := h.isLive_eq name
  rw [hr] at hnone
  simpa [Ledger.isLive] using hnone

theorem eq_of_name (h : Sim v l) (hr : v.find? name = some r) {q : Record} (hq : q ∈ v.records)
    (hn : q.name = name) : q = r :=
  eq_of_find?_of_nodup h.names hr hq hn

/-- A record changed in place, and the changes noted under its name. -/
theorem note (h : Sim v l) {r' : Record} {ts : List Touch} (hr : v.find? name = some r)
    (hname : r'.name = name) (hts : ∀ log, Tracks r log → Tracks r' (log ++ ts)) :
    Sim (v.replace name r').touched (l.note name ts) := by
  refine ⟨nodup_replace h.names (.inl hname), ?_, h.gone⟩
  refine forall₂_map h.live fun q hq e hqe => ?_
  by_cases hn : q.name = name
  · have he : e.1 = name := by rw [← hqe.1, hn]
    rw [if_pos hn, if_pos he]
    refine ⟨by rw [hname, he], hts e.2 ?_⟩
    rw [← h.eq_of_name hr hq hn]
    exact hqe.2
  · have he : e.1 ≠ name := by rw [← hqe.1]; exact hn
    rw [if_neg hn, if_neg he]
    exact hqe

theorem note_idle (h : Sim v l) {ts : List Touch}
    (hts : ∀ r, v.find? name = some r → ∀ log, Tracks r log → Tracks r (log ++ ts)) :
    Sim v (l.note name ts) := by
  refine ⟨h.names, ?_, h.gone⟩
  rw [← List.map_id v.records]
  refine forall₂_map h.live fun q hq e hqe => ?_
  by_cases he : e.1 = name
  · rw [if_pos he]
    have hqn : q.name = name := hqe.1.trans he
    cases hr : v.find? name with
    | none => exact absurd (List.mem_map.mpr ⟨q, hq, hqn⟩) (find?_eq_none_iff.mp hr)
    | some r =>
      obtain rfl := h.eq_of_name hr hq hqn
      exact ⟨hqe.1, hts _ hr e.2 hqe.2⟩
  · rw [if_neg he]
    exact hqe

theorem step {c : Call} {v' : Vault} (h : Sim v l) (hs : Step now v c v') :
    Sim v' (l.perform c) := by
  have hnames := hs.nodup_names h.names
  cases hs with
  | @created name fields id hok hfree =>
    have hnew : l.isLive name = false := by rw [h.isLive_eq, hfree]; rfl
    simp only [Ledger.perform, Ledger.set, if_pos hok, hnew]
    refine ⟨hnames, ?_, h.gone⟩
    refine List.rel_append h.live (.cons ⟨?_, ?_⟩ .nil)
    · rw [storeFields_name]; rfl
    · exact (Tracks.blank name id now).storeFields fields
  | @stored name fields r hok hr =>
    have hold : l.isLive name = true := by rw [h.isLive_eq, hr]; rfl
    simp only [Ledger.perform, Ledger.set, if_pos hok, hold]
    refine h.note hr ?_ fun log ht => (ht.storeFields fields).congr rfl fun _ => rfl
    exact (storeFields_name now fields r).trans (name_of_find? hr)
  | @deleted name r hr =>
    refine ⟨hnames, List.rel_filter ?_ h.live, List.rel_append h.gone ?_⟩
    · rintro q e ⟨hqe, -⟩
      simp [hqe]
    · -- Names are distinct, so what goes from either side is one pair.
      have hone : v.records.filter (fun q => q.name = name) = [r] := by
        rw [filter_eq_find?_of_nodup h.names]
        rw [Vault.find?] at hr
        rw [hr]; rfl
      have hpair : List.Forall₂ Paired [r] (l.live.filter (·.1 = name)) := by
        rw [← hone]
        refine List.rel_filter ?_ h.live
        rintro q e ⟨hqe, -⟩
        simp [hqe]
      obtain ⟨e, es, hre, hnil, hes⟩ := List.forall₂_cons_left_iff.mp hpair
      obtain rfl := List.forall₂_nil_left_iff.mp hnil
      rw [hes]
      exact .cons hre.2.buried .nil
  | @dropped name keys r hr _ =>
    refine h.note hr ?_ fun log ht => (ht.dropFields keys).congr rfl fun _ => rfl
    exact (dropFields_name now keys r).trans (name_of_find? hr)
  | @renamed old new r hne hr hfree =>
    have hnew : l.isLive new = false := by rw [h.isLive_eq, hfree]; rfl
    have hgo : ¬(new = "" ∨ l.isLive new = true) := by simp [hne, hnew]
    simp only [Ledger.perform, Ledger.rename, if_neg hgo]
    refine ⟨hnames, forall₂_map h.live fun q hq e hqe => ?_, h.gone⟩
    -- A pair is renamed on both sides or on neither, since it has one name.
    by_cases hn : q.name = old
    · have he : e.1 = old := by rw [← hqe.1, hn]
      rw [if_pos hn, if_pos he]
      refine ⟨rfl, ?_⟩
      rw [← h.eq_of_name hr hq hn]
      exact hqe.2.renamed
    · have he : e.1 ≠ old := by rw [← hqe.1]; exact hn
      rw [if_neg hn, if_neg he]
      exact hqe

theorem idle {c : Call} (h : Sim v l) (hi : Idle v c) : Sim v (l.perform c) := by
  cases hi with
  | set hno => simpa only [Ledger.perform, Ledger.set, if_neg hno] using h
  | @delete name hr =>
    have hdead := h.not_live hr
    have hkeep : l.live.filter (·.1 ≠ name) = l.live :=
      List.filter_eq_self.mpr fun e he => by simpa using hdead e he
    have hnone : l.live.filter (·.1 = name) = [] :=
      List.filter_eq_nil_iff.mpr fun e he => by simpa using hdead e he
    simp only [Ledger.perform, Ledger.delete, hkeep, hnone, List.map_nil, List.append_nil]
    exact h
  | @deleteFields name keys hmiss =>
    exact h.note_idle fun r hr log ht => ht.drop_none keys (hmiss r hr)
  | @rename old new hwhy =>
    by_cases hstop : new = "" ∨ l.isLive new = true
    · simpa only [Ledger.perform, Ledger.rename, if_pos hstop] using h
    · obtain ⟨hne, hnew⟩ := not_or.mp hstop
      -- The ledger would rename what has the old name, but nothing has.
      have hold : v.find? old = none := by
        rcases hwhy with hwhy | hwhy | hwhy
        · exact absurd hwhy hne
        · exact hwhy
        · rw [h.isLive_eq, Option.isSome_iff_ne_none] at hnew
          exact absurd hwhy hnew
      have hkeep : (l.live.map fun e => if e.1 = old then (new, e.2) else e) = l.live := by
        refine (List.map_congr_left fun e he => ?_).trans (List.map_id _)
        rw [if_neg (h.not_live hold e he), id_eq]
      simp only [Ledger.perform, Ledger.rename, if_neg hstop, hkeep]
      exact h

/-- A call that is no import is matched by the ledger. -/
theorem perform_single {ids : IdSource} {c : Call} (h : Sim v l) (hc : c.isImport = false) :
    Sim (Vault.perform now (v, ids) c).1 (l.perform c) := by
  rcases perform_cases now (v, ids) hc with ⟨hi, hsame⟩ | hs
  · rw [hsame]
    exact h.idle hi
  · exact h.step hs

/-- Every call is matched by the ledger, an import entry by entry. -/
theorem perform {ids : IdSource} {c : Call} (h : Sim v l) :
    Sim (Vault.perform now (v, ids) c).1 (l.perform c) := by
  obtain hc | ⟨entries, rfl⟩ := c.isImport_cases
  · exact h.perform_single hc
  · rw [Vault.perform, importEntries_eq_foldl, Ledger.perform]
    induction entries generalizing v ids l with
    | nil => exact h
    | cons e entries ih =>
      rw [List.foldl_cons, List.foldl_cons]
      exact ih (h.perform_single (c := .set e.spec.name e.spec.fields) rfl)

theorem run : ∀ (st : Vault × IdSource) (calls : List (Timestamp × Call)), Sim st.1 l →
    Sim (Vault.run st calls).1 ((calls.map Prod.snd).foldl Ledger.perform l) := by
  intro st calls h
  induction calls generalizing st l with
  | nil => exact h
  | cons c calls ih =>
    rw [List.map_cons, List.foldl_cons, Vault.run, List.foldl_cons]
    exact ih _ h.perform

end Sim

/-- After any calls from an empty vault, failing ones included, live records match the writes to
them and deleted ones close theirs: no value that a field ever held is missing from the log, and
none is in it that the field did not hold. -/
theorem run_matches (ids : IdSource) (calls : List (Timestamp × Call)) :
    let v := (run (.empty, ids) calls).1
    let l := Ledger.run (calls.map Prod.snd)
    List.Forall₂ (fun r e => r.name = e.1 ∧ r.Matches e.2) v.records l.live ∧
      List.Forall₂ Record.Closes v.tombstones l.gone := by
  have h : Sim (run (.empty, ids) calls).1 (Ledger.run (calls.map Prod.snd)) :=
    Sim.run (.empty, ids) calls Sim.empty
  exact ⟨h.live.imp fun _ _ hre => ⟨hre.1, hre.2.matches⟩, h.gone⟩

end Vault

end Coffer
