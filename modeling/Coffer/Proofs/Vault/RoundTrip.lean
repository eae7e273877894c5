import Coffer.Proofs.Vault.Payload

/-!
Writing a vault and loading it are inverse to each other.

What is proved:
  1. `load_dump`: a regular vault is loaded from its written form as it was, records, fields, logs,
     deleted records and moments in their order. Only the count of changes starts again.
  2. `isRegular_of_load`: whatever value a vault is loaded from, the vault is regular.
  3. `isSound_run`: so is every vault that calls make from an empty one.

Both directions stand together in `load_inverts_dump`. The second one says that loading leaves
nothing to be put in order: ids and moments have many spellings, keys may be given twice, and names,
keys and values may be anything that can be shown as a text, but once loaded and written they are
loaded as what they are.
-/

namespace Coffer.Vault

structure IsRegular (v : Vault) : Prop where
  names : v.names.Nodup
  records : ∀ r ∈ v.records, r.IsRegular
  tombstones : ∀ r ∈ v.tombstones, r.IsRegular

variable {v : Vault}

theorem IsSound.isRegular (h : v.IsSound) : v.IsRegular :=
  ⟨h.names, fun r hr => (h.records r hr).isRegular, fun r hr => (h.tombstones r hr).isRegular⟩

theorem load_dump (h : v.IsRegular) : load v.dump = .ok { v with revision := 0 } :=
  load_of_members h.names h.records h.tombstones rfl rfl

/-- Names are compared and records are put in order while they are loaded, whatever they are loaded
from. -/
theorem isRegular_of_load {j : Json} (h : load j = .ok v) : v.IsRegular := by
  obtain ⟨list, items, deadList, deadItems, -, -, hrecords, -, -, htombstones, -⟩ := exists_of_load h
  obtain ⟨hlive, hnames⟩ := forall_of_addRecords []
    (fun w _ r hload => Record.isRegular_of_load hload) nofun List.nodup_nil hrecords
  refine ⟨hnames, hlive, fun r hr => ?_⟩
  obtain ⟨w, -, hload⟩ := exists_of_mapM_eq_ok htombstones r hr
  exact Record.isRegular_of_load hload

theorem revision_of_load {j : Json} (h : load j = .ok v) : v.revision = 0 := by
  obtain ⟨_, _, _, _, -, -, -, -, -, -, hrevision⟩ := exists_of_load h
  exact hrevision

/-- Calls at moments that can be written keep a vault sound. -/
theorem isSound_run (h : v.IsSound) (ids : IdSource) {calls : List (Timestamp × Call)}
    (hcalls : ∀ c ∈ calls, c.1.IsValid) : (run (v, ids) calls).1.IsSound := by
  induction calls generalizing v ids with
  | nil => exact h
  | cons c calls ih =>
    obtain ⟨hc, hcalls⟩ := List.forall_mem_cons.mp hcalls
    exact ih (isSound_perform hc (v, ids) h c.2) _ hcalls

/-- A vault that calls make from an empty one is loaded from its written form as it was, but for the
count of changes. A vault that is loaded, whatever it is loaded from, is loaded from its own written
form as it is, so that it is written as the same value again. -/
theorem load_inverts_dump :
    (∀ (ids : IdSource) (calls : List (Timestamp × Call)), (∀ c ∈ calls, c.1.IsValid) →
      let v := (run (.empty, ids) calls).1
      load v.dump = .ok { v with revision := 0 }) ∧
    ∀ (d : Json) (v : Vault), load d = .ok v → load v.dump = .ok v := by
  constructor
  · intro ids calls hcalls v
    have hsound : v.IsSound := isSound_run isSound_empty ids hcalls
    exact load_dump hsound.isRegular
  · intro d v h
    -- What is loaded has no changes counted yet, so not even the count is lost.
    have hrevision := revision_of_load h
    have hload := load_dump (isRegular_of_load h)
    rwa [← hrevision] at hload

/-- A vault as nobody would write it: a number for a name, an id in braces, a key that is given
twice, a value that is no text, and three spellings of moments. -/
def sloppy : Json :=
  .obj [("records", .arr [.obj [("name", .int 7),
    ("id", .str "\x7b00000000-0000-4000-8000-000000000001\x7d"),
    ("fields", .arr [
      .obj [("key", .str "user"), ("value", .null)],
      .obj [("key", .str "pin"), ("value", .int 1234), ("sensitive", .int 1)],
      .obj [("key", .str "user"), ("value", .bool true)]]),
    ("history", .arr [.obj [("timestamp", .str "2024-01-01"), ("kind", .str "field_set"),
      ("prior_value", .arr [])]]),
    ("created_at", .str "20240101T120000"), ("updated_at", .str "2024-01-01 12:00:00,5+01")]])]

/-- What it is loaded as. -/
def tidy : Vault :=
  ⟨[⟨"7", ⟨0x40008000000000000001⟩, [⟨"user", "True", false⟩, ⟨"pin", "1234", true⟩],
    [{ time := ⟨1704067200000000, none⟩, kind := .fieldSet, priorValue := .arr [] }],
    ⟨1704110400000000, none⟩, ⟨1704110400500000, some 3600000000⟩⟩], [], 0⟩

def variedCalls : List (Timestamp × Call) :=
  [(.utc 0, .set "mail" [⟨"user", "me", false⟩, ⟨"pin", "1234", true⟩]),
    (.utc 1, .set "mail" [⟨"pin", "4321", true⟩]), (.utc 2, .deleteFields "mail" ["user"]),
    (.utc 3, .importEntries [⟨1, ⟨"bank", [⟨"pin", "1", true⟩]⟩⟩]), (.utc 4, .delete "bank"),
    (.utc 5, .delete "bank"), (.utc 6, .rename "mail" "post")]

theorem load_inverts_dump_sloppy :
    let v := (run (.empty, ⟨fun n => ⟨BitVec.ofNat 128 n⟩, 0⟩) variedCalls).1
    (∀ c ∈ variedCalls, c.1.IsValid) ∧ v.names = ["post"] ∧
      load v.dump = .ok { v with revision := 0 } ∧
      load sloppy = .ok tidy ∧ load tidy.dump = .ok tidy := by
  intro v
  have hvalid : ∀ c ∈ variedCalls, c.1.IsValid := by
    simp only [variedCalls, List.forall_mem_cons]
    refine ⟨?_, ?_, ?_, ?_, ?_, ?_, ?_, nofun⟩ <;>
      exact Timestamp.isValid_utc (by decide) (by decide)
  have hload : load sloppy = .ok tidy := by decide +kernel
  exact ⟨hvalid, by decide, load_inverts_dump.1 _ variedCalls hvalid, hload,
    load_inverts_dump.2 sloppy tidy hload⟩

end Coffer.Vault
