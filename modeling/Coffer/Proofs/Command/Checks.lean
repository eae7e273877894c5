import Coffer.Proofs.Record.RoundTrip
import Coffer.Proofs.Vault.Import

/-!
What is checked of a command before a vault sees it. Names and keys are checked twice: by the reader
of commands, which complains about the place in the line, and by the vault. A command that has been
read passes the vault's checks (`Command.isChecked_of_parse`), and so does whatever an import has
read, which leaves it with the complaints of its reader (`Vault.isComplaint_of_importLines`).
-/

namespace Coffer

namespace Command

open RecordSpec (takeName_yields takeFields_yields)

variable {c : Command} {ts : List Token}

/-- What a command has a vault store may be stored, and a new name is not empty. -/
def IsChecked : Command → Prop
  | .set spec => Vault.Storable spec.name spec.fields
  | .rename _ new => new ≠ ""
  | _ => True

theorem isChecked_of_listing {reveal : Bool} (h : listing reveal ts = .ok c) : c.IsChecked := by
  unfold listing at h
  dsimp only at h
  split at h
  · cases h
  split at h
  · obtain ⟨name, -, h⟩ := of_bind_eq_ok h
    obtain ⟨_, -, h⟩ := of_bind_eq_ok h
    cases h
    trivial
  split at h
  · split at h <;> cases h <;> trivial
  · obtain ⟨f, -, h⟩ := of_bind_eq_ok h
    cases h
    trivial

theorem isChecked_of_arguments {word : Word} (h : arguments word ts = .ok c) : c.IsChecked := by
  cases word with
  | set =>
    obtain ⟨⟨name, rest⟩, hname, h⟩ := of_bind_eq_ok h
    obtain ⟨fs, hfs, h⟩ := of_bind_eq_ok h
    cases h
    obtain ⟨-, -, hne⟩ := (takeName_yields _ _).of_ok hname
    obtain ⟨hkeys, hnodup⟩ := (takeFields_yields _ _ _).of_ok hfs
    exact Vault.storable_of_keys hne (fun f hf => (hkeys f hf).1) hnodup
  | rename =>
    obtain ⟨⟨old, rest⟩, -, h⟩ := of_bind_eq_ok h
    obtain ⟨⟨new, rest'⟩, hnew, h⟩ := of_bind_eq_ok h
    obtain ⟨_, -, h⟩ := of_bind_eq_ok h
    cases h
    exact ((takeName_yields _ _).of_ok hnew).2.2
  | «show» | reveal => exact isChecked_of_listing h
  -- Whatever is left asks nothing of its names: it does not store any.
  | delete =>
    obtain ⟨⟨name, rest⟩, -, h⟩ := of_bind_eq_ok h
    obtain ⟨keys, -, h⟩ := of_bind_eq_ok h
    cases h
    trivial
  | history | importFile =>
    obtain ⟨⟨name, rest⟩, -, h⟩ := of_bind_eq_ok h
    obtain ⟨_, -, h⟩ := of_bind_eq_ok h
    cases h
    trivial
  | copy =>
    obtain ⟨⟨name, rest⟩, -, h⟩ := of_bind_eq_ok h
    obtain ⟨⟨key, rest'⟩, -, h⟩ := of_bind_eq_ok h
    obtain ⟨_, -, h⟩ := of_bind_eq_ok h
    cases h
    trivial

/-- A command that has been read passes the checks of a vault. -/
theorem isChecked_of_parse {line : String} (h : parse line = .ok c) : c.IsChecked := by
  rw [parse] at h
  split at h
  case h_2 => cases h
  unfold ofTokens at h
  dsimp only at h
  split at h
  · cases h
  split at h
  · cases h
  · exact isChecked_of_arguments h

end Command

/-! ### Imports -/

/-- The line could not be read, and there is a complaint about its text or a token. -/
def ImportFault.IsComplaint : ImportFault → Prop
  | .unreadable e => e.IsComplaint
  | .rejected _ => False

namespace Vault

theorem Sorts.isComplaint {n : Nat} {lines : List String} {entries : List ImportEntry}
    {failures : List ImportFailure} (h : Sorts n lines entries failures) :
    ∀ f ∈ failures, f.fault.IsComplaint := by
  induction h with
  | nil => exact nofun
  | blank _ _ ih | entry _ _ _ ih => exact ih
  | failure _ hparse _ ih =>
    exact List.forall_mem_cons.mpr ⟨(RecordSpec.parse_yields _).of_error hparse, ih⟩

/-- Whatever fails of an import, fails to be read. -/
theorem isComplaint_of_importLines (now : Timestamp) (v : Vault) (ids : IdSource)
    (lines : List String) :
    ∀ f ∈ (v.importLines now ids lines).1.failures, f.fault.IsComplaint := by
  have hsorts : Sorts 1 lines (readImportLines 1 lines).1 (readImportLines 1 lines).2 :=
    sorts_readImportLines lines 1
  obtain ⟨v', ids', himport, -⟩ := importEntries_of_storable now _ 0 v ids hsorts.storable
  intro f hf
  simp only [importLines, himport, List.append_nil] at hf
  exact hsorts.isComplaint f (List.mem_mergeSort.mp hf)

end Vault

end Coffer
