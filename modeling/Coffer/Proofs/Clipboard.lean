import Coffer.Clipboard

/-!
What is left in the clipboard.

A run of the clipboard is a list of deeds in any order: the program copies, somebody else writes, and
the times of pending texts run out. What carries a run is that every text the program has left in the
clipboard is still pending (`Clipboard.Accounts`, `Accounts.after`, `Accounts.run`). So nothing of the
program's is left once nothing is pending, and a text of somebody else stays unless it is one of the
pending ones.

Main statement: `Clipboard.run_clears`.
-/

namespace Coffer.Clipboard

inductive Deed where
  /-- The program copies a text, to be cleared after a while. -/
  | copied (text : String) (timeout : Nat)
  /-- Somebody else writes a text. -/
  | written (text : String)
  /-- The time of the pending text at an index runs out. -/
  | fired (index : Nat)
deriving DecidableEq, Repr

namespace Deed

/-- Whether a time runs out. -/
def isFiring : Deed → Bool
  | fired _ => true
  | _ => false

/-- A text that is copied will be cleared at some time. -/
def IsTimed : Deed → Prop
  | copied _ timeout => 0 < timeout
  | _ => True

end Deed

/-- The clipboard after something is done to it. A copy that fails changes nothing. -/
def after (c : Clipboard) : Deed → Clipboard
  | .copied text timeout => (c.copy text timeout).toOption.getD c
  | .written text => c.overwrite text
  | .fired index => (c.fire index).1

/-- The clipboard after all that is done to it. -/
def run (c : Clipboard) (deeds : List Deed) : Clipboard :=
  deeds.foldl after c

/-- Somebody else has written the text, and nothing has been written or copied since. -/
def IsForeign (deeds : List Deed) (text : String) : Prop :=
  ∃ before later, deeds = before ++ .written text :: later ∧ ∀ d ∈ later, d.isFiring = true

variable {c : Clipboard} {deeds : List Deed} {text : String}

theorem IsForeign.fired (h : IsForeign deeds text) (index : Nat) :
    IsForeign (deeds ++ [.fired index]) text := by
  obtain ⟨before, later, rfl, hlater⟩ := h
  refine ⟨before, later ++ [.fired index], by simp, ?_⟩
  intro d hd
  rcases List.mem_append.mp hd with hd | hd
  · exact hlater d hd
  · rw [List.mem_singleton.mp hd]
    rfl

/-! ### A clipboard that works -/

theorem copy_of_works (hworks : c.fault = none) {timeout : Nat} (htimeout : 0 < timeout)
    (text : String) : c.copy text timeout =
      .ok { c with content := text, pending := c.pending ++ [text] } := by
  rw [copy, hworks, if_pos htimeout]

theorem clear_of_works (hworks : c.fault = none) (text : String) :
    c.clear text = .ok (if c.content = text then { c with content := "" } else c) := by
  unfold clear
  rw [hworks]

/-- A time that runs out empties the clipboard if it still holds that very text, and changes nothing
else about what it holds. -/
theorem fire_of_works (hworks : c.fault = none) (index : Nat) : c.fire index =
    ({ c with
        content := if c.pending[index]? = some c.content then "" else c.content
        pending := c.pending.eraseIdx index }, none) := by
  rw [fire]
  cases htext : c.pending[index]? with
  | none => rw [if_neg nofun, List.eraseIdx_of_length_le (List.getElem?_eq_none_iff.mp htext)]
  | some text =>
    have hrest : ({ c with pending := c.pending.eraseIdx index } : Clipboard).fault = none := hworks
    simp only [clear_of_works hrest, Option.some.injEq]
    by_cases heq : c.content = text
    · rw [if_pos heq, if_pos heq.symm]
    · rw [if_neg heq, if_neg (Ne.symm heq)]

theorem fault_after (hworks : c.fault = none) (d : Deed) : (c.after d).fault = none := by
  cases d with
  | copied text timeout =>
    rw [after]
    unfold copy
    rw [hworks]
    rfl
  | written text => exact hworks
  | fired index =>
    rw [after, fire_of_works hworks]
    exact hworks

theorem fault_run (hworks : c.fault = none) (deeds : List Deed) : (c.run deeds).fault = none := by
  induction deeds generalizing c with
  | nil => exact hworks
  | cons d deeds ih => exact ih (fault_after hworks d)

/-! ### What a run keeps -/

/-- What the clipboard holds after some deeds is nothing, or still to be cleared, or from somebody
else. -/
structure Accounts (deeds : List Deed) (c : Clipboard) : Prop where
  works : c.fault = none
  content : c.content = "" ∨ c.content ∈ c.pending ∨ IsForeign deeds c.content

theorem Accounts.after (h : Accounts deeds c) {d : Deed} (hd : d.IsTimed) :
    Accounts (deeds ++ [d]) (c.after d) := by
  refine ⟨fault_after h.works d, ?_⟩
  cases d with
  | copied text timeout =>
    right
    left
    rw [Clipboard.after, copy_of_works h.works hd]
    exact List.mem_append_right _ List.mem_cons_self
  | written text =>
    right
    right
    exact ⟨deeds, [], rfl, nofun⟩
  | fired index =>
    rw [Clipboard.after, fire_of_works h.works]
    dsimp only
    split
    · exact .inl rfl
    · next hother =>
      rcases h.content with hempty | hpending | hforeign
      · exact .inl hempty
      · -- another of the pending texts is this one
        right
        left
        obtain ⟨j, hj, heq⟩ := List.mem_iff_getElem.mp hpending
        rw [List.mem_eraseIdx_iff_getElem]
        refine ⟨j, hj, ?_, heq⟩
        rintro rfl
        exact hother (by rw [List.getElem?_eq_getElem hj, heq])
      · exact .inr (.inr (hforeign.fired index))

theorem Accounts.run (h : Accounts deeds c) {later : List Deed} (hlater : ∀ d ∈ later, d.IsTimed) :
    Accounts (deeds ++ later) (c.run later) := by
  induction later generalizing deeds c with
  | nil =>
    rw [List.append_nil]
    exact h
  | cons d later ih =>
    obtain ⟨hd, hlater⟩ := List.forall_mem_cons.mp hlater
    have hrest := ih (h.after hd) hlater
    rwa [List.append_assoc] at hrest

/-- Nothing of the program's is left once nothing is pending. What the clipboard held at first counts
as written by somebody else. -/
theorem content_run (hworks : c.fault = none) (htimed : ∀ d ∈ deeds, d.IsTimed)
    (hpending : (c.run deeds).pending = []) :
    (c.run deeds).content = "" ∨ IsForeign (.written c.content :: deeds) (c.run deeds).content := by
  have hstart : Accounts [.written c.content] c :=
    ⟨hworks, .inr (.inr ⟨[], [], rfl, nofun⟩)⟩
  have haccounts := hstart.run htimed
  rcases haccounts.content with hempty | hmem | hforeign
  · exact .inl hempty
  · rw [hpending] at hmem
    cases hmem
  · exact .inr hforeign

theorem content_run_of_isFiring (hworks : c.fault = none) (hother : c.content ∉ c.pending)
    (hfiring : ∀ d ∈ deeds, d.isFiring = true) : (c.run deeds).content = c.content := by
  induction deeds generalizing c with
  | nil => rfl
  | cons d deeds ih =>
    obtain ⟨hd, hrest⟩ := List.forall_mem_cons.mp hfiring
    cases d with
    | copied text timeout => cases hd
    | written text => cases hd
    | fired index =>
      have hkeeps : c.pending[index]? ≠ some c.content := fun h => hother (List.mem_of_getElem? h)
      have hstep : c.after (.fired index) = { c with pending := c.pending.eraseIdx index } := by
        rw [Clipboard.after, fire_of_works hworks, if_neg hkeeps]
      rw [run, List.foldl_cons, hstep]
      exact ih hworks (fun h => hother (List.mem_of_mem_eraseIdx h)) hrest

/-- **Clearing is safe, and it is complete.** In a run with a clipboard that works, where all that is
copied is to be cleared, every copy succeeds and is pending from then on. A time that runs out changes
what the clipboard holds only to nothing, and only if that is exactly the text whose time it is; so
what somebody else writes stays, however many times run out, unless that text is still pending. Once
nothing is pending, the clipboard is empty or holds what somebody else wrote last, where what it held
at first counts as written by somebody else. -/
theorem run_clears (hworks : c.fault = none) (htimed : ∀ d ∈ deeds, d.IsTimed) :
    let c' := c.run deeds
    (∀ text timeout, 0 < timeout → c'.copy text timeout =
      .ok { c' with content := text, pending := c'.pending ++ [text] }) ∧
    (∀ index, c'.fire index =
      ({ c' with
          content := if c'.pending[index]? = some c'.content then "" else c'.content
          pending := c'.pending.eraseIdx index }, none)) ∧
    (∀ text firings, text ∉ c'.pending → (∀ d ∈ firings, d.isFiring = true) →
      (c'.run (.written text :: firings)).content = text) ∧
    (c'.pending = [] → c'.content = "" ∨ IsForeign (.written c.content :: deeds) c'.content) := by
  intro c'
  have hworks' : c'.fault = none := fault_run hworks deeds
  refine ⟨?_, ?_, ?_, ?_⟩
  · intro text timeout htimeout
    exact copy_of_works hworks' htimeout text
  · intro index
    exact fire_of_works hworks' index
  · intro text firings hother hfirings
    have hwritten : (c'.overwrite text).fault = none := hworks'
    exact content_run_of_isFiring hwritten hother hfirings
  · intro hpending
    exact content_run hworks htimed hpending

/-- The same text is copied twice. Its first time clears the second copy already, and its second one
leaves what somebody else has written since. -/
theorem run_clears_overlapping :
    let deeds : List Deed :=
      [.copied "hunter2" 30, .written "mine", .copied "hunter2" 30, .fired 0, .written "yours",
        .fired 0]
    (run {} (deeds.take 4)).content = "" ∧ (run {} (deeds.take 4)).pending = ["hunter2"] ∧
      (run {} deeds).pending = [] ∧ (run {} deeds).content = "yours" ∧
      IsForeign (.written "" :: deeds) "yours" := by
  intro deeds
  have htimed : ∀ d ∈ deeds, d.IsTimed := by
    simp [deeds, Deed.IsTimed]
  have hworks : ({} : Clipboard).fault = none := rfl
  obtain ⟨-, -, -, hlast⟩ := run_clears hworks htimed
  have hpending : (run {} deeds).pending = [] := by decide
  have hcontent : (run {} deeds).content = "yours" := by decide
  refine ⟨by decide, by decide, hpending, hcontent, ?_⟩
  rw [hcontent] at hlast
  exact (hlast hpending).resolve_left (by decide)

end Coffer.Clipboard
