import Coffer.Log
import Coffer.Proofs.Log.Redaction

/-!
When a second redaction changes nothing.

A note is redacted once by each handler that takes it. Read once more, a replaced value goes on up to
the next blank, so that a second redaction takes away what directly follows a value in quotes. It
changes nothing if there is no such character (`Division.Overruns`, `redactFrom_redacted_iff`), and
never a third time, because behind a replaced value there is none left (`not_overruns_redact`).

Main statement: `lines_settle`.
-/

namespace Coffer

namespace Redact

open Text (isBlank)

variable {before before' behind cs : List Char} {p : Passage}

namespace Division

/-- A value in quotes that is replaced is directly followed by a character that is not blank. -/
def Overruns : Division → Prop
  | .tail _ => False
  | .found _ p rest =>
    (IsQuoted p.value ∧ ∃ c ∈ rest.text.head?, isBlank c = false) ∨ rest.Overruns

/-- Redaction keeps the first character, be it that of a gap or that of a word. -/
theorem IsLeftmost.head?_redacted {d : Division} (h : d.IsLeftmost before) :
    d.redacted.head? = d.text.head? := by
  cases d with
  | tail cs => rfl
  | found gap p rest =>
    obtain ⟨c, word, hword, -⟩ := h.2.2.1.word.exists_cons
    cases gap with
    | nil => simp [redacted, text, Passage.text, hword]
    | cons c gap => rfl

theorem Overruns.exists_passage {d : Division} (h : d.Overruns) (hd : d.IsLeftmost before) :
    ∃ (front : List Char) (p : Passage) (behind : List Char),
      d.text = front ++ (p.text ++ behind) ∧ IsBoundary (before ++ front) ∧ p.Stands behind ∧
        IsQuoted p.value := by
  induction d generalizing before with
  | tail cs => exact h.elim
  | found gap p rest ih =>
    obtain ⟨-, hboundary, hp, hrest⟩ := hd
    rcases h with ⟨hquoted, -⟩ | hlater
    · exact ⟨gap, p, rest.text, rfl, hboundary, hp, hquoted⟩
    · obtain ⟨front, p', behind, htext, hboundary', hp', hquoted⟩ := ih hlater hrest
      refine ⟨gap ++ (p.text ++ front), p', behind, ?_, ?_, hp', hquoted⟩
      · rw [text, htext]
        simp only [List.append_assoc]
      · simpa only [List.append_assoc] using hboundary'

end Division

/-! ### The second redaction -/

theorem head?_redactFrom (h : ∀ c ∈ cs.head?, isBlank c = true) (before : List Char) :
    (redactFrom (endsInWord before) cs).head? = cs.head? := by
  cases cs with
  | nil =>
    rw [redactFrom]
  | cons c cs =>
    rw [redactFrom_cons]
    · rfl
    · rintro ⟨-, hpassage⟩
      exact not_opens_of_blank h (opens_iff.mpr hpassage)

/-- A replaced value is replaced again, with the characters that have come to be part of it. -/
theorem redactFrom_replaced {word : List Char} (hboundary : IsBoundary before)
    (hword : Announces word) (behind : List Char) : ∃ before',
      redactFrom (endsInWord before) (word ++ (replacement ++ behind)) =
        word ++ (replacement ++ redactFrom (endsInWord before') (behind.dropWhile (!isBlank ·))) := by
  rw [← text_marked, redactFrom_stands hboundary (stands_marked hword behind)]
  exact ⟨_, rfl⟩

/-- A second redaction changes nothing exactly if no value overruns. -/
theorem redactFrom_redacted_iff {d : Division} (hd : d.IsLeftmost before)
    (hapart : IsApart before d.text) (hapart' : IsApart before' d.text) :
    redactFrom (endsInWord before') d.redacted = d.redacted ↔ ¬ d.Overruns := by
  induction d generalizing before before' with
  | tail cs =>
    have hkept := redactFrom_append (Silent.moved hd hapart before')
    rw [redactFrom, List.append_nil] at hkept
    exact iff_of_true hkept id
  | found gap p rest ih =>
    obtain ⟨hgap, hend, hp, hrest⟩ := hd
    have hopens : Opens (p.text ++ rest.text) := opens_iff.mpr ⟨p, rest.text, hp, rfl⟩
    have hend' : IsBoundary (before' ++ gap) := hapart'.isBoundary hopens hend
    have hsilent := silent_redacted hgap hend hapart hp.word before' (replacement ++ rest.redacted)
    obtain ⟨before'', hagain⟩ := redactFrom_replaced hend' hp.word rest.redacted
    rw [Division.redacted, redactFrom_append hsilent, hagain, List.append_right_inj,
      List.append_right_inj, List.append_right_inj]
    by_cases hhead : ∃ c ∈ rest.text.head?, isBlank c = false
    · -- the first character behind the value is taken away
      obtain ⟨c, hc, hblank⟩ := hhead
      have hquoted : IsQuoted p.value := hp.value.resolve_right fun hbare => by
        rw [hbare.ends c hc] at hblank
        cases hblank
      refine iff_of_false (fun hsame => ?_) (fun hnot => hnot (.inl ⟨hquoted, c, hc, hblank⟩))
      have hbehind : ∀ c ∈ (rest.redacted.dropWhile (!isBlank ·)).head?, isBlank c = true :=
        isBlank_of_behind_run
      rw [← head?_redactFrom hbehind before'', hsame, hrest.head?_redacted] at hbehind
      rw [hbehind c hc] at hblank
      cases hblank
    · have hblank : ∀ c ∈ rest.text.head?, isBlank c = true := by
        intro c hc
        rw [← Bool.not_eq_false]
        exact fun hnot => hhead ⟨c, hc, hnot⟩
      have hdrop : rest.redacted.dropWhile (!isBlank ·) = rest.redacted := by
        apply Cut.dropWhile_eq_self
        rw [hrest.head?_redacted]
        intro c hc
        simp [hblank c hc]
      have hbehind : IsApart (before ++ (gap ++ p.text)) rest.text := .inr hblank
      rw [hdrop, ih hrest hbehind (.inr hblank), Division.Overruns,
        or_iff_right fun hover => hhead hover.2]

/-! ### Texts and notes -/

/-- In the text, a value in quotes that is replaced is directly followed by a character that is not
blank. -/
def Overruns (s : String) : Prop :=
  ∃ d : Division, d.Divides s ∧ d.Overruns

theorem redact_redact_iff (s : String) : redact (redact s) = redact s ↔ ¬ Overruns s := by
  obtain ⟨d, hd⟩ := exists_divides s
  have hstart : IsBoundary [] := by
    simp [IsBoundary]
  have hoverruns : Overruns s ↔ d.Overruns := by
    constructor
    · rintro ⟨d', hd', h⟩
      rwa [hd.unique hd']
    · exact fun h => ⟨d, hd, h⟩
  have hagain : (redact (redact s)).toList = redactFrom (endsInWord []) d.redacted := by
    rw [redact, String.toList_ofList, toList_redact hd]
    rfl
  rw [← String.toList_inj, hagain, toList_redact hd, hoverruns]
  exact redactFrom_redacted_iff hd.isLeftmost (.inl hstart) (.inl hstart)

/-- A replaced value has no quotes, so it goes on up to the next blank. -/
theorem not_overruns_redact (s : String) : ¬ Overruns (redact s) := by
  rintro ⟨d, hd, h⟩
  obtain ⟨front, p, behind, htext, hboundary, hp, hquoted⟩ := h.exists_passage hd.isLeftmost
  obtain ⟨more, hmore⟩ := eq_marked_of_stands (hd.text.symm.trans htext) hboundary hp
  rw [hmore] at hquoted
  exact hidden_append_ne hquoted (List.append_nil _).symm

end Redact

namespace Note

open Redact

variable {n : Note}

def members? (n : Note) : Option (List (String × Json)) :=
  (Template.Supply.ofArgs n.args).members

/-- Neither the text nor an argument that is redacted overruns. -/
def IsSettled (n : Note) : Prop :=
  ¬ Overruns n.template ∧ (n.members? = none → ∀ s, .str s ∈ n.args → ¬ Overruns s)

theorem level_redacted (n : Note) : n.redacted.level = n.level :=
  rfl

theorem args_redacted_of_some (h : n.members?.isSome) : n.redacted.args = n.args :=
  if_pos h

theorem args_redacted_of_none (h : n.members? = none) : n.redacted.args = n.args.map redactArg := by
  apply if_neg
  rw [show (Template.Supply.ofArgs n.args).members = none from h]
  exact Bool.false_ne_true

/-- A single object is left alone, and nothing else becomes one. -/
theorem members?_redacted (n : Note) : n.redacted.members? = n.members? := by
  cases h : n.members? with
  | some members =>
    rw [members?, args_redacted_of_some (by rw [h]; rfl)]
    exact h
  | none =>
    rw [members?, args_redacted_of_none h]
    rw [members?] at h
    match hargs : n.args with
    | [] => rfl
    | [v] =>
      rw [hargs] at h
      cases v <;> first | rfl | exact h
    | v :: _ :: _ => cases v <;> rfl

theorem redactArg_eq_iff {v : Json} : redactArg v = v ↔ ∀ s, v = .str s → redact s = s := by
  cases v <;> simp [redactArg]

theorem str_mem_args_redacted {s : String} (h : n.members? = none) :
    .str s ∈ n.redacted.args ↔ ∃ t, .str t ∈ n.args ∧ redact t = s := by
  rw [args_redacted_of_none h, List.mem_map]
  constructor
  · rintro ⟨v, hv, heq⟩
    cases v <;> cases heq
    exact ⟨_, hv, rfl⟩
  · rintro ⟨t, ht, rfl⟩
    exact ⟨.str t, ht, rfl⟩

theorem redacted_eq_iff : n.redacted = n ↔ redact n.template = n.template ∧
    (n.members? = none → ∀ s, .str s ∈ n.args → redact s = s) := by
  have hargs : n.redacted.args = n.args ↔
      (n.members? = none → ∀ s, .str s ∈ n.args → redact s = s) := by
    cases h : n.members? with
    | some members => exact iff_of_true (args_redacted_of_some (by rw [h]; rfl)) (by simp)
    | none =>
      have hsame : n.args.map redactArg = n.args ↔ ∀ v ∈ n.args, redactArg v = v := by
        conv_lhs => rhs; rw [← List.map_id n.args]
        rw [List.map_inj_left]
        rfl
      rw [args_redacted_of_none h, hsame]
      simp only [redactArg_eq_iff, forall_const]
      constructor
      · exact fun hall s hs => hall (.str s) hs s rfl
      · rintro hall v hv s rfl
        exact hall s hv
  rw [← hargs]
  constructor
  · intro h
    exact ⟨congrArg Note.template h, congrArg Note.args h⟩
  · rintro ⟨htemplate, hargs⟩
    exact (Note.mk.injEq ..).mpr ⟨rfl, rfl, htemplate, hargs⟩

theorem redacted_redacted_iff : n.redacted.redacted = n.redacted ↔ n.IsSettled := by
  rw [redacted_eq_iff, members?_redacted, IsSettled]
  apply and_congr (redact_redact_iff n.template)
  apply imp_congr_right
  intro h
  simp only [str_mem_args_redacted h, ← redact_redact_iff]
  constructor
  · exact fun hall s hs => hall _ ⟨s, hs, rfl⟩
  · rintro hall s ⟨t, ht, rfl⟩
    exact hall t ht

theorem isSettled_redacted (n : Note) : n.redacted.IsSettled := by
  refine ⟨not_overruns_redact n.template, fun h s hs => ?_⟩
  rw [members?_redacted] at h
  obtain ⟨t, -, rfl⟩ := (str_mem_args_redacted h).mp hs
  exact not_overruns_redact t

/-! ### Lines -/

theorem lines_of_le {level : Int} (h : level ≤ n.level) (levels : List Int) :
    n.lines (level :: levels) = n.redacted.line? :: n.redacted.lines levels :=
  if_pos h

theorem lines_of_lt {level : Int} (h : n.level < level) (levels : List Int) :
    n.lines (level :: levels) = none :: n.lines levels :=
  if_neg (Int.not_le.mpr h)

theorem IsSettled.lines_eq (h : n.IsSettled) (levels : List Int) :
    n.lines levels = levels.map fun level => if level ≤ n.level then n.redacted.line? else none := by
  induction levels generalizing n with
  | nil => rfl
  | cons level levels ih =>
    rw [List.map_cons]
    by_cases hlevel : level ≤ n.level
    · rw [lines_of_le hlevel, if_pos hlevel, ih n.isSettled_redacted, redacted_redacted_iff.mpr h,
        level_redacted]
    · rw [lines_of_lt (Int.not_le.mp hlevel), if_neg hlevel, ih h]

theorem lines_append {front : List Int} (hfront : ∀ l ∈ front, n.level < l) {level : Int}
    (hlevel : level ≤ n.level) (behind : List Int) :
    n.lines (front ++ level :: behind) = front.map (fun _ => none) ++ n.redacted.line? ::
      behind.map fun l => if l ≤ n.level then n.redacted.redacted.line? else none := by
  induction front with
  | nil =>
    rw [List.nil_append, lines_of_le hlevel, n.isSettled_redacted.lines_eq]
    rfl
  | cons l front ih =>
    obtain ⟨hl, hfront⟩ := List.forall_mem_cons.mp hfront
    rw [List.cons_append, lines_of_lt hl, ih hfront]
    rfl

/-- **When handlers write the same.** A second redaction changes nothing exactly if no quoted value
that is replaced is directly followed by a character that is not blank; a third one changes nothing in
any text. So a note without such a value has the same line for all handlers that take it. In general
the first of them writes the note redacted once, and all behind it write it redacted twice. -/
theorem lines_settle :
    (∀ s, redact (redact s) = redact s ↔ ¬ Overruns s) ∧
    (∀ s, redact (redact (redact s)) = redact (redact s)) ∧
    ∀ n : Note, (n.redacted.redacted = n.redacted ↔ n.IsSettled) ∧
      (n.IsSettled → ∀ levels, n.lines levels =
        levels.map fun level => if level ≤ n.level then n.redacted.line? else none) ∧
      ∀ (front : List Int) (level : Int) (behind : List Int), (∀ l ∈ front, n.level < l) →
        level ≤ n.level → n.lines (front ++ level :: behind) =
          front.map (fun _ => none) ++ n.redacted.line? ::
            behind.map fun l => if l ≤ n.level then n.redacted.redacted.line? else none := by
  refine ⟨redact_redact_iff, fun s => ?_, fun n => ⟨redacted_redacted_iff, ?_, ?_⟩⟩
  · exact (redact_redact_iff (redact s)).mpr (not_overruns_redact s)
  · intro h levels
    exact h.lines_eq levels
  · intro front level behind hfront hlevel
    exact lines_append hfront hlevel behind

/-- With a blank behind the quotes, the console and the file have the same line. Without one, the first
handler that takes the note shows more than the one behind it. -/
theorem lines_settle_blank :
    let n : Note := ⟨"royalguard.shell", 40, "save failed: %s", [.str "pwd='a' b"]⟩
    let n' : Note := ⟨"royalguard.shell", 40, "pwd='a'b", []⟩
    n.IsSettled ∧ n.lines [30, 20] =
      [some "ERROR    | royalguard.shell | save failed: pwd=[REDACTED] b",
        some "ERROR    | royalguard.shell | save failed: pwd=[REDACTED] b"] ∧
    n'.lines [50, 30, 20] =
      [none, some "ERROR    | royalguard.shell | pwd=[REDACTED]b",
        some "ERROR    | royalguard.shell | pwd=[REDACTED]"] := by
  intro n n'
  obtain ⟨-, -, hnote⟩ := lines_settle
  have hsettled : n.IsSettled := by
    apply (hnote n).1.mp
    decide +kernel
  refine ⟨hsettled, ?_, ?_⟩
  · rw [(hnote n).2.1 hsettled]
    decide +kernel
  · have hlines := (hnote n').2.2 [50] 30 [20] (by simp [n']) (by simp [n'])
    refine hlines.trans ?_
    decide +kernel

/-- What directly follows the quotes stands in the first line and not in the second. -/
theorem lines_unsettled :
    redact (redact "password='a'b") ≠ redact "password='a'b" ∧
      (⟨"royalguard.shell", 40, "password='a'b", []⟩ : Note).lines [30, 20] =
        [some "ERROR    | royalguard.shell | password=[REDACTED]b",
          some "ERROR    | royalguard.shell | password=[REDACTED]"] := by
  constructor
  · decide +kernel
  · decide +kernel

end Note

end Coffer
