import Coffer.Display
import Coffer.Proofs.Command.Spelling

/-!
When the displayed form of a record is accepted back.

A record is displayed with its name and its values quoted, but with its keys as they are. A key that
is read as one identifier comes back, and then the whole line is read as the record's name and
fields. Any other key does not: whatever the scanner makes of it, the text that stands for the key is
either shorter than the key or holds more `=` than the key does (`key_of_scan`), since a literal that
opens in the key and does not close there takes the `=` behind the key with it (`Unescapes.misses`).

Main statement: the displayed form of a record yields its name, keys and values exactly if every key
is bare (`parse_recordLine_iff`).
-/

namespace Coffer

open Text (isBlank isPrintable)
open Token (IsBare IsLegible Kind Reads Writes isQuote isWordChar lexeme literal quote scan stop)

/-! ### Keys in front of a `=` -/

namespace Token

/-- The text is no reading of the characters `a` that stand in front of a `=`: it is shorter, or it
has a `=` that is none of them. -/
def Misses (text a : List Char) : Prop :=
  text.length < a.length ∨ a.count '=' < text.count '='

theorem not_misses_self (a : List Char) : ¬Misses a a := by
  simp [Misses]

theorem Misses.cons {c : Char} {text a : List Char} (h : Misses text a) :
    Misses (c :: text) (c :: a) := by
  rcases h with hlength | hcount
  · exact .inl (by simpa using hlength)
  · refine .inr ?_
    rw [List.count_cons, List.count_cons]
    omega

theorem Misses.of_tail {c : Char} {text a : List Char} (hc : c ≠ '=') (h : Misses text a) :
    Misses text (c :: a) := by
  rcases h with hlength | hcount
  · exact .inl (by simp; omega)
  · exact .inr (by rwa [List.count_cons_of_ne hc])

theorem Misses.mono {text a b : List Char} (h : Misses text b) (hlength : b.length ≤ a.length)
    (hcount : b.count '=' = a.count '=') : Misses text a := by
  rcases h with h | h
  · exact .inl (Nat.lt_of_lt_of_le h hlength)
  · exact .inr (hcount ▸ h)

/-- A literal that opens in front of a `=` closes in front of it too, or takes it along. -/
theorem Unescapes.misses {q : Char} {body text a rest behind : List Char} (hq : q ≠ '=')
    (h : Unescapes q body text) (hinput : a ++ '=' :: rest = body ++ q :: behind) :
    Misses text a := by
  induction h generalizing a with
  | nil =>
    cases a with
    | nil => exact absurd (List.cons.inj hinput).1.symm hq
    | cons x a => exact .inl (by simp)
  | escaped hd _ ih =>
    -- neither the backslash nor the character behind it is the `=`
    cases a with
    | nil => cases hinput
    | cons x a =>
      obtain ⟨rfl, hbehind⟩ := List.cons.inj hinput
      cases a with
      | nil =>
        obtain ⟨rfl, -⟩ := List.cons.inj hbehind
        rcases hd with hd | hd
        · exact absurd hd.symm hq
        · cases hd
      | cons y a =>
        obtain ⟨rfl, htail⟩ := List.cons.inj hbehind
        exact (ih htail).cons.of_tail (by decide)
  | backslash _ _ ih =>
    cases a with
    | nil => cases hinput
    | cons x a =>
      obtain ⟨rfl, htail⟩ := List.cons.inj hinput
      exact (ih htail).cons
  | plain _ _ _ _ ih =>
    cases a with
    | nil =>
      obtain ⟨rfl, -⟩ := List.cons.inj hinput
      exact .inr (by simp)
    | cons x a =>
      obtain ⟨rfl, htail⟩ := List.cons.inj hinput
      exact (ih htail).cons

section Equals

variable {p : Char → Bool} (hp : p '=' = false) (a rest : List Char)
include hp

theorem takeWhile_append_equals : (a ++ '=' :: rest).takeWhile p = a.takeWhile p := by
  induction a with
  | nil => simp [hp]
  | cons c a ih =>
    simp only [List.cons_append, List.takeWhile_cons, ih]

theorem dropWhile_append_equals :
    (a ++ '=' :: rest).dropWhile p = a.dropWhile p ++ '=' :: rest := by
  induction a with
  | nil => simp [hp]
  | cons c a ih =>
    simp only [List.cons_append, List.dropWhile_cons, ih]
    split <;> rfl

theorem count_dropWhile : (a.dropWhile p).count '=' = a.count '=' := by
  induction a with
  | nil => rfl
  | cons c a ih =>
    rw [List.dropWhile_cons]
    split
    · next hc =>
      have hne : c ≠ '=' := by
        rintro rfl
        rw [hp] at hc
        cases hc
      rw [ih, List.count_cons_of_ne hne]
    · rfl

end Equals

/-- A name that is read in front of a `=` is a bare text that stands there, behind which the scan
goes on, or a literal that misses what stands there. -/
theorem key_of_scan {pos : Nat} {a rest : List Char} {t : Token} {ts : List Token}
    {e : Option LexError} (h : scan pos (a ++ '=' :: rest) = (t :: ts, e))
    (ht : t.isValue = true) :
    (t.kind = .literal ∧ Misses t.text.toList a) ∨
      (IsBare t.text ∧ ∃ b next, scan next (b ++ '=' :: rest) = (ts, e) ∧
        t.text.toList.length + b.length ≤ a.length ∧ b.count '=' = a.count '=') := by
  simp only [isValue, Bool.or_eq_true, beq_iff_eq] at ht
  have hstop : t.isStop = false := by rcases ht with hkind | hkind <;> simp [isStop, hkind]
  obtain ⟨source, next, behind, hinput, hspan, hrest⟩ := exists_isSpan_of_scan h hstop
  rw [dropWhile_append_equals (by decide)] at hinput
  have hcount := count_dropWhile (show isBlank '=' = false by decide) a
  have hlength := (List.dropWhile_sublist isBlank (l := a)).length_le
  generalize a.dropWhile isBlank = b at hinput hcount hlength
  generalize t.kind = kind, htext : t.text.toList = text at hspan ht
  cases hspan with
  | keyword | sign | dot => simp at ht
  | @literal q body text hquote hbody =>
    have hq : q ≠ '=' := by
      rintro rfl
      exact absurd hquote (by decide)
    refine .inl ⟨rfl, ?_⟩
    cases b with
    | nil => exact absurd (List.cons.inj hinput).1.symm hq
    | cons x b =>
      obtain ⟨rfl, htail⟩ := List.cons.inj hinput
      have htail : b ++ '=' :: rest = body ++ x :: behind := by simpa using htail
      exact ((hbody.misses hq htail).of_tail hq).mono hlength hcount
  | @identifier word hword hbehind hreserved =>
    have hequals : isWordChar '=' = false := by decide
    -- the word and what is behind it are what the `=` lets a reading of words take and leave
    have htake := Cut.takeWhile_append hword.isWordChar hbehind
    have hdrop := Cut.dropWhile_append hword.isWordChar hbehind
    rw [← hinput, takeWhile_append_equals hequals] at htake
    rw [← hinput, dropWhile_append_equals hequals] at hdrop
    have hbare : IsBare t.text := by
      have h := isBare_of_isWord (htext ▸ hword) (htext ▸ hreserved)
      rwa [String.ofList_toList] at h
    refine .inr ⟨hbare, b.dropWhile isWordChar, next, ?_, ?_, ?_⟩
    · rwa [hdrop]
    · have hparts := congrArg List.length
        (List.takeWhile_append_dropWhile (p := isWordChar) (l := b))
      rw [List.length_append, htake] at hparts
      omega
    · rw [count_dropWhile hequals, hcount]

end Token

/-! ### What a field was read from -/

namespace RecordSpec

/-- A field's key is the text of the first token, or of the second one behind a marking word. -/
theorem key_of_takeField {seen : List String} {ts us : List Token} {f : Field}
    (h : takeField seen ts = .ok (f, us)) :
    ∃ key rest, (ts = key :: rest ∨ ∃ marker, isModifier marker = true ∧ ts = marker :: key :: rest) ∧
      key.isValue = true ∧ key.text = f.key := by
  obtain ⟨-, -, ⟨key, rest, hrest, hvalue, htext⟩, -⟩ := (takeField_yields seen ts).of_ok h
  refine ⟨key, rest, ?_, hvalue, htext⟩
  rw [← hrest]
  obtain hleading | ⟨marker, hmarker, hleading⟩ := leadingModifier_cases ts
  · exact .inl hleading.symm
  · exact .inr ⟨marker, hmarker, hleading⟩

theorem of_takeFields_cons {budget : Nat} {seen : List String} {ts : List Token} {f : Field}
    {fs : List Field} (h : takeFields budget seen ts = .ok (f :: fs)) :
    ∃ n us, takeField seen ts = .ok (f, us) ∧ takeFields n (f.key :: seen) us = .ok fs := by
  cases budget with
  | zero => cases h
  | succ n =>
    rw [takeFields] at h
    split at h
    · cases h
    cases hf : takeField seen ts with
    | error e =>
      rw [hf] at h
      cases h
    | ok result =>
      obtain ⟨g, us⟩ := result
      cases hfs : takeFields n (g.key :: seen) us with
      | error e =>
        simp only [hf, hfs, bind, Except.bind] at h
        cases h
      | ok gs =>
        simp only [hf, hfs, bind, Except.bind] at h
        cases h
        exact ⟨n, us, rfl, hfs⟩

theorem isBare_of_takeField {seen : List String} {pos : Nat} {rest : List Char} {ts us : List Token}
    {e : Option LexError} {f : Field} (hscan : scan pos (f.key.toList ++ '=' :: rest) = (ts, e))
    (htake : takeField seen ts = .ok (f, us)) : IsBare f.key := by
  obtain ⟨key, behind, hts, hvalue, htext⟩ := key_of_takeField htake
  rw [← htext] at hscan ⊢
  obtain rfl | ⟨marker, hmarker, rfl⟩ := hts
  · rcases Token.key_of_scan hscan hvalue with ⟨-, hmisses⟩ | ⟨hbare, -⟩
    · exact absurd hmisses (Token.not_misses_self _)
    · exact hbare
  · -- behind a marking word too little is left of the key
    exfalso
    have hkind : marker.kind = .identifier := by
      simp only [isModifier, Token.isWord, Bool.or_eq_true, Bool.and_eq_true, beq_iff_eq] at hmarker
      tauto
    have hmarkerValue : marker.isValue = true := by simp [Token.isValue, hkind]
    obtain ⟨hliteral, -⟩ | ⟨hbare, b, next, hscan', hlength, hcount⟩ :=
      Token.key_of_scan hscan hmarkerValue
    · rw [hkind] at hliteral
      cases hliteral
    have hnonempty : marker.text.toList.length ≠ 0 := by
      intro hzero
      exact hbare.nonempty (String.toList_eq_nil_iff.mp (List.length_eq_zero_iff.mp hzero))
    obtain ⟨-, hshort | hmore⟩ | ⟨-, b', -, -, hlength', -⟩ := Token.key_of_scan hscan' hvalue
    · omega
    · omega
    · omega

end RecordSpec

namespace Display

/-! ### The displayed form -/

/-- The field without its mark, which is not displayed. -/
def unmarked (f : Field) : Field :=
  { f with sensitive := false }

/-- The characters behind a record's name: a blank and a field each. -/
def fieldsText (fs : List Field) : List Char :=
  fs.flatMap fun f => ' ' :: (fieldText f).toList

theorem toList_recordLine (r : Record) :
    (recordLine r).toList = (quote r.name).toList ++ fieldsText r.fields := by
  have hfields : ∀ (front : List Char) (fs : List Field),
      [' '].intercalate (front :: fs.map fun f => (fieldText f).toList) =
        front ++ fieldsText fs := by
    intro front fs
    induction fs generalizing front with
    | nil => simp [List.intercalate, fieldsText]
    | cons f fs ih =>
      have ih := ih (fieldText f).toList
      simp only [List.intercalate] at ih
      simp [List.intercalate, fieldsText, ih]
  rw [recordLine, String.toList_intercalate]
  simpa [Function.comp_def] using hfields (quote r.name).toList r.fields

theorem head_fieldsText (fs : List Field) : ∀ c ∈ (fieldsText fs).head?, isWordChar c = false := by
  intro c hc
  cases fs with
  | nil => cases hc
  | cons f fs =>
    cases hc
    decide

theorem writes_fieldText {f : Field} (hkey : IsBare f.key) (hvalue : IsLegible f.value) :
    ∃ ls, Writes (fieldText f) ls ∧ RecordSpec.Spells (unmarked f) ls := by
  obtain ⟨k, hk, hwrites⟩ : ∃ k : Kind, (k = .identifier ∨ k = .literal) ∧
      Writes (if f.value = mask ∧ f.sensitive then f.value else quote f.value) [(k, f.value)] := by
    split
    · next hmask =>
      have hbare : IsBare mask := by decide
      exact ⟨.identifier, .inl rfl, Token.writes_bare (hmask.1 ▸ hbare)⟩
    · exact ⟨.literal, .inr rfl, Token.writes_quote hvalue⟩
  refine ⟨_, ?_, .plain (.inl rfl) hk⟩
  intro rest hrest
  have hread : Reads _ _ rest :=
    (Reads.bare hkey (Token.endsWord_cons.mpr (by decide))).append (Reads.equals.append (hwrites rest hrest))
  simpa [fieldText] using hread

theorem writes_fieldTexts {fs : List Field} (hkeys : ∀ f ∈ fs, IsBare f.key)
    (hvalues : ∀ f ∈ fs, IsLegible f.value) :
    ∃ lss, List.Forall₂ Writes (fs.map fieldText) lss ∧
      List.Forall₂ RecordSpec.Spells (fs.map unmarked) lss := by
  induction fs with
  | nil => exact ⟨[], .nil, .nil⟩
  | cons f fs ih =>
    rw [List.forall_mem_cons] at hkeys hvalues
    obtain ⟨ls, hf, hspells⟩ := writes_fieldText hkeys.1 hvalues.1
    obtain ⟨lss, hfs, hspells'⟩ := ih hkeys.2 hvalues.2
    exact ⟨ls :: lss, .cons hf hfs, .cons hspells hspells'⟩

/-- Records whose names, keys and values can all be written down. -/
def IsSpellable (r : Record) : Prop :=
  (Command.set ⟨r.name, r.fields⟩).IsSpellable

theorem parse_recordLine {r : Record} (h : IsSpellable r) (hbare : ∀ f ∈ r.fields, IsBare f.key) :
    RecordSpec.parse (recordLine r) = .ok ⟨r.name, r.fields.map unmarked⟩ := by
  obtain ⟨hname, hfields, hnodup⟩ := h
  obtain ⟨lss, hwrites, hspells⟩ := writes_fieldTexts hbare fun f hf => (hfields f hf).2
  have hline := Token.reads_intercalate (.cons (Token.writes_quote hname.2) hwrites)
  refine RecordSpec.parse_of_reads hline (.inr rfl) hname.1 hspells ?_ ?_
  · intro f hf
    obtain ⟨g, hg, rfl⟩ := List.mem_map.mp hf
    exact (hfields g hg).1.1
  · rw [List.map_map]
    exact hnodup

theorem isBare_of_takeFields {fs gs : List Field} {pos budget : Nat} {seen : List String}
    {ts : List Token} (hfs : ∀ f ∈ fs, f.key ≠ "" ∧ IsLegible f.value)
    (hnodup : (fs.map Field.key).Nodup) (hseen : ∀ f ∈ fs, f.key ∉ seen)
    (hscan : scan pos (fieldsText fs) = (ts, none))
    (htake : RecordSpec.takeFields budget seen ts = .ok gs)
    (hgs : gs.map Field.key = fs.map Field.key) : ∀ f ∈ fs, IsBare f.key := by
  induction fs generalizing pos budget seen ts gs with
  | nil => simp
  | cons f fs ih =>
    obtain ⟨g, gs, rfl, hkey, hkeys⟩ := List.map_eq_cons_iff.mp hgs
    obtain ⟨n, us, hfield, hfields⟩ := RecordSpec.of_takeFields_cons htake
    have htext : fieldsText (f :: fs) = ' ' :: ((fieldText f).toList ++ fieldsText fs) := by
      simp [fieldsText]
    rw [htext, Token.scan_blank (by decide)] at hscan
    rw [List.map_cons, List.nodup_cons] at hnodup
    rw [List.forall_mem_cons] at hfs hseen ⊢
    have hbare : IsBare f.key := by
      have hinput : (fieldText f).toList ++ fieldsText fs = g.key.toList ++ '=' ::
          ((if f.value = mask ∧ f.sensitive then f.value else quote f.value).toList ++
            fieldsText fs) := by
        simp [fieldText, hkey]
      rw [hinput] at hscan
      exact hkey ▸ RecordSpec.isBare_of_takeField hscan hfield
    -- so the field is read as it stands, and the scan of the other fields begins behind it
    obtain ⟨ls, hwrites, hspells⟩ := writes_fieldText hbare hfs.1.2
    obtain ⟨front, next, hfront, hls⟩ := hwrites _ (head_fieldsText fs) (pos + 1)
    rw [hfront] at hscan
    obtain ⟨hts, hrest⟩ := Prod.mk.inj hscan
    have hread : RecordSpec.takeField seen (front ++ (scan next (fieldsText fs)).1) = _ :=
      RecordSpec.takeField_of_spells hspells hls hfs.1.1 hseen.1
    rw [hts, hfield] at hread
    obtain ⟨rfl, rfl⟩ := Prod.mk.inj (Except.ok.inj hread)
    refine ⟨hbare, ih hfs.2 hnodup.2 ?_ (Prod.ext rfl hrest) hfields hkeys⟩
    intro h hh hmem
    rcases List.mem_cons.mp hmem with heq | hmem
    · exact hnodup.1 (heq ▸ List.mem_map_of_mem hh)
    · exact hseen.2 h hh hmem

/-- **The displayed form of a record is accepted back exactly if every key is bare.** It then yields
the record's name and its keys and values in order; with any other key it is refused, or means
another record. -/
theorem parse_recordLine_iff {r : Record} (h : IsSpellable r) :
    (∃ spec, RecordSpec.parse (recordLine r) = .ok spec ∧ spec.name = r.name ∧
      spec.fields.map (fun f => (f.key, f.value)) = r.fields.map fun f => (f.key, f.value)) ↔
      ∀ f ∈ r.fields, IsBare f.key := by
  constructor
  · intro ⟨spec, hparse, _, hfields⟩
    obtain ⟨hname, hlegible, hnodup⟩ := h
    have hkeys : spec.fields.map Field.key = r.fields.map Field.key := by
      simpa [List.map_map, Function.comp_def] using congrArg (List.map Prod.fst) hfields
    -- the tokens behind the name are those of the fields
    obtain ⟨next, hscan⟩ : ∃ next, scan 0 ((quote r.name).toList ++ fieldsText r.fields) = _ :=
      Token.scan_quote hname.2
    rw [RecordSpec.parse] at hparse
    split at hparse
    case h_2 => cases hparse
    next ts htokens =>
    have hts := Token.scan_of_tokenize htokens
    rw [toList_recordLine, hscan] at hts
    obtain ⟨rfl, hrest⟩ := Prod.mk.inj hts
    obtain ⟨front, last, hfront, -⟩ := Token.exists_stop_of_scan (Token.scan_of_tokenize htokens)
    rw [RecordSpec.ofTokens, hfront, Token.terminated_append_stop, ← hfront,
      RecordSpec.takeName_cons rfl hname.1] at hparse
    simp only [bind, Except.bind] at hparse
    split at hparse
    · cases hparse
    next gs htake =>
    cases hparse
    exact isBare_of_takeFields (fun f hf => ⟨(hlegible f hf).1.1, (hlegible f hf).2⟩) hnodup
      (by simp) (Prod.ext rfl hrest) htake hkeys
  · intro hbare
    exact ⟨_, parse_recordLine h hbare, rfl, by simp [List.map_map, Function.comp_def, unmarked]⟩

/-- Quotes and backslashes in values, a key that marks elsewhere, and a value that is hidden. -/
theorem parse_recordLine_marks :
    let r : Record :=
      ⟨"is", ⟨0⟩, [⟨"secret", "it's \\", false⟩, ⟨"pass", "*****", true⟩], [], .utc 0, .utc 0⟩
    IsSpellable r ∧ recordLine r = "'is' secret='it\\'s \\\\' pass=*****" ∧
      ∃ spec, RecordSpec.parse (recordLine r) = .ok spec ∧ spec.name = r.name ∧
        spec.fields.map (fun f => (f.key, f.value)) = r.fields.map fun f => (f.key, f.value) := by
  intro r
  have h : IsSpellable r := by
    show Command.IsName _ ∧ (∀ f ∈ _, Command.IsName _ ∧ IsLegible _) ∧ List.Nodup _
    decide +kernel
  exact ⟨h, by decide +kernel, (parse_recordLine_iff h).mpr (by decide +kernel)⟩

/-- A key with a blank in it is stored by a command, and the displayed form of its record is
refused. -/
theorem parse_recordLine_spaced :
    let spec : RecordSpec := ⟨"site", [⟨"user name", "me", false⟩]⟩
    let r : Record := ⟨"site", ⟨0⟩, [⟨"user name", "me", false⟩], [], .utc 0, .utc 0⟩
    Command.parse "set site 'user name' = me" = .ok (.set spec) ∧
      (Vault.set (.utc 0) .empty ⟨fun _ => ⟨0⟩, 0⟩ spec.name spec.fields).map (·.1) = .ok r ∧
      IsSpellable r ∧ recordLine r = "'site' user name='me'" ∧
      RecordSpec.parse (recordLine r) =
        .error (.parse ⟨.expected "'='" ⟨.identifier, "name", 12⟩, 12⟩) := by
  intro spec r
  have h : IsSpellable r := by
    show Command.IsName _ ∧ (∀ f ∈ _, Command.IsName _ ∧ IsLegible _) ∧ List.Nodup _
    decide +kernel
  exact ⟨by decide +kernel, by decide +kernel, h, by decide +kernel, by decide +kernel⟩

end Display

end Coffer
