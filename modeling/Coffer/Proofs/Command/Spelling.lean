import Coffer.Command
import Coffer.Proofs.RecordSpec
import Coffer.Token.Quote

/-!
Writing commands down. A command is spelled by its word and its arguments, each argument quoted; so
a name may be anything that can be read at all, and no name is taken for `all`, for `history` or for
a marking word. The line is read back as the command it was made from.
-/

namespace Coffer.Command

open RecordSpec (current takeName)
open Text (isBlank isPrintable)
open Token (Kind IsBare IsLegible Reads Writes isWordChar lexeme quote stop)

/-! ### Spellings -/

/-- The pieces that spell a field; `gap` stands on either side of the `=`. -/
def fieldPieces (gap : String) (f : Field) : List String :=
  (if f.sensitive then ["secret"] else []) ++
    [quote f.key ++ gap ++ "=" ++ gap ++ quote f.value]

def listingWord (reveal : Bool) : Word :=
  if reveal then .reveal else .show

/-- The word for a command and the pieces that spell its arguments. Of listings, only those of all
records and of a single one have a spelling here. -/
def spelling? (gap : String) : Command → Option (Word × List String)
  | .set spec => some (.set, quote spec.name :: spec.fields.flatMap (fieldPieces gap))
  | .delete name keys => some (.delete, quote name :: keys.map quote)
  | .show none reveal => some (listingWord reveal, ["all"])
  | .show (some (.atom ⟨.name, .is name⟩)) reveal =>
    some (listingWord reveal, [quote name])
  | .show (some _) _ => none
  | .history name false => some (.history, [quote name])
  | .history name true => some (.reveal, ["history", quote name])
  | .copy name key => some (.copy, [quote name, quote key])
  | .rename old new => some (.rename, [quote old, quote new])
  | .importFile path => some (.importFile, [quote path])

def IsName (s : String) : Prop :=
  s ≠ "" ∧ IsLegible s

instance (s : String) : Decidable (IsName s) :=
  inferInstanceAs (Decidable (_ ∧ _))

/-- All names, keys and paths are texts that can be one, all values can be read, and no field is
given twice. Of listings, those of all records and of a single one are meant. -/
def IsSpellable : Command → Prop
  | .set spec =>
    IsName spec.name ∧ (∀ f ∈ spec.fields, IsName f.key ∧ IsLegible f.value) ∧
      (spec.fields.map Field.key).Nodup
  | .delete name keys => IsName name ∧ ∀ key ∈ keys, IsName key
  | .show none _ => True
  | .show (some (.atom ⟨.name, .is name⟩)) _ => IsName name
  | .show (some _) _ => False
  | .history name _ => IsName name
  | .copy name key => IsName name ∧ IsName key
  | .rename old new => IsName old ∧ IsName new
  | .importFile path => IsName path

/-! ### Command words -/

/-- A text whose lower-case form consists of letters consists of letters. -/
theorem isLetter_of_lowerAscii {c : Char} (h : 'a' ≤ Text.lowerAscii c ∧ Text.lowerAscii c ≤ 'z') :
    ('A' ≤ c ∧ c ≤ 'Z') ∨ ('a' ≤ c ∧ c ≤ 'z') := by
  rw [Text.lowerAscii] at h
  split at h
  · next hupper => exact .inl hupper
  · exact .inr h

theorem isWordChar_of_isLetter {c : Char} (h : ('A' ≤ c ∧ c ≤ 'Z') ∨ ('a' ≤ c ∧ c ≤ 'z')) :
    isWordChar c = true ∧ isPrintable c = true ∧ c ≠ '$' ∧ c ≠ '.' := by
  have hcode : (65 ≤ c.toNat ∧ c.toNat ≤ 90) ∨ (97 ≤ c.toNat ∧ c.toNat ≤ 122) := by
    simp only [Char.le_def, UInt32.le_iff_toNat_le] at h
    exact h
  have hletters : ∀ n < 123, (65 ≤ n ∧ n ≤ 90) ∨ (97 ≤ n ∧ n ≤ 122) →
      isWordChar (.ofNat n) = true ∧ isPrintable (.ofNat n) = true ∧
        Char.ofNat n ≠ '$' ∧ Char.ofNat n ≠ '.' := by decide +kernel
  have hc := hletters c.toNat (by omega) hcode
  rwa [Char.ofNat_toNat] at hc

theorem isBare_of_ofText? {s : String} {w : Word} (h : Word.ofText? s = some w) : IsBare s := by
  have hmem : (String.ofList (Text.lowerWord s.toList), w) ∈ words := by
    rw [Word.ofText?, List.lookup_eq_some_iff] at h
    obtain ⟨before, after, hwords, -⟩ := h
    rw [hwords]
    simp
  -- The words themselves are plain; what remains is that lowering hides nothing but capitals.
  have hwords : ∀ p ∈ words, p.1 ≠ "" ∧ p.1 ∉ Token.keywords ∧
      (p.1.toList.all fun d => 'a' ≤ d ∧ d ≤ 'z') = true := by decide
  obtain ⟨hne, hkeyword, hall⟩ := hwords _ hmem
  have hletters := List.all_eq_true.mp hall
  have hchars : ∀ c ∈ s.toList,
      isWordChar c = true ∧ isPrintable c = true ∧ c ≠ '$' ∧ c ≠ '.' := by
    intro c hc
    apply isWordChar_of_isLetter
    apply isLetter_of_lowerAscii
    have hlower : Text.lowerAscii c ∈ (String.ofList (Text.lowerWord s.toList)).toList := by
      rw [String.toList_ofList]
      exact List.mem_map_of_mem hc
    simpa using hletters _ hlower
  constructor
  · rintro rfl
    exact hne rfl
  · intro c hc
    exact ⟨(hchars c hc).1, (hchars c hc).2.1⟩
  · intro hdollar
    exact (hchars '$' (List.mem_of_head? hdollar)).2.2.1 rfl
  · rintro rfl
    exact (hchars '.' (by decide)).2.2.2 rfl
  · exact hkeyword

/-! ### Pieces and their tokens -/

theorem writes_fieldPieces {gap : String} (hgap : ∀ c ∈ gap.toList, isBlank c = true) {f : Field}
    (hkey : IsLegible f.key) (hvalue : IsLegible f.value) :
    ∃ lss, List.Forall₂ Writes (fieldPieces gap f) lss ∧ RecordSpec.Spells f lss.flatten := by
  have hfield : Writes (quote f.key ++ gap ++ "=" ++ gap ++ quote f.value)
      [(.literal, f.key), (.punctuation, "="), (.literal, f.value)] := by
    intro rest _
    have hread : Reads _ _ rest :=
      (Reads.quote hkey).append <| (Reads.blanks hgap).append <| Reads.equals.append <|
        (Reads.blanks hgap).append <| Reads.quote hvalue
    simpa [List.append_assoc] using hread
  obtain ⟨key, value, sensitive⟩ := f
  cases sensitive with
  | false => exact ⟨_, .cons hfield .nil, .plain (.inr rfl) (.inr rfl)⟩
  | true =>
    have hmark : Writes "secret" [(.identifier, "secret")] := Token.writes_bare (by decide)
    exact ⟨_, .cons hmark (.cons hfield .nil), .marked (.inr rfl) (.inr rfl)⟩

theorem writes_fields {gap : String} (hgap : ∀ c ∈ gap.toList, isBlank c = true)
    {fs : List Field} (h : ∀ f ∈ fs, IsLegible f.key ∧ IsLegible f.value) :
    ∃ lss lss', List.Forall₂ Writes (fs.flatMap (fieldPieces gap)) lss ∧
      List.Forall₂ RecordSpec.Spells fs lss' ∧ lss.flatten = lss'.flatten := by
  induction fs with
  | nil => exact ⟨[], [], .nil, .nil, rfl⟩
  | cons f fs ih =>
    rw [List.forall_mem_cons] at h
    obtain ⟨front, hfront, hf⟩ := writes_fieldPieces hgap h.1.1 h.1.2
    obtain ⟨lss, lss', hpieces, hfs, hflat⟩ := ih h.2
    refine ⟨front ++ lss, front.flatten :: lss', ?_, .cons hf hfs, ?_⟩
    · rw [List.flatMap_cons]
      exact List.rel_append hfront hpieces
    · rw [List.flatten_append, List.flatten_cons, hflat]

/-- The words of a line, and what is made of the tokens behind the first one. -/
theorem parse_of_reads {line word : String} {w : Word} {ls : List (Kind × String)}
    (h : Reads line.toList ((.identifier, word) :: ls) []) (hw : Word.ofText? word = some w) :
    ∃ ts last, ts.map lexeme = ls ∧ Command.parse line = arguments w (ts ++ [stop last]) := by
  obtain ⟨us, last, htokens, hus⟩ := h.tokenize
  obtain ⟨t, ts, rfl, ht, hts⟩ := List.map_eq_cons_iff.mp hus
  obtain ⟨hkind, htext⟩ := Prod.mk.inj ht
  refine ⟨ts, last, hts, ?_⟩
  simp only [Command.parse, htokens, ofTokens, Token.terminated_append_stop]
  simp [current, hkind, htext, hw]

/-! ### Arguments -/

section Arguments

variable {ts : List Token} {last : Nat}

theorem exists_literal {name : String} {ls : List (Kind × String)}
    (hts : ts.map lexeme = (.literal, name) :: ls) :
    ∃ position us, ts = ⟨.literal, name, position⟩ :: us ∧ us.map lexeme = ls := by
  obtain ⟨⟨kind, text, position⟩, us, rfl, ht, hus⟩ := List.map_eq_cons_iff.mp hts
  cases ht
  exact ⟨position, us, rfl, hus⟩

theorem takeName_literal {name : String} (hne : name ≠ "") (what : String) (position : Nat)
    (rest : List Token) :
    takeName what (⟨.literal, name, position⟩ :: rest) =
      .ok (⟨.literal, name, position⟩, rest) :=
  RecordSpec.takeName_cons rfl hne

theorem arguments_set {spec : RecordSpec} {lss : List (List (Kind × String))}
    (hname : spec.name ≠ "") (hne : ∀ f ∈ spec.fields, f.key ≠ "")
    (hnodup : (spec.fields.map Field.key).Nodup)
    (hspells : List.Forall₂ RecordSpec.Spells spec.fields lss)
    (hts : ts.map lexeme = (.literal, spec.name) :: lss.flatten) :
    arguments .set (ts ++ [stop last]) = .ok (.set spec) := by
  obtain ⟨position, us, rfl, hus⟩ := exists_literal hts
  have hfields := RecordSpec.takeFields_length hspells last hus hne hnodup
  simp only [arguments, List.cons_append, takeName_literal hname, bind, Except.bind, hfields]
  rfl

theorem takeNames_literals {what : String} {keys : List String} {budget : Nat}
    (hne : ∀ key ∈ keys, key ≠ "") (hbudget : keys.length ≤ budget)
    (hts : ts.map lexeme = keys.map fun key => (.literal, key)) :
    takeNames what budget (ts ++ [stop last]) = .ok keys := by
  induction keys generalizing ts budget with
  | nil =>
    obtain rfl := List.map_eq_nil_iff.mp hts
    cases budget <;> rfl
  | cons key keys ih =>
    rw [List.forall_mem_cons] at hne
    obtain ⟨position, us, rfl, hus⟩ := exists_literal hts
    obtain ⟨n, rfl⟩ : ∃ n, budget = n + 1 := ⟨budget - 1, by simp at hbudget; omega⟩
    have ih := ih hne.2 (by simpa using hbudget) hus
    simp only [takeNames, List.cons_append, takeName_literal hne.1, bind, Except.bind, ih]
    rfl

theorem arguments_delete {name : String} {keys : List String} (hname : name ≠ "")
    (hne : ∀ key ∈ keys, key ≠ "")
    (hts : ts.map lexeme = (.literal, name) :: keys.map fun key => (.literal, key)) :
    arguments .delete (ts ++ [stop last]) = .ok (.delete name keys) := by
  obtain ⟨position, us, rfl, hus⟩ := exists_literal hts
  have hlength : keys.length ≤ (us ++ [stop last]).length := by
    have := congrArg List.length hus
    simp only [List.length_map] at this
    simp [this]
  simp only [arguments, List.cons_append, takeName_literal hname, bind, Except.bind,
    takeNames_literals hne hlength hus]
  rfl

theorem takeName_end {name : String} (f : String → Command) (what : String) (hname : name ≠ "")
    (hts : ts.map lexeme = [(.literal, name)]) :
    (do
      let (t, rest) ← takeName what (ts ++ [stop last])
      expectEnd rest
      return f t.text) = Except.ok (f name) := by
  obtain ⟨position, us, rfl, hus⟩ := exists_literal hts
  obtain rfl := List.map_eq_nil_iff.mp hus
  simp only [List.cons_append, takeName_literal hname, bind, Except.bind]
  rfl

/-- What two names stand for, when nothing is behind them. -/
theorem takeName_takeName_end {name key : String} (f : String → String → Command)
    (what what' : String) (hname : name ≠ "") (hkey : key ≠ "")
    (hts : ts.map lexeme = [(.literal, name), (.literal, key)]) :
    (do
      let (t, rest) ← takeName what (ts ++ [stop last])
      let (u, rest) ← takeName what' rest
      expectEnd rest
      return f t.text u.text) = Except.ok (f name key) := by
  obtain ⟨position, us, rfl, hus⟩ := exists_literal hts
  simp only [List.cons_append, takeName_literal hname, bind, Except.bind]
  exact takeName_end (f name) what' hkey hus

theorem arguments_listingWord (reveal : Bool) :
    arguments (listingWord reveal) ts = listing reveal ts := by
  cases reveal <;> rfl

theorem listing_all (reveal : Bool) (hts : ts.map lexeme = [(.identifier, "all")]) :
    listing reveal (ts ++ [stop last]) = .ok (.show none reveal) := by
  obtain ⟨⟨kind, text, position⟩, us, rfl, ht, hus⟩ := List.map_eq_cons_iff.mp hts
  obtain rfl := List.map_eq_nil_iff.mp hus
  cases ht
  have hword : (⟨.identifier, "all", position⟩ : Token).isWord "all" = true := by
    show (Text.lowerWord "all".toList == "all".toList) = true
    decide
  simp [listing, current, hword, Token.isValue, Token.isStop, stop]
  rfl

/-- A quoted name behind `show` or `reveal` is a record's, also if it is `all` or `history`. -/
theorem listing_name (reveal : Bool) {name : String} (hts : ts.map lexeme = [(.literal, name)]) :
    listing reveal (ts ++ [stop last]) = .ok (.show (some (.atom ⟨.name, .is name⟩)) reveal) := by
  obtain ⟨position, us, rfl, hus⟩ := exists_literal hts
  obtain rfl := List.map_eq_nil_iff.mp hus
  cases reveal <;> rfl

theorem listing_history {name : String} (hname : name ≠ "")
    (hts : ts.map lexeme = [(.identifier, "history"), (.literal, name)]) :
    listing true (ts ++ [stop last]) = .ok (.history name true) := by
  obtain ⟨⟨kind, text, p⟩, us, rfl, ht, hus⟩ := List.map_eq_cons_iff.mp hts
  cases ht
  obtain ⟨q, vs, rfl, hvs⟩ := exists_literal hus
  obtain rfl := List.map_eq_nil_iff.mp hvs
  have hword : (current [⟨.identifier, "history", p⟩, ⟨.literal, name, q⟩, stop last]).isWord
      "history" = true := by
    show (Text.lowerWord "history".toList == "history".toList) = true
    decide
  simp only [listing, List.cons_append, List.nil_append, hword, List.drop_succ_cons,
    List.drop_zero, takeName_literal hname, bind, Except.bind]
  rfl

end Arguments

/-! ### Lines -/

theorem exists_name_of_isSpellable {e : Filter} {reveal : Bool}
    (h : (Command.show (some e) reveal).IsSpellable) :
    ∃ name, e = .atom ⟨.name, .is name⟩ := by
  rw [IsSpellable.eq_def] at h
  split at h
  case h_4 name _ heq =>
    cases heq
    exact ⟨name, rfl⟩
  case h_3 heq => cases heq
  all_goals contradiction

theorem exists_tokens {gap : String} (hgap : ∀ c ∈ gap.toList, isBlank c = true) {c : Command}
    (hc : c.IsSpellable) :
    ∃ w pieces lss, c.spelling? gap = some (w, pieces) ∧ List.Forall₂ Writes pieces lss ∧
      ∀ ts last, ts.map lexeme = lss.flatten → arguments w (ts ++ [stop last]) = .ok c := by
  have hname {s : String} (hs : IsName s) : Writes (quote s) [(.literal, s)] :=
    Token.writes_quote hs.2
  -- Every name is quoted, so its token is a literal that no reader takes for one of its words. Only
  -- the fields of a record and the keys to delete are of any number.
  cases c with
  | set spec =>
    obtain ⟨hrecord, hfields, hnodup⟩ := hc
    obtain ⟨lss, lss', hpieces, hspells, hflat⟩ :=
      writes_fields hgap fun f hf => ⟨(hfields f hf).1.2, (hfields f hf).2⟩
    refine ⟨_, _, _, rfl, .cons (hname hrecord) hpieces, ?_⟩
    intro ts last hts
    rw [List.flatten_cons, hflat] at hts
    exact arguments_set hrecord.1 (fun f hf => (hfields f hf).1.1) hnodup hspells hts
  | delete name keys =>
    obtain ⟨hrecord, hkeys⟩ := hc
    have hpieces : List.Forall₂ Writes (keys.map quote)
        (keys.map fun key => [(.literal, key)]) := by
      rw [List.forall₂_map_left_iff, List.forall₂_map_right_iff, List.forall₂_same]
      exact fun key hkey => hname (hkeys key hkey)
    have hflat : (keys.map fun key => [(Kind.literal, key)]).flatten =
        keys.map fun key => (Kind.literal, key) := by
      rw [← List.flatMap_def, List.map_eq_flatMap]
    refine ⟨_, _, _, rfl, .cons (hname hrecord) hpieces, ?_⟩
    intro ts last hts
    rw [List.flatten_cons, hflat] at hts
    exact arguments_delete hrecord.1 (fun key hkey => (hkeys key hkey).1) hts
  | «show» filter reveal =>
    cases filter with
    | none =>
      refine ⟨_, _, _, rfl, .cons (Token.writes_bare (by decide)) .nil, ?_⟩
      intro ts last hts
      rw [arguments_listingWord]
      exact listing_all reveal hts
    | some e =>
      obtain ⟨name, rfl⟩ := exists_name_of_isSpellable hc
      refine ⟨_, _, _, rfl, .cons (hname hc) .nil, ?_⟩
      intro ts last hts
      rw [arguments_listingWord]
      exact listing_name reveal hts
  | history name reveal =>
    cases reveal with
    | false =>
      refine ⟨_, _, _, rfl, .cons (hname hc) .nil, ?_⟩
      exact fun ts last hts => takeName_end (.history · false) _ hc.1 hts
    | true =>
      have hword : Writes "history" [(.identifier, "history")] := Token.writes_bare (by decide)
      refine ⟨_, _, _, rfl, .cons hword (.cons (hname hc) .nil), ?_⟩
      exact fun ts last hts => listing_history hc.1 hts
  | copy name key =>
    refine ⟨_, _, _, rfl, .cons (hname hc.1) (.cons (hname hc.2) .nil), ?_⟩
    exact fun ts last hts => takeName_takeName_end .copy _ _ hc.1.1 hc.2.1 hts
  | rename old new =>
    refine ⟨_, _, _, rfl, .cons (hname hc.1) (.cons (hname hc.2) .nil), ?_⟩
    exact fun ts last hts => takeName_takeName_end .rename _ _ hc.1.1 hc.2.1 hts
  | importFile path =>
    refine ⟨_, _, _, rfl, .cons (hname hc) .nil, ?_⟩
    exact fun ts last hts => takeName_end .importFile _ hc.1 hts

/-- **Every command can be written down.** The line made of a word for the command, in any of its
spellings and any letter case, and of its quoted arguments is read back as exactly that command. -/
theorem parse_spelling {c : Command} {gap : String} (hc : c.IsSpellable)
    (hgap : ∀ ch ∈ gap.toList, isBlank ch = true) :
    ∃ w pieces, c.spelling? gap = some (w, pieces) ∧ ∀ word, Word.ofText? word = some w →
      Command.parse (String.intercalate " " (word :: pieces)) = .ok c := by
  obtain ⟨w, pieces, lss, hspelling, hpieces, harguments⟩ := exists_tokens hgap hc
  refine ⟨w, pieces, hspelling, ?_⟩
  intro word hword
  have hline := List.Forall₂.cons (Token.writes_bare (isBare_of_ofText? hword)) hpieces
  obtain ⟨ts, last, hts, hparse⟩ := parse_of_reads (Token.reads_intercalate hline) hword
  rw [hparse]
  exact harguments ts last hts

/-- Names that say something else unquoted, and a value that ends in a backslash. -/
theorem parse_spelling_set :
    let c : Command :=
      .set ⟨"all", [⟨"secret", "it's\\", true⟩, ⟨"is", "", false⟩, ⟨"a = (b", "x", true⟩]⟩
    c.IsSpellable ∧
      Command.parse
        "ADD 'all' secret 'secret'='it\\'s\\\\' 'is'='' secret 'a = (b'='x'" = .ok c := by
  intro c
  have hc : c.IsSpellable := by
    show IsName _ ∧ (∀ f ∈ _, IsName _ ∧ IsLegible _) ∧ List.Nodup _
    decide +kernel
  have hgap : ∀ ch ∈ "".toList, isBlank ch = true := by simp
  obtain ⟨w, pieces, hspelling, hparse⟩ := parse_spelling hc hgap
  obtain ⟨rfl, rfl⟩ := Prod.mk.inj (Option.some.inj hspelling)
  have hline := hparse "ADD" (by decide)
  have htext : String.intercalate " " ("ADD" :: quote "all" ::
      [⟨"secret", "it's\\", true⟩, ⟨"is", "", false⟩, ⟨"a = (b", "x", true⟩].flatMap
        (fieldPieces "")) =
      "ADD 'all' secret 'secret'='it\\'s\\\\' 'is'='' secret 'a = (b'='x'" := by
    decide +kernel
  exact ⟨hc, htext ▸ hline⟩

end Coffer.Command
