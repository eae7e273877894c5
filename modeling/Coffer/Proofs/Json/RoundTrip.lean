import Coffer.Json.Reader
import Coffer.Proofs.Json.Number
import Coffer.Proofs.Json.Text

/-!
Reading undoes printing. A value is printed as a row of elements (`tokens`); the lexer finds exactly
these in the text, and putting them together gives the value back, for every value that reading can
give at all (`read_print`).
-/

namespace Coffer.Json

/-! ### Values that can be read -/

mutual

/-- Whether a value is one that reading can give: integers have no more digits than are read,
floating-point numbers are in their usual form, and the keys of an object are distinct. -/
def Readable : Json → Prop
  | .int n => n.natAbs < 10 ^ maxIntDigits
  | .float x => x.Canonical
  | .arr items => ReadableItems items
  | .obj members => (members.map Prod.fst).Nodup ∧ ReadableMembers members
  | .null | .bool _ | .str _ => True

def ReadableItems : List Json → Prop
  | [] => True
  | v :: rest => Readable v ∧ ReadableItems rest

def ReadableMembers : List (String × Json) → Prop
  | [] => True
  | (_, v) :: rest => Readable v ∧ ReadableMembers rest

end

theorem readableItems_iff : ∀ items : List Json, ReadableItems items ↔ ∀ v ∈ items, Readable v
  | [] => by simp [ReadableItems]
  | v :: rest => by
    rw [ReadableItems, readableItems_iff rest, List.forall_mem_cons]

theorem readableMembers_iff : ∀ members : List (String × Json),
    ReadableMembers members ↔ ∀ m ∈ members, Readable m.2
  | [] => by simp [ReadableMembers]
  | (k, v) :: rest => by
    rw [ReadableMembers, readableMembers_iff rest, List.forall_mem_cons]

/-! ### The elements of a value -/

mutual

/-- The elements that a value is written in. -/
def tokens : Json → List Token
  | .arr items => .openArray :: (itemTokens items ++ [.closeArray])
  | .obj members => .openObject :: (memberTokens members ++ [.closeObject])
  | v => [.atom v]

def itemTokens : List Json → List Token
  | [] => []
  | [v] => tokens v
  | v :: rest => tokens v ++ .comma :: itemTokens rest

def memberTokens : List (String × Json) → List Token
  | [] => []
  | [(k, v)] => .atom (.str k) :: .colon :: tokens v
  | (k, v) :: rest => .atom (.str k) :: .colon :: (tokens v ++ .comma :: memberTokens rest)

end

/-! ### Finding the elements -/

/-- Whether a text ends or goes on with a separator or a closing bracket. -/
def Ends (rest : List Char) : Prop :=
  ∀ c, rest.head? = some c → c = ',' ∨ c = ']' ∨ c = '\x7d'

theorem Ends.stops {rest : List Char} (h : Ends rest) : Stops rest := by
  intro c hc
  rcases h c hc with rfl | rfl | rfl <;> decide

theorem ends_cons {c : Char} {rest : List Char} (h : c = ',' ∨ c = ']' ∨ c = '\x7d') :
    Ends (c :: rest) := by
  rintro _ ⟨⟩
  exact h

theorem elements_cons {budget : Nat} {c : Char} {cs rest : List Char} {t : Token}
    (hspace : isSpace c = false) (h : next? (c :: cs) = some (t, rest)) :
    elements (budget + 1) (c :: cs) = (elements budget rest).map (t :: ·) := by
  rw [elements, List.dropWhile_cons_of_neg (by simp [hspace])]
  simp only [h]

theorem elements_space {budget : Nat} {cs : List Char} :
    elements budget (' ' :: cs) = elements budget cs := by
  rw [elements, elements, List.dropWhile_cons_of_pos (by rfl)]

theorem words_not_digits : ∀ m ∈ words, ∃ a b t, m.1.toList = a :: b :: t ∧
    isDigit a = false ∧ isDigit b = false := by
  simp only [words, List.forall_mem_cons]
  exact ⟨⟨_, _, _, rfl, rfl, rfl⟩, ⟨_, _, _, rfl, rfl, rfl⟩, ⟨_, _, _, rfl, rfl, rfl⟩,
    ⟨_, _, _, rfl, rfl, rfl⟩, ⟨_, _, _, rfl, rfl, rfl⟩, ⟨_, _, _, rfl, rfl, rfl⟩, nofun⟩

theorem word?_eq_none {input : List Char} (h : ∀ m ∈ words, ¬ m.1.toList.isPrefixOf input) :
    word? input = none := by
  rw [word?, List.findSome?_eq_none_iff]
  intro m hm
  exact if_neg (h m hm)

theorem word?_digit {c : Char} (hc : isDigit c = true) (cs : List Char) :
    word? (c :: cs) = none ∧ word? ('-' :: c :: cs) = none := by
  refine ⟨word?_eq_none fun m hm hp => ?_, word?_eq_none fun m hm hp => ?_⟩
  · obtain ⟨a, b, t, htext, ha, -⟩ := words_not_digits m hm
    rw [htext, List.isPrefixOf_cons_cons, Bool.and_eq_true, beq_iff_eq] at hp
    rw [hp.1, hc] at ha
    cases ha
  · obtain ⟨a, b, t, htext, -, hb⟩ := words_not_digits m hm
    rw [htext, List.isPrefixOf_cons_cons, List.isPrefixOf_cons_cons, Bool.and_eq_true, Bool.and_eq_true,
      beq_iff_eq, beq_iff_eq] at hp
    rw [hp.2.1, hc] at hb
    cases hb

theorem head_of_number? {negative : Bool} {input : List Char} {x : Json × List Char}
    (h : number? negative input = some x) : ∃ c cs, input = c :: cs ∧ isDigit c = true := by
  cases input with
  | nil => cases h
  | cons c cs =>
    refine ⟨c, cs, rfl, ?_⟩
    by_contra hc
    have hzero : c ≠ '0' := by
      rintro rfl
      exact hc rfl
    have hwhole : whole? (c :: cs) = none := by
      rw [whole?, List.takeWhile_cons_of_neg hc]
      · rfl
      · exact fun _ heq => hzero (List.cons.inj heq).1
    rw [number?, hwhole] at h
    cases h

theorem next?_number {negative : Bool} {input rest : List Char} {v : Json}
    (h : number? negative input = some (v, rest)) :
    next? ((if negative then ['-'] else []) ++ input) = some (.atom v, rest) := by
  obtain ⟨c, cs, rfl, hc⟩ := head_of_number? h
  have hword := word?_digit hc cs
  cases negative with
  | true =>
    simp only [if_true, List.cons_append, List.nil_append]
    rw [next?, hword.2]
    simp only [h, Option.map_some]
  | false =>
    have hne : ∀ d : Char, isDigit d = false → c ≠ d := by
      rintro d hd rfl
      rw [hc] at hd
      cases hd
    simp only [Bool.false_eq_true, if_false, List.nil_append]
    rw [next?, hword.1]
    · simp only [h, Option.map_some]
    all_goals exact fun _ heq => absurd (List.cons.inj heq).1 (hne _ rfl)

/-! ### Atoms -/

theorem toList_toString_int (n : Int) :
    (toString n).toList = (if n < 0 then ['-'] else []) ++ Nat.toDigits 10 n.natAbs := by
  cases n with
  | ofNat n =>
    have hn : ¬ Int.ofNat n < 0 := Int.not_lt.mpr (Int.natCast_nonneg n)
    rw [if_neg hn]
    exact toList_toString n
  | negSucc n =>
    rw [if_pos (Int.negSucc_lt_zero n)]
    show ("-" ++ (n + 1).repr).toList = _
    rw [String.toList_append, Nat.toList_repr]
    rfl

theorem next?_int {n : Int} (hn : n.natAbs < 10 ^ maxIntDigits) {rest : List Char}
    (hrest : Stops rest) : next? ((toString n).toList ++ rest) = some (.atom (.int n), rest) := by
  have hsize : (Nat.toDigits 10 n.natAbs).length ≤ maxIntDigits :=
    (Nat.length_toDigits_le_iff (by omega) (by decide)).mpr hn
  have hvalue : (if decide (n < 0) = true then -(n.natAbs : Int) else n.natAbs) = n := by
    by_cases h : n < 0
    · rw [if_pos (by simpa using h)]; omega
    · rw [if_neg (by simpa using h)]; omega
  have hnum := next?_number (number?_int (decide (n < 0)) hsize hrest)
  rw [hvalue] at hnum
  rw [toList_toString_int, List.append_assoc]
  simpa only [decide_eq_true_eq] using hnum

theorem number?_finite (negative : Bool) {m : Nat} {e : Int} (h : Binary64.Fits m e)
    {rest : List Char} (hrest : Stops rest) :
    number? negative ((if m = 0 then ['0', '.', '0'] else (Binary64.shortest m e).text) ++ rest) =
      some (.float (.finite negative m e), rest) := by
  by_cases hm : m = 0
  · have he : e = Binary64.minExponent := h.normal.resolve_left (by rw [hm]; decide)
    have hwhole : IsWhole ['0'] := ⟨by simp, by simp [AllDigits, isDigit], .inl rfl⟩
    have := number?_point negative hwhole (by simp) hwhole.digits hrest
    rw [if_pos hm, hm, he]
    exact this
  · have hpos := Nat.pos_of_ne_zero hm
    have hnear := (Binary64.near_shortest hpos h).bounds.1
    have hdigits := Binary64.digits_pos_of_value ((Binary64.lower_pos hpos e).trans_le hnear)
    obtain ⟨d, hd, hnum⟩ := number?_decimal negative hdigits hrest
    rw [if_neg hm, hnum, Binary64.ofDecimal_shortest negative hpos h hd]

theorem next?_float {x : Binary64} (hx : x.Canonical) {rest : List Char} (hrest : Stops rest) :
    next? (printFloat x ++ rest) = some (.atom (.float x), rest) := by
  cases x with
  | nan => rfl
  | infinite negative => cases negative <;> rfl
  | finite negative m e =>
    have hnum := next?_number (number?_finite negative hx hrest)
    rw [← List.append_assoc] at hnum
    rw [← hnum]
    congr 2
    show (Binary64.text (.finite negative m e)).toList = _
    rw [Binary64.text, String.toList_append]
    congr 1
    · cases negative <;> rfl
    · by_cases hm : m = 0
      · rw [if_pos hm, if_pos hm]; rfl
      · rw [if_neg hm, if_neg hm, String.toList_ofList]

/-! ### Finding the elements of a value -/

/-- What holds of the text of a value: the lexer finds the value's elements in it, whatever ends it.
-/
def Lexes (text : List Char) (ts : List Token) : Prop :=
  ∀ (budget : Nat) (rest : List Char), Ends rest →
    elements (budget + ts.length) (text ++ rest) = (elements budget rest).map (ts ++ ·)

/-- No element starts with white space. -/
theorem head_of_next? {input : List Char} {x : Token × List Char} (h : next? input = some x) :
    ∃ c cs, input = c :: cs ∧ isSpace c = false := by
  cases input with
  | nil => cases h
  | cons c cs =>
    refine ⟨c, cs, rfl, ?_⟩
    by_contra hspace
    simp only [isSpace, Bool.not_eq_false, Bool.or_eq_true, beq_iff_eq] at hspace
    rcases hspace with ((rfl | rfl) | rfl) | rfl <;> cases h

theorem lexes_single {text : List Char} {t : Token}
    (h : ∀ rest, Ends rest → next? (text ++ rest) = some (t, rest)) : Lexes text [t] := by
  intro budget rest hrest
  obtain ⟨c, cs, htext, hspace⟩ := head_of_next? (h [] (fun _ hc => by cases hc))
  rw [List.append_nil] at htext
  subst htext
  exact elements_cons hspace (h rest hrest)

theorem lexes_bracket {c : Char} {t : Token} {text : List Char} {ts : List Token} {close : Char}
    {t' : Token} (hc : isSpace c = false) (h : ∀ rest, next? (c :: rest) = some (t, rest))
    (hclose : close = ']' ∨ close = '\x7d') (hnext : ∀ rest, next? (close :: rest) = some (t', rest))
    (hts : Lexes text ts) : Lexes (c :: (text ++ [close])) (t :: (ts ++ [t'])) := by
  intro budget rest hrest
  have hspace : isSpace close = false := by rcases hclose with rfl | rfl <;> rfl
  have hends : Ends (close :: rest) := ends_cons (.inr hclose)
  have hlen : budget + (t :: (ts ++ [t'])).length = budget + 1 + ts.length + 1 := by
    simp only [List.length_cons, List.length_append, List.length_nil]
    omega
  rw [hlen, List.cons_append, List.append_assoc, List.singleton_append,
    elements_cons hc (h _), hts (budget + 1) _ hends, elements_cons hspace (hnext rest)]
  cases elements budget rest <;> simp

theorem lexes_comma {a b : List Char} {ts us : List Token} (ha : Lexes a ts) (hb : Lexes b us) :
    Lexes (a ++ ", ".toList ++ b) (ts ++ .comma :: us) := by
  intro budget rest hrest
  have hends : Ends (',' :: ' ' :: (b ++ rest)) := ends_cons (.inl rfl)
  have hlen : budget + (ts ++ .comma :: us).length = budget + us.length + 1 + ts.length := by
    simp only [List.length_cons, List.length_append]
    omega
  have htext : a ++ ", ".toList ++ b ++ rest = a ++ ',' :: ' ' :: (b ++ rest) := by
    simp
  have hcomma : next? (',' :: ' ' :: (b ++ rest)) = some (.comma, ' ' :: (b ++ rest)) := rfl
  rw [hlen, htext, ha _ _ hends, elements_cons rfl hcomma, elements_space, hb budget rest hrest]
  cases elements budget rest <;> simp

theorem lexes_member {k : String} {b : List Char} {us : List Token} (hb : Lexes b us) :
    Lexes (printText k ++ ": ".toList ++ b) (.atom (.str k) :: .colon :: us) := by
  intro budget rest hrest
  have hlen : budget + (Token.atom (.str k) :: .colon :: us).length = budget + us.length + 1 + 1 := by
    simp only [List.length_cons]
    omega
  have htext : printText k ++ ": ".toList ++ b ++ rest = printText k ++ ':' :: ' ' :: (b ++ rest) := by
    simp
  have hcolon : next? (':' :: ' ' :: (b ++ rest)) = some (.colon, ' ' :: (b ++ rest)) := rfl
  have hkey : next? (printText k ++ ':' :: ' ' :: (b ++ rest)) = _ := next?_printText k
  rw [hlen, htext]
  rw [printText, List.cons_append, List.cons_append] at hkey ⊢
  rw [elements_cons rfl hkey, elements_cons rfl hcolon, elements_space, hb budget rest hrest]
  cases elements budget rest <;> simp

theorem lexes_nil : Lexes [] [] := by
  intro budget rest _
  simp

mutual

theorem lexes_print : ∀ v : Json, Readable v → Lexes (print v) (tokens v)
  | .null, _ => lexes_single fun _ _ => rfl
  | .bool true, _ => lexes_single fun _ _ => rfl
  | .bool false, _ => lexes_single fun _ _ => rfl
  | .int _, h => lexes_single fun _ hrest => next?_int h hrest.stops
  | .float _, h => lexes_single fun _ hrest => next?_float h hrest.stops
  | .str s, _ => lexes_single fun _ _ => next?_printText s
  | .arr items, h => by
    rw [Readable] at h
    rw [print, tokens]
    exact lexes_bracket rfl (fun _ => rfl) (.inl rfl) (fun _ => rfl) (lexes_printItems items h)
  | .obj members, h => by
    rw [Readable] at h
    rw [print, tokens]
    exact lexes_bracket rfl (fun _ => rfl) (.inr rfl) (fun _ => rfl)
      (lexes_printMembers members h.2)

theorem lexes_printItems : ∀ items : List Json, ReadableItems items →
    Lexes (printItems items) (itemTokens items)
  | [], _ => lexes_nil
  | [v], h => by
    rw [printItems, itemTokens]
    exact lexes_print v h.1
  | v :: w :: rest, h => by
    rw [printItems, itemTokens]
    · exact lexes_comma (lexes_print v h.1) (lexes_printItems (w :: rest) h.2)
    all_goals nofun

theorem lexes_printMembers : ∀ members : List (String × Json), ReadableMembers members →
    Lexes (printMembers members) (memberTokens members)
  | [], _ => lexes_nil
  | [(k, v)], h => by
    rw [printMembers, memberTokens]
    exact lexes_member (lexes_print v h.1)
  | (k, v) :: m :: rest, h => by
    rw [printMembers, memberTokens]
    · exact lexes_comma (lexes_member (lexes_print v h.1)) (lexes_printMembers (m :: rest) h.2)
    all_goals nofun

end

/-! ### Putting the elements together -/

theorem put_of_not_mem {k : String} {v : Json} : ∀ {ms : List (String × Json)},
    k ∉ ms.map Prod.fst → put k v ms = ms ++ [(k, v)]
  | [], _ => rfl
  | (l, w) :: ms, h => by
    rw [List.map_cons, List.mem_cons, not_or] at h
    have hl : ¬ l = k := fun he => h.1 he.symm
    rw [put, if_neg hl, put_of_not_mem h.2, List.cons_append]

theorem ofMembers_of_nodup {ms : List (String × Json)} (h : (ms.map Prod.fst).Nodup) :
    ofMembers ms = .obj ms := by
  have hfold : ∀ (ms acc : List (String × Json)), ((acc ++ ms).map Prod.fst).Nodup →
      ms.foldl (fun acc m => put m.1 m.2 acc) acc = acc ++ ms := by
    intro ms
    induction ms with
    | nil => intro acc _; simp
    | cons m ms ih =>
      intro acc hnodup
      have hm : m.1 ∉ acc.map Prod.fst := by
        intro hmem
        simp only [List.map_append, List.map_cons, List.nodup_append] at hnodup
        exact hnodup.2.2 _ hmem _ List.mem_cons_self rfl
      rw [List.foldl_cons, put_of_not_mem hm, ih]
      · simp
      · simpa using hnodup
  rw [ofMembers]
  congr 1
  simpa using hfold ms [] (by simpa using h)

def Expect.wantsValue : Expect → Prop
  | .value | .item => True
  | _ => False

section Moves

variable {stack : List Frame} {ex : Expect} {ts : List Token}

theorem assemble_atom {v : Json} (h : ex.wantsValue) :
    assemble stack ex (.atom v :: ts) = assemble stack (.after v) ts := by
  cases ex <;> first | (cases stack <;> rfl) | cases h

theorem assemble_openArray (h : ex.wantsValue) :
    assemble stack ex (.openArray :: ts) = assemble (.array [] :: stack) .item ts := by
  cases ex <;> first | (cases stack <;> rfl) | cases h

theorem assemble_openObject (h : ex.wantsValue) :
    assemble stack ex (.openObject :: ts) = assemble stack .member ts := by
  cases ex <;> first | (cases stack <;> rfl) | cases h

theorem assemble_emptyObject :
    assemble stack .member (.closeObject :: ts) = assemble stack (.after (.obj [])) ts := by
  cases stack <;> rfl

theorem assemble_firstKey {k : String} :
    assemble stack .member (.atom (.str k) :: ts) = assemble stack (.colon [] k) ts := by
  cases stack <;> rfl

theorem assemble_key {acc : List (String × Json)} {k : String} :
    assemble stack (.key acc) (.atom (.str k) :: ts) = assemble stack (.colon acc k) ts := by
  cases stack <;> rfl

theorem assemble_colon {acc : List (String × Json)} {k : String} :
    assemble stack (.colon acc k) (.colon :: ts) = assemble (.object acc k :: stack) .value ts := by
  cases stack <;> rfl

end Moves

mutual

/-- The elements of a value are put together to the value, wherever one may come next. -/
theorem assemble_tokens : ∀ (v : Json) (stack : List Frame) (ex : Expect) (ts : List Token),
    Readable v → ex.wantsValue → assemble stack ex (tokens v ++ ts) = assemble stack (.after v) ts
  | .arr items, stack, ex, ts, h, hex => by
    rw [tokens, List.cons_append, List.append_assoc, assemble_openArray hex]
    cases items with
    | nil => rfl
    | cons v rest =>
      rw [Readable] at h
      exact assemble_itemTokens (v :: rest) [] stack .item ts h trivial (by simp)
  | .obj members, stack, ex, ts, h, hex => by
    rw [tokens, List.cons_append, List.append_assoc, assemble_openObject hex]
    cases members with
    | nil => exact assemble_emptyObject
    | cons m rest =>
      rw [Readable] at h
      have := assemble_memberTokens (m :: rest) [] stack .member ts h.2
        (fun _ _ => assemble_firstKey) (by simp)
      rwa [List.reverse_nil, List.nil_append, ofMembers_of_nodup h.1] at this
  | .null, _, _, _, _, hex | .bool _, _, _, _, _, hex | .int _, _, _, _, _, hex
  | .float _, _, _, _, _, hex | .str _, _, _, _, _, hex => assemble_atom hex

theorem assemble_itemTokens : ∀ (items acc : List Json) (stack : List Frame) (ex : Expect)
    (ts : List Token), ReadableItems items → ex.wantsValue → items ≠ [] →
    assemble (.array acc :: stack) ex (itemTokens items ++ ([.closeArray] ++ ts)) =
      assemble stack (.after (.arr (acc.reverse ++ items))) ts
  | [], _, _, _, _, _, _, hne => absurd rfl hne
  | [v], acc, stack, ex, ts, h, hex, _ => by
    rw [itemTokens, assemble_tokens v _ ex _ h.1 hex]
    show assemble stack (.after (.arr (v :: acc).reverse)) ts = _
    rw [List.reverse_cons]
  | v :: w :: rest, acc, stack, ex, ts, h, hex, _ => by
    rw [itemTokens, List.append_assoc, assemble_tokens v _ ex _ h.1 hex, List.cons_append]
    · show assemble (.array (v :: acc) :: stack) .value _ = _
      rw [assemble_itemTokens (w :: rest) (v :: acc) stack .value ts h.2 trivial (by simp),
        List.reverse_cons, List.append_assoc]
      rfl
    all_goals nofun

theorem assemble_memberTokens : ∀ (ms acc : List (String × Json)) (stack : List Frame)
    (ex : Expect) (ts : List Token), ReadableMembers ms →
    (∀ k us, assemble stack ex (.atom (.str k) :: us) = assemble stack (.colon acc k) us) →
    ms ≠ [] →
    assemble stack ex (memberTokens ms ++ ([.closeObject] ++ ts)) =
      assemble stack (.after (ofMembers (acc.reverse ++ ms))) ts
  | [], _, _, _, _, _, _, hne => absurd rfl hne
  | [(k, v)], acc, stack, ex, ts, h, hex, _ => by
    rw [memberTokens, List.cons_append, hex, List.cons_append, assemble_colon,
      assemble_tokens v _ .value _ h.1 trivial]
    show assemble stack (.after (ofMembers ((k, v) :: acc).reverse)) ts = _
    rw [List.reverse_cons]
  | (k, v) :: m :: rest, acc, stack, ex, ts, h, hex, _ => by
    rw [memberTokens, List.cons_append, hex, List.cons_append, List.append_assoc, assemble_colon,
      assemble_tokens v _ .value _ h.1 trivial, List.cons_append]
    · show assemble stack (.key ((k, v) :: acc)) _ = _
      rw [assemble_memberTokens (m :: rest) ((k, v) :: acc) stack (.key ((k, v) :: acc)) ts h.2
        (fun _ _ => assemble_key) (by simp), List.reverse_cons, List.append_assoc]
      rfl
    all_goals nofun

end

/-! ### Reading what was printed -/

theorem length_pos_of_lexes {text : List Char} {t : Token} (h : Lexes text [t]) :
    1 ≤ text.length := by
  cases text with
  | nil =>
    have h0 := h 0 [] (fun _ hc => by cases hc)
    cases h0
  | cons c cs => simp

mutual

/-- Every element takes at least one character. -/
theorem length_tokens_le : ∀ v : Json, Readable v → (tokens v).length ≤ (print v).length
  | .arr items, h => by
    rw [Readable] at h
    have := length_itemTokens_le items h
    simp only [tokens, print, List.length_cons, List.length_append, List.length_nil]
    omega
  | .obj members, h => by
    rw [Readable] at h
    have := length_memberTokens_le members h.2
    simp only [tokens, print, List.length_cons, List.length_append, List.length_nil]
    omega
  | .null, h => length_pos_of_lexes (lexes_print .null h)
  | .bool b, h => length_pos_of_lexes (lexes_print (.bool b) h)
  | .int n, h => length_pos_of_lexes (lexes_print (.int n) h)
  | .float x, h => length_pos_of_lexes (lexes_print (.float x) h)
  | .str s, h => length_pos_of_lexes (lexes_print (.str s) h)

theorem length_itemTokens_le : ∀ items : List Json, ReadableItems items →
    (itemTokens items).length ≤ (printItems items).length
  | [], _ => Nat.zero_le _
  | [v], h => by
    rw [itemTokens, printItems]
    exact length_tokens_le v h.1
  | v :: w :: rest, h => by
    have hv := length_tokens_le v h.1
    have hrest := length_itemTokens_le (w :: rest) h.2
    have hcomma : ", ".toList.length = 2 := rfl
    rw [itemTokens, printItems]
    · simp only [List.length_append, List.length_cons]
      omega
    all_goals nofun

theorem length_memberTokens_le : ∀ members : List (String × Json), ReadableMembers members →
    (memberTokens members).length ≤ (printMembers members).length
  | [], _ => Nat.zero_le _
  | [(k, v)], h => by
    have hv := length_tokens_le v h.1
    have hcolon : ": ".toList.length = 2 := rfl
    rw [memberTokens, printMembers]
    simp only [List.length_append, List.length_cons]
    omega
  | (k, v) :: m :: rest, h => by
    have hv := length_tokens_le v h.1
    have hrest := length_memberTokens_le (m :: rest) h.2
    have hcolon : ": ".toList.length = 2 := rfl
    have hcomma : ", ".toList.length = 2 := rfl
    rw [memberTokens, printMembers]
    · simp only [List.length_append, List.length_cons]
      omega
    all_goals nofun

end

theorem elements_print {v : Json} (h : Readable v) :
    elements (print v).length (print v) = some (tokens v) := by
  have hlen := length_tokens_le v h
  have hlex := lexes_print v h ((print v).length - (tokens v).length) [] (fun _ hc => by cases hc)
  rw [Nat.sub_add_cancel hlen, List.append_nil] at hlex
  rw [hlex]
  generalize (print v).length - (tokens v).length = budget
  cases budget <;> simp [elements]

/-- Reading the written form of a value gives the value back. -/
theorem read_print {v : Json} (h : Readable v) : read (print v) = some v := by
  rw [read, elements_print h]
  have := assemble_tokens v [] .value [] h trivial
  rw [List.append_nil] at this
  exact this

end Coffer.Json
