import Coffer.Json.Printer
import Coffer.Json.Token

/-!
Texts read back: the reader undoes the escapes that the printer writes, character by character.
-/

namespace Coffer.Json

variable {before rest : List Char}

theorem hexValue?_hexDigit : ∀ n : Nat, n < 16 → hexValue? (Text.hexDigit n) = some n := by
  decide

/-- Four hexadecimal digits are read as the number they were written for. -/
theorem hex4?_hexPadded {n : Nat} (hn : n < 0x10000) : ∃ a b c d : Char,
    Text.hexPadded 4 n = [a, b, c, d] ∧ hex4? a b c d = some n := by
  refine ⟨_, _, _, _, rfl, ?_⟩
  simp only [hex4?, hexValue?_hexDigit _ (Nat.mod_lt _ (by decide)), Option.bind_eq_bind,
    Option.bind_some, Option.pure_def, Option.some.injEq]
  omega

theorem text_close : text before ('"' :: rest) = some (before.reverse, rest) := by
  rw [text.eq_def]
  simp

theorem text_simple {e c : Char} (he : e ≠ 'u') (h : simpleEscape? e = some c) :
    text before ('\\' :: e :: rest) = text (c :: before) rest := by
  rw [text.eq_def]
  split
  · next heq => cases heq
  · next heq => exact absurd (List.cons.inj heq).1 (by decide)
  · next heq =>
    obtain ⟨-, htail⟩ := List.cons.inj heq
    exact absurd (List.cons.inj htail).1 he
  · next heq =>
    obtain ⟨-, htail⟩ := List.cons.inj heq
    obtain ⟨rfl, rfl⟩ := List.cons.inj htail
    rw [h]
  · next hno heq =>
    obtain ⟨rfl, rfl⟩ := List.cons.inj heq
    exact absurd rfl (hno e rest rfl)

theorem text_unit {n : Nat} (hn : n < 0xD800) :
    text before ('\\' :: 'u' :: (Text.hexPadded 4 n ++ rest)) = text (Char.ofNat n :: before) rest := by
  obtain ⟨a, b, c, d, hdigits, hvalue⟩ := hex4?_hexPadded (n := n) (by omega)
  have hchar : unitChar n = Char.ofNat n := if_neg (by omega)
  rw [hdigits, List.cons_append, List.cons_append, List.cons_append, List.cons_append,
    List.nil_append, text.eq_def]
  simp only [hvalue, hchar]
  rw [if_neg (by omega)]

theorem text_plain {c : Char} (hquote : c ≠ '"') (hslash : c ≠ '\\') (hlow : ¬c.toNat < 0x20) :
    text before (c :: rest) = text (c :: before) rest := by
  rw [text]
  · rw [if_neg (not_or.mpr ⟨hlow, hslash⟩)]
  · exact fun h => hquote h
  · exact fun _ _ _ _ _ h => absurd h hslash
  · exact fun _ _ h => absurd h hslash

theorem text_escape (c : Char) : text before (escape c ++ rest) = text (c :: before) rest := by
  by_cases hquote : c = '"'
  · subst hquote
    exact text_simple (by decide) rfl
  by_cases hslash : c = '\\'
  · subst hslash
    exact text_simple (by decide) rfl
  by_cases hn : c = '\n'
  · subst hn
    exact text_simple (by decide) rfl
  by_cases hr : c = '\r'
  · subst hr
    exact text_simple (by decide) rfl
  by_cases ht : c = '\t'
  · subst ht
    exact text_simple (by decide) rfl
  by_cases hb : c = '\x08'
  · subst hb
    exact text_simple (by decide) rfl
  by_cases hf : c = '\x0c'
  · subst hf
    exact text_simple (by decide) rfl
  -- The characters with an escape of their own are done.
  rw [escape, if_neg hquote, if_neg hslash, if_neg hn, if_neg hr, if_neg ht, if_neg hb, if_neg hf]
  by_cases hlow : c.toNat < 0x20
  · rw [if_pos hlow]
    have h : text before ('\\' :: 'u' :: (Text.hexPadded 4 c.toNat ++ rest)) =
        text (Char.ofNat c.toNat :: before) rest := text_unit (by omega)
    rwa [Char.ofNat_toNat] at h
  · rw [if_neg hlow]
    exact text_plain hquote hslash hlow

theorem text_escapes : ∀ (cs before : List Char),
    text before (cs.flatMap escape ++ '"' :: rest) = some (before.reverse ++ cs, rest)
  | [], before => by simp [text_close]
  | c :: cs, before => by
    rw [List.flatMap_cons, List.append_assoc, text_escape, text_escapes cs]
    simp

theorem next?_printText (s : String) :
    next? (printText s ++ rest) = some (.atom (.str s), rest) := by
  have h : text [] (s.toList.flatMap escape ++ '"' :: rest) = _ := text_escapes s.toList []
  simp only [printText, List.cons_append, List.append_assoc, List.nil_append, next?, h,
    Option.map_some, List.reverse_nil, String.ofList_toList]

end Coffer.Json
