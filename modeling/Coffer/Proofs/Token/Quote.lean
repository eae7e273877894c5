import Coffer.Proofs.Token.Scan

/-!
Quoting and reading are inverse. Escaping writes a text so that `Unescapes` leads back to it, one
character at a time: every backslash and every quote in the text has a backslash of its own in
front. So a run of them, however long, is taken apart the way it was made, and no quote but the last
one closes the literal, whatever stands behind that.

Main statement: `step_quote_iff`.
-/

namespace Coffer.Token

theorem drop_front (front s behind : String) :
    (front ++ quote s ++ behind).toList.drop front.length =
      (quote s).toList ++ behind.toList := by
  rw [String.append_assoc, String.toList_append, String.toList_append, ← String.length_toList,
    List.drop_left]

theorem drop_quote (front s behind : String) :
    (front ++ quote s ++ behind).toList.drop (front ++ quote s).length = behind.toList := by
  rw [String.toList_append, ← String.length_toList, List.drop_left]

theorem isTrimmed_quote (s : String) (rest : List Char) :
    IsTrimmed ((quote s).toList ++ rest) := by
  have hhead : ((quote s).toList ++ rest).head? = some '\'' := by simp [quote]
  rw [IsTrimmed, hhead]
  intro c hc
  cases hc
  rfl

theorem isLegible_of_step {s : String} {pos position next : Nat} {input rest : List Char}
    (hinput : IsTrimmed input) (h : step pos input = .emit ⟨.literal, s, position⟩ next rest) :
    IsLegible s := by
  obtain ⟨source, -, hspan, -, -⟩ := isSpan_of_step hinput h
  exact hspan.areLegible_text (.inr rfl)

/-- **Quoting and reading are inverse.** Just for the texts that can be shown, the following holds:
where the quoted text stands in an input, with anything in front of it and behind it, the scanner
yields the text as a literal at the offset of the opening quote, and goes on directly behind the
closing one. -/
theorem step_quote_iff (front s behind : String) :
    IsLegible s ↔
      let input := (front ++ quote s ++ behind).toList
      let start := front.length
      let next := (front ++ quote s).length
      step start (input.drop start) = .emit ⟨.literal, s, start⟩ next (input.drop next) ∧
        input.drop next = behind.toList := by
  dsimp only
  rw [drop_front, drop_quote]
  constructor
  · intro hs
    have hspan : IsSpan behind.toList (quote s).toList .literal s.toList := isSpan_quote hs
    have hlength : (front ++ quote s).length = front.length + (quote s).toList.length := by
      rw [String.length_toList, ← String.length_append]
    have hstep := step_of_isSpan front.length hspan
    rw [String.ofList_toList, ← hlength] at hstep
    exact ⟨hstep, rfl⟩
  · rintro ⟨hstep, -⟩
    exact isLegible_of_step (isTrimmed_quote s behind.toList) hstep

/-- A text that ends in a backslash, with another quoted text directly behind it. -/
example : tokenize ("a=" ++ quote "it's \\" ++ quote "'") =
    .ok [⟨.identifier, "a", 0⟩, ⟨.punctuation, "=", 1⟩, ⟨.literal, "it's \\", 2⟩,
      ⟨.literal, "'", 12⟩, .stop 16] := by
  decide +kernel

end Coffer.Token
