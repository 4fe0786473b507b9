import PadMapping.Json.Value
import PadMapping.Proofs.Json.Phrase

/-!
# The tokens of a printed value

A value is printed with blanks and line ends between its parts, or without. The text is written for
the same tokens either way, those of the phrase that `phraseOf` gives: layout leaves no trace.
-/

namespace PadMapping.Proofs

open Json

/-! ## Quoted texts -/

/-- The pieces of a text in which no character is halved. -/
def piecesOf (s : String) : List Piece := s.toList.map .char

/-- A control character is escaped by its code in four digits. -/
theorem pieceForm_unit {n : Nat} (h : n < 0x20) :
    PieceForm (.char (Char.ofNat n)) (['\\', 'u'] ++ Text.hexPadded 4 n) := by
  have hsmall : n < Nat.pow 16 4 := Nat.lt_of_lt_of_le h (by decide)
  have hlength : (Text.hexPadded 4 n).length = 4 := length_hexPadded hsmall (by decide)
  have hread := hexDigits?_hexPadded 4 n
  have hunit : Piece.ofUnit n = .char (Char.ofNat n) := by
    rw [Piece.ofUnit, if_neg (by omega), if_neg (by omega)]
  obtain ⟨a, b, c, d, hcode⟩ : ∃ a b c d, Text.hexPadded 4 n = [a, b, c, d] :=
    match Text.hexPadded 4 n, hlength with
    | [a, b, c, d], _ => ⟨a, b, c, d, rfl⟩
  rw [hcode] at hread ⊢
  rw [← hunit]
  exact .unit hread

/-- One character of a text is printed in one of its forms. -/
theorem pieceForm_escaped (c : Char) : PieceForm (.char c) (escaped c) := by
  unfold escaped
  split
  case h_8 hquote hbackslash _ _ _ _ _ =>
    split
    · rename_i hcode
      have hform := pieceForm_unit hcode
      rwa [Char.ofNat_toNat] at hform
    · rename_i hcode
      exact .plain hquote hbackslash hcode
  -- the short escapes are found by their letter
  all_goals exact .letter rfl

theorem quotedForm_escapes (cs : List Char) :
    QuotedForm (cs.map .char) (cs.flatMap escaped ++ ['"']) := by
  induction cs with
  | nil => exact .close
  | cons c cs ih =>
      rw [List.map_cons, List.flatMap_cons, List.append_assoc]
      exact .piece (pieceForm_escaped c) ih

theorem tokenForm_quoted (s : String) : TokenForm (.text (piecesOf s) none) (quoted s) :=
  .text (quotedForm_escapes s.toList)

/-! ## Numbers -/

/-- The numeral that a number is printed as. -/
def numeralOf (n : Nat) : Numeral := ⟨false, Nat.toDigits 10 n, [], none⟩

theorem wholeForm_decimal (n : Nat) : WholeForm (Nat.toDigits 10 n) := by
  by_cases hzero : (Nat.toDigits 10 n).head? = some '0'
  · obtain ⟨more, hdigits⟩ := List.head?_eq_some_iff.mp hzero
    rw [hdigits, eq_nil_of_decimal hdigits]
    exact .zero
  · exact .digits ⟨Nat.toDigits_ne_nil, fun c hc => isDigit_of_mem_decimal hc⟩ hzero

theorem tokenForm_decimal (n : Nat) :
    TokenForm (.number (.ok (numeralOf n))) (Nat.toDigits 10 n) := by
  have hform : NumberForm (numeralOf n) ([] ++ (Nat.toDigits 10 n ++ ([] ++ []))) :=
    .mk (wholeForm_decimal n) .none .none
  simp only [List.nil_append, List.append_nil] at hform
  exact .number hform

/-! ## Values -/

mutual

/-- A value as a phrase. -/
def phraseOf : Value → Phrase
  | .natural n => .number (numeralOf n)
  | .text s => .text (piecesOf s)
  | .array items => .array (phrasesOf items)
  | .object members => .object (memberPhrasesOf members)

/-- Items as phrases. -/
def phrasesOf : List Value → List Phrase
  | [] => []
  | item :: rest => phraseOf item :: phrasesOf rest

/-- Members with phrases as values. -/
def memberPhrasesOf : List (String × Value) → List (List Piece × Phrase)
  | [] => []
  | (key, value) :: rest => (piecesOf key, phraseOf value) :: memberPhrasesOf rest

end

theorem written_token {t : Token} {cs : List Char} (h : TokenForm t cs) : Written [t] cs := by
  rw [← List.append_nil cs]
  exact .token h .nil

/-- Layout is only space. -/
theorem written_newline (layout : Layout) (level : Nat) : Written [] (layout.newline level) := by
  cases layout with
  | compact => exact .nil
  | indented =>
      have hblanks : ∀ n, Written [] (List.replicate n ' ') := by
        intro n
        induction n with
        | zero => exact .nil
        | succ n ih => exact .space rfl ih
      exact .space rfl (hblanks _)

theorem written_colon (layout : Layout) : Written [.colon] layout.colon := by
  cases layout with
  | compact => exact .token .colon .nil
  | indented => exact .token .colon (.space rfl .nil)

mutual

/-- **A printed value is written for its tokens**, whatever its layout. -/
theorem written_print (layout : Layout) : ∀ (v : Value) (level : Nat),
    Written (phraseOf v).tokens (v.print layout level)
  | .natural n, level => by
      rw [Value.print, phraseOf, Phrase.tokens]
      exact written_token (tokenForm_decimal n)
  | .text s, level => by
      rw [Value.print, phraseOf, Phrase.tokens]
      exact written_token (tokenForm_quoted s)
  | .array [], level => by
      rw [Value.print, phraseOf, phrasesOf, Phrase.tokens]
      exact .token .openArray (written_token .closeArray)
  | .array (item :: items), level => by
      have hend := (written_newline layout level).append (written_token .closeArray)
      have hitems := (written_print layout item (level + 1)).append
        ((written_printItems layout items (level + 1)).append hend)
      rw [Value.print, phraseOf, phrasesOf, Phrase.tokens]
      simp only [List.append_assoc, List.cons_append]
      exact .token .openArray ((written_newline layout (level + 1)).append hitems)
  | .object [], level => by
      rw [Value.print, phraseOf, memberPhrasesOf, Phrase.tokens]
      exact .token .openObject (written_token .closeObject)
  | .object ((key, value) :: members), level => by
      have hend := (written_newline layout level).append (written_token .closeObject)
      have hmembers := (written_print layout value (level + 1)).append
        ((written_printMembers layout members (level + 1)).append hend)
      have hkey := Written.token (tokenForm_quoted key) ((written_colon layout).append hmembers)
      rw [Value.print, phraseOf, memberPhrasesOf, Phrase.tokens]
      simp only [List.append_assoc, List.cons_append]
      exact .token .openObject ((written_newline layout (level + 1)).append hkey)

theorem written_printItems (layout : Layout) : ∀ (items : List Value) (level : Nat),
    Written (Phrase.itemTokens (phrasesOf items)) (printItems layout level items)
  | [], level => .nil
  | item :: items, level => by
      have hitems := (written_print layout item level).append
        (written_printItems layout items level)
      rw [printItems, phrasesOf, Phrase.itemTokens]
      simp only [List.append_assoc, List.cons_append]
      exact .token .comma ((written_newline layout level).append hitems)

theorem written_printMembers (layout : Layout) : ∀ (members : List (String × Value)) (level : Nat),
    Written (Phrase.memberTokens (memberPhrasesOf members)) (printMembers layout level members)
  | [], level => .nil
  | (key, value) :: members, level => by
      have hmembers := (written_print layout value level).append
        (written_printMembers layout members level)
      have hkey := Written.token (tokenForm_quoted key) ((written_colon layout).append hmembers)
      rw [printMembers, memberPhrasesOf, Phrase.memberTokens]
      simp only [List.append_assoc, List.cons_append]
      exact .token .comma ((written_newline layout level).append hkey)

end

theorem written_render (layout : Layout) (v : Value) :
    Written (phraseOf v).tokens (v.render layout).toList := by
  rw [Value.render, String.toList_ofList]
  exact written_print layout v 0

end PadMapping.Proofs
