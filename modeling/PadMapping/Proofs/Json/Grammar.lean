import Mathlib.Data.List.Chain
import PadMapping.Json.Token
import PadMapping.Proofs.Text.Digits

/-!
# The grammar of tokens

What may stand in a text for a token, and between tokens, said without the scanner. A quoted text
may spell each of its pieces in several ways, a number has one spelling up to the letter and the
sign of its exponent, and any white space may come between two tokens.

The scanner reads exactly this: a text that is `Written` for a list of tokens is cut into these
tokens, and every text that is cut without a break is written for the tokens it is cut into. The one
thing to watch is a number, since it ends only where it cannot go on. Two numbers next to each other
would run together, so the first half asks for lists of tokens in which that does not happen.
-/

namespace PadMapping.Proofs

open Json

/-! ## Quoted texts -/

/-- How a piece of a quoted text may be spelled. -/
inductive PieceForm : Piece → List Char → Prop where
  /-- A character may stand for itself, unless it is the quote, the backslash or a control
  character. -/
  | plain {c : Char} (hquote : c ≠ '"') (hbackslash : c ≠ '\\') (hcode : ¬ c.toNat < 0x20) :
      PieceForm (.char c) [c]
  /-- Some characters have a letter of their own. -/
  | letter {l c : Char} (hletter : unescaped? l = some c) : PieceForm (.char c) ['\\', l]
  /-- Every code unit can be given by four digits of either case. -/
  | unit {a b c d : Char} {n : Nat} (hdigits : Text.hexDigits? [a, b, c, d] = some n) :
      PieceForm (.ofUnit n) ['\\', 'u', a, b, c, d]

/-- How pieces may be spelled together with the quote that ends them. -/
inductive QuotedForm : List Piece → List Char → Prop where
  | close : QuotedForm [] ['"']
  | piece {p : Piece} {ps : List Piece} {front rest : List Char} (hpiece : PieceForm p front)
      (hrest : QuotedForm ps rest) : QuotedForm (p :: ps) (front ++ rest)

theorem scanText_of_pieceForm {p : Piece} {front : List Char} (h : PieceForm p front)
    (rest : List Char) :
    scanText (front ++ rest) = (p :: (scanText rest).1, (scanText rest).2) := by
  cases h with
  | plain hquote hbackslash hcode =>
      rw [List.singleton_append, scanText, if_neg hcode]
      · exact fun h => hquote h
      · exact fun h _ => hbackslash h
      · exact fun _ _ _ _ _ h _ => hbackslash h
      · exact fun _ h _ => hbackslash h
      · exact fun _ _ h _ => hbackslash h
  | @letter l c hletter =>
      -- the letter of a code unit has no character of its own
      have hunit : l ≠ 'u' := by
        rintro rfl
        simp [unescaped?] at hletter
      show scanText ('\\' :: l :: rest) = _
      rw [scanText, hletter]
      · exact fun _ _ _ _ _ h _ => hunit h
      · exact fun h => hunit h
  | unit hdigits =>
      show scanText ('\\' :: 'u' :: _ :: _ :: _ :: _ :: rest) = _
      rw [scanText, hdigits]

theorem scanText_of_quotedForm {ps : List Piece} {cs : List Char} (h : QuotedForm ps cs)
    (more : List Char) : scanText (cs ++ more) = (ps, none, more) := by
  induction h with
  | close => rw [List.singleton_append, scanText]
  | piece hpiece _ ih => rw [List.append_assoc, scanText_of_pieceForm hpiece, ih]

/-- What is scanned without a break is spelled as it should be. -/
theorem quotedForm_of_scanText {cs after : List Char} {ps : List Piece}
    (h : scanText cs = (ps, none, after)) : ∃ front, cs = front ++ after ∧ QuotedForm ps front := by
  fun_induction scanText cs generalizing ps after with
  | case2 rest =>
      cases h
      exact ⟨['"'], rfl, .close⟩
  | case5 a b c d rest n hdigits pieces broken after' hscan ih =>
      cases h
      obtain ⟨front, rfl, hform⟩ := ih hscan
      exact ⟨'\\' :: 'u' :: a :: b :: c :: d :: front, rfl, .piece (.unit hdigits) hform⟩
  | case8 c rest _ _ plain hletter pieces broken after' hscan ih =>
      cases h
      obtain ⟨front, rfl, hform⟩ := ih hscan
      exact ⟨'\\' :: c :: front, rfl, .piece (.letter hletter) hform⟩
  | case10 c rest hquote hend _ _ hmore hcode pieces broken after' hscan ih =>
      cases h
      have hbackslash : c ≠ '\\' := by
        intro hc
        cases rest with
        | nil => exact hend hc rfl
        | cons d rest => exact hmore d rest hc rfl
      obtain ⟨front, rfl, hform⟩ := ih hscan
      exact ⟨c :: front, rfl, .piece (.plain hquote hbackslash hcode) hform⟩
  | _ => cases h

/-! ## Numbers -/

/-- With such a character a number goes on. -/
def goesOn (c : Char) : Bool := c.isDigit || c == '.' || c == 'e' || c == 'E'

/-- A run of digits. -/
structure Digits (ds : List Char) : Prop where
  ne_nil : ds ≠ []
  isDigit : ∀ c ∈ ds, c.isDigit = true

/-- The digits in front of the point: no zero comes before others. -/
inductive WholeForm : List Char → Prop where
  | zero : WholeForm ['0']
  | digits {ds : List Char} (hdigits : Digits ds) (hfirst : ds.head? ≠ some '0') : WholeForm ds

/-- How the digits after the point are spelled together with the point. -/
inductive FractionForm : List Char → List Char → Prop where
  | none : FractionForm [] []
  | point {ds : List Char} (hdigits : Digits ds) : FractionForm ds ('.' :: ds)

/-- How the sign of an exponent is spelled. -/
inductive SignForm : Bool → List Char → Prop where
  | none : SignForm false []
  | plus : SignForm false ['+']
  | minus : SignForm true ['-']

/-- How an exponent is spelled together with its letter. -/
inductive ExponentForm : Option (Bool × List Char) → List Char → Prop where
  | none : ExponentForm none []
  | some {letter : Char} {negative : Bool} {sign ds : List Char}
      (hletter : letter = 'e' ∨ letter = 'E') (hsign : SignForm negative sign)
      (hdigits : Digits ds) : ExponentForm (some (negative, ds)) (letter :: (sign ++ ds))

/-- How a number is spelled. -/
inductive NumberForm : Numeral → List Char → Prop where
  | mk {negative : Bool} {whole ds fraction letters : List Char}
      {exponent : Option (Bool × List Char)} (hwhole : WholeForm whole)
      (hfraction : FractionForm ds fraction) (hexponent : ExponentForm exponent letters) :
      NumberForm ⟨negative, whole, ds, exponent⟩
        ((if negative then ['-'] else []) ++ (whole ++ (fraction ++ letters)))

theorem Digits.exists_cons {ds : List Char} (h : Digits ds) :
    ∃ c rest, ds = c :: rest ∧ c.isDigit = true := by
  obtain ⟨c, rest, rfl⟩ := List.exists_cons_of_ne_nil h.ne_nil
  exact ⟨c, rest, rfl, h.isDigit c List.mem_cons_self⟩

theorem WholeForm.exists_cons {ds : List Char} (h : WholeForm ds) :
    ∃ c rest, ds = c :: rest ∧ c.isDigit = true := by
  cases h with
  | zero => exact ⟨'0', [], rfl, rfl⟩
  | digits hdigits _ => exact hdigits.exists_cons

section

variable {cs ds rest : List Char}

theorem stopsAt_isDigit (h : StopsAt goesOn rest) : StopsAt Char.isDigit rest := by
  intro c hc
  have hgoes := h c hc
  rw [goesOn, Bool.or_eq_false_iff, Bool.or_eq_false_iff, Bool.or_eq_false_iff] at hgoes
  exact hgoes.1.1.1

/-! ### What is spelled is scanned -/

theorem scanDigits_of_digits (hds : Digits ds) (h : StopsAt Char.isDigit rest) :
    scanDigits (ds ++ rest) = .ok (ds, rest) := by
  rw [scanDigits, takeWhile_of_stopsAt hds.isDigit h, dropWhile_of_stopsAt hds.isDigit h]
  obtain ⟨c, more, rfl, _⟩ := hds.exists_cons
  rfl

theorem scanWhole_of_form (hds : WholeForm ds) (h : StopsAt Char.isDigit rest) :
    scanWhole (ds ++ rest) = .ok (ds, rest) := by
  cases hds with
  | zero =>
      have hhead : rest.head?.any Char.isDigit = false := by
        cases rest with
        | nil => rfl
        | cons c rest => exact stopsAt_cons.mp h
      show (if rest.head?.any Char.isDigit then _ else _) = _
      rw [hhead]
      rfl
  | digits hdigits hfirst =>
      rw [scanWhole]
      · exact scanDigits_of_digits hdigits h
      · intro more hzero
        obtain ⟨c, ds, rfl, _⟩ := hdigits.exists_cons
        cases hzero
        exact hfirst rfl

theorem scanFraction_of_form {fraction : List Char} (hds : FractionForm ds fraction)
    (hdigit : StopsAt Char.isDigit rest) (hpoint : rest.head? ≠ some '.') :
    scanFraction (fraction ++ rest) = .ok (ds, rest) := by
  cases hds with
  | none =>
      rw [List.nil_append, scanFraction]
      rintro more rfl
      exact hpoint rfl
  | point hdigits =>
      rw [List.cons_append, scanFraction]
      exact scanDigits_of_digits hdigits hdigit

theorem scanExponent_of_form {exponent : Option (Bool × List Char)} {letters : List Char}
    (hform : ExponentForm exponent letters) (h : StopsAt goesOn rest) :
    scanExponent (letters ++ rest) = .ok (exponent, rest) := by
  cases hform with
  | none =>
      cases rest with
      | nil => rfl
      | cons c rest =>
          have hletter : ¬ (c = 'e' ∨ c = 'E') := by
            rintro (rfl | rfl)
            · exact absurd (stopsAt_cons.mp h) (by decide)
            · exact absurd (stopsAt_cons.mp h) (by decide)
          exact if_neg hletter
  | some hletter hsign hdigits =>
      have hscan := scanDigits_of_digits hdigits (stopsAt_isDigit h)
      obtain ⟨d, more, rfl, hd⟩ := hdigits.exists_cons
      cases hsign with
      | none =>
          rw [List.nil_append, List.cons_append, scanExponent, if_pos hletter, hscan]
          · rfl
          -- a digit is no sign
          · rintro _ ⟨⟩
            exact absurd hd (by decide)
          · rintro _ ⟨⟩
            exact absurd hd (by decide)
      | plus =>
          show scanExponent (_ :: '+' :: (d :: more ++ rest)) = _
          rw [scanExponent, if_pos hletter, hscan]
          rfl
      | minus =>
          show scanExponent (_ :: '-' :: (d :: more ++ rest)) = _
          rw [scanExponent, if_pos hletter, hscan]
          rfl

theorem scanNumber_of_form {n : Numeral} (hform : NumberForm n cs) (h : StopsAt goesOn rest) :
    scanNumber (cs ++ rest) = .ok (n, rest) := by
  obtain @⟨negative, whole, ds, fraction, letters, exponent, hwhole, hfraction, hexponent⟩ := hform
  -- what comes behind the whole part does not make it longer, nor what comes behind the fraction
  have hletters : StopsAt Char.isDigit (letters ++ rest) ∧ (letters ++ rest).head? ≠ some '.' := by
    cases hexponent with
    | none =>
        refine ⟨stopsAt_isDigit h, ?_⟩
        intro hpoint
        exact absurd (h '.' hpoint) (by decide)
    | some hletter =>
        rcases hletter with rfl | rfl
        · exact ⟨stopsAt_cons.mpr rfl, by simp⟩
        · exact ⟨stopsAt_cons.mpr rfl, by simp⟩
  have hbehind : StopsAt Char.isDigit (fraction ++ (letters ++ rest)) := by
    cases hfraction with
    | none => exact hletters.1
    | point => exact stopsAt_cons.mpr rfl
  have hparts : ∀ cs, cs = whole ++ (fraction ++ (letters ++ rest)) →
      (do
        let w ← scanWhole cs
        let f ← scanFraction w.2
        let e ← scanExponent f.2
        return ((⟨negative, w.1, f.1, e.1⟩ : Numeral), e.2))
      = .ok (⟨negative, whole, ds, exponent⟩, rest) := by
    rintro _ rfl
    rw [scanWhole_of_form hwhole hbehind]
    show (do let r ← scanFraction _; _) = _
    rw [scanFraction_of_form hfraction hletters.1 hletters.2]
    show (do let r ← scanExponent _; _) = _
    rw [scanExponent_of_form hexponent h]
    rfl
  cases negative with
  | true => exact hparts _ (by simp)
  | false =>
      obtain ⟨c, more, rfl, hc⟩ := hwhole.exists_cons
      have hsign : c ≠ '-' := by
        rintro rfl
        exact absurd hc (by decide)
      unfold scanNumber
      split
      rename_i negative' cs' hmatch
      split at hmatch
      · rename_i hminus
        cases hminus
        exact absurd rfl hsign
      · cases hmatch
        exact hparts _ (by simp)

/-! ### What is scanned is spelled -/

theorem digits_of_scanDigits (h : scanDigits cs = .ok (ds, rest)) :
    Digits ds ∧ cs = ds ++ rest := by
  rw [scanDigits] at h
  split at h
  · cases h
  · rename_i hne
    cases h
    exact ⟨⟨hne, List.all_eq_true.mp List.all_takeWhile⟩, List.takeWhile_append_dropWhile.symm⟩

theorem form_of_scanWhole (h : scanWhole cs = .ok (ds, rest)) : WholeForm ds ∧ cs = ds ++ rest := by
  unfold scanWhole at h
  split at h
  · split at h
    · cases h
    · cases h
      exact ⟨.zero, rfl⟩
  · rename_i hzero
    obtain ⟨hdigits, rfl⟩ := digits_of_scanDigits h
    refine ⟨.digits hdigits ?_, rfl⟩
    intro hfirst
    obtain ⟨c, more, rfl, _⟩ := hdigits.exists_cons
    cases hfirst
    exact hzero _ rfl

theorem form_of_scanFraction (h : scanFraction cs = .ok (ds, rest)) :
    ∃ fraction, FractionForm ds fraction ∧ cs = fraction ++ rest := by
  unfold scanFraction at h
  split at h
  · obtain ⟨hdigits, rfl⟩ := digits_of_scanDigits h
    exact ⟨'.' :: ds, .point hdigits, rfl⟩
  · cases h
    exact ⟨[], .none, rfl⟩

/-- A computation that two steps make up succeeds only if both do. -/
theorem ok_of_bind {ε α β : Type} {x : Except ε α} {f : α → Except ε β} {b : β}
    (h : x >>= f = .ok b) : ∃ a, x = .ok a ∧ f a = .ok b := by
  cases x with
  | error e => cases h
  | ok a => exact ⟨a, rfl, h⟩

theorem form_of_scanExponent {exponent : Option (Bool × List Char)}
    (h : scanExponent cs = .ok (exponent, rest)) :
    ∃ letters, ExponentForm exponent letters ∧ cs = letters ++ rest := by
  unfold scanExponent at h
  split at h
  · rename_i letter more
    split at h
    · rename_i hletter
      split at h
      rename_i negative after hmatch
      obtain ⟨⟨ds, rest'⟩, hscan, hend⟩ := ok_of_bind h
      cases hend
      obtain ⟨hdigits, rfl⟩ := digits_of_scanDigits hscan
      split at hmatch
      · cases hmatch
        exact ⟨letter :: '+' :: ds, .some hletter .plus hdigits, rfl⟩
      · cases hmatch
        exact ⟨letter :: '-' :: ds, .some hletter .minus hdigits, rfl⟩
      · cases hmatch
        exact ⟨letter :: ds, .some hletter .none hdigits, rfl⟩
    · cases h
      exact ⟨[], .none, rfl⟩
  · cases h
    exact ⟨[], .none, rfl⟩

theorem form_of_scanNumber {n : Numeral} (h : scanNumber cs = .ok (n, rest)) :
    ∃ front, NumberForm n front ∧ cs = front ++ rest := by
  unfold scanNumber at h
  split at h
  rename_i negative cs' hmatch
  obtain ⟨⟨whole, afterWhole⟩, hscanWhole, h⟩ := ok_of_bind h
  obtain ⟨⟨ds, afterFraction⟩, hscanFraction, h⟩ := ok_of_bind h
  obtain ⟨⟨exponent, after⟩, hscanExponent, h⟩ := ok_of_bind h
  cases h
  obtain ⟨hwhole, rfl⟩ := form_of_scanWhole hscanWhole
  obtain ⟨fraction, hfraction, rfl⟩ := form_of_scanFraction hscanFraction
  obtain ⟨letters, hexponent, rfl⟩ := form_of_scanExponent hscanExponent
  refine ⟨_, .mk hwhole hfraction hexponent, ?_⟩
  split at hmatch
  · cases hmatch
    simp
  · cases hmatch
    simp

end

/-! ## Tokens -/

/-- How a whole token may be spelled. -/
inductive TokenForm : Token → List Char → Prop where
  | openArray : TokenForm .openArray ['[']
  | closeArray : TokenForm .closeArray [']']
  | openObject : TokenForm .openObject ['\x7b']
  | closeObject : TokenForm .closeObject ['\x7d']
  | colon : TokenForm .colon [':']
  | comma : TokenForm .comma [',']
  | text {ps : List Piece} {cs : List Char} (hform : QuotedForm ps cs) :
      TokenForm (.text ps none) ('"' :: cs)
  | number {n : Numeral} {cs : List Char} (hform : NumberForm n cs) : TokenForm (.number (.ok n)) cs
  | null : TokenForm (.word (.ok .null)) ['n', 'u', 'l', 'l']
  | true : TokenForm (.word (.ok .true)) ['t', 'r', 'u', 'e']
  | false : TokenForm (.word (.ok .false)) ['f', 'a', 'l', 's', 'e']

/-- The token is written to its end. -/
def Unbroken : Token → Prop
  | .text _ broken => broken = none
  | .number numeral => ∃ n, numeral = .ok n
  | .word word => ∃ w, word = .ok w
  | .stray => False
  | _ => True

/-- The token is a number. -/
def IsNumber (token : Token) : Prop := ∃ n, token = .number n

theorem NumberForm.exists_cons {n : Numeral} {cs : List Char} (h : NumberForm n cs) :
    ∃ c rest, cs = c :: rest ∧ (c = '-' ∨ c.isDigit = true) := by
  obtain @⟨negative, _, _, _, _, _, hwhole, _, _⟩ := h
  cases negative with
  | true => exact ⟨'-', _, rfl, .inl rfl⟩
  | false =>
      obtain ⟨c, more, rfl, hc⟩ := hwhole.exists_cons
      exact ⟨c, _, rfl, .inr hc⟩

theorem eq_of_expect {word cs rest : List Char} (h : expect word cs = .ok rest) :
    cs = word ++ rest := by
  fun_induction expect word cs with
  | case1 => cases h; rfl
  | case2 => cases h
  | case3 w word c ih => rw [ih h]; rfl
  | case4 => cases h

theorem isSpace_of_isDigit {c : Char} (h : c.isDigit = true) : isSpace c = false := by
  have hne : ∀ d : Char, d.isDigit = false → (c == d) = false := by
    intro d hd
    rw [beq_eq_false_iff_ne]
    rintro rfl
    exact absurd hd (by simp [h])
  rw [isSpace, hne ' ' rfl, hne '\n' rfl, hne '\t' rfl, hne '\r' rfl]
  rfl

/-- A token begins with a character that is no space and is scanned up to its end, unless it is a
number that would go on. -/
theorem scan_of_tokenForm {token : Token} {cs rest : List Char} (hform : TokenForm token cs)
    (h : IsNumber token → StopsAt goesOn rest) :
    ∃ c more, cs = c :: more ∧ isSpace c = false ∧ Token.scan c (more ++ rest) = (token, rest) := by
  cases hform with
  | openArray | closeArray | openObject | closeObject | colon | comma =>
      exact ⟨_, [], rfl, rfl, rfl⟩
  | text hquoted =>
      refine ⟨_, _, rfl, rfl, ?_⟩
      show (Token.text (scanText _).1 (scanText _).2.1, (scanText _).2.2) = _
      rw [scanText_of_quotedForm hquoted]
  | null | true | false => exact ⟨_, _, rfl, rfl, rfl⟩
  | number hnumber =>
      have hscan := scanNumber_of_form hnumber (h ⟨_, rfl⟩)
      obtain ⟨c, more, rfl, hc⟩ := hnumber.exists_cons
      refine ⟨c, more, rfl, ?_, ?_⟩
      · rcases hc with rfl | hc
        · rfl
        · exact isSpace_of_isDigit hc
      · unfold Token.scan
        split
        case h_11 => rw [if_pos hc, ← List.cons_append, hscan]
        all_goals exact absurd hc (by decide)

/-- An unbroken token is spelled as it should be. -/
theorem tokenForm_of_scan {c : Char} {rest after : List Char} {token : Token}
    (hscan : Token.scan c rest = (token, after)) (h : Unbroken token) :
    ∃ front, TokenForm token front ∧ c :: rest = front ++ after := by
  have hword : ∀ (word : Word) (letters : List Char),
      Token.scan.scanWord rest word letters = (token, after) →
      TokenForm (.word (.ok word)) (c :: letters) →
      ∃ front, TokenForm token front ∧ c :: rest = front ++ after := by
    intro word letters hscan hform
    rw [Token.scan.scanWord] at hscan
    split at hscan
    · cases hscan
      obtain ⟨_, ⟨⟩⟩ := h
    · rename_i hexpect
      cases hscan
      exact ⟨c :: letters, hform, by rw [eq_of_expect hexpect]; rfl⟩
  unfold Token.scan at hscan
  split at hscan
  case h_7 =>
    obtain ⟨pieces, broken, after', htext⟩ : ∃ pieces broken after',
        scanText rest = (pieces, broken, after') := ⟨_, _, _, rfl⟩
    rw [htext] at hscan
    cases hscan
    cases h
    obtain ⟨front, rfl, hform⟩ := quotedForm_of_scanText htext
    exact ⟨'"' :: front, .text hform, rfl⟩
  case h_8 => exact hword _ _ hscan .null
  case h_9 => exact hword _ _ hscan .true
  case h_10 => exact hword _ _ hscan .false
  case h_11 =>
    split at hscan
    · split at hscan
      · cases hscan
        obtain ⟨_, ⟨⟩⟩ := h
      · rename_i hnumber
        cases hscan
        obtain ⟨front, hform, hfront⟩ := form_of_scanNumber hnumber
        exact ⟨front, .number hform, hfront⟩
    · cases hscan
      cases h
  all_goals
    cases hscan
    exact ⟨_, by constructor, rfl⟩

/-! ## Texts -/

/-- The text consists of the given tokens, with any white space in front of, between and behind
them. -/
inductive Written : List Token → List Char → Prop where
  | nil : Written [] []
  | space {ts : List Token} {c : Char} {rest : List Char} (hspace : isSpace c = true)
      (hrest : Written ts rest) : Written ts (c :: rest)
  | token {t : Token} {ts : List Token} {front rest : List Char} (hform : TokenForm t front)
      (hrest : Written ts rest) : Written (t :: ts) (front ++ rest)

theorem Written.append {ts us : List Token} {cs ds : List Char} (h : Written ts cs)
    (h' : Written us ds) : Written (ts ++ us) (cs ++ ds) := by
  induction h with
  | nil => exact h'
  | space hspace _ ih => exact .space hspace ih
  | token hform _ ih =>
      rw [List.append_assoc]
      exact .token hform ih

/-- No number comes right behind another one. -/
def Apart (ts : List Token) : Prop := ts.IsChain fun t t' => ¬ (IsNumber t ∧ IsNumber t')

theorem goesOn_of_isSpace {c : Char} (h : isSpace c = true) : goesOn c = false := by
  simp only [isSpace, Bool.or_eq_true, beq_iff_eq] at h
  rcases h with ((rfl | rfl) | rfl) | rfl <;> rfl

/-- A number does not go on where another token begins. -/
theorem goesOn_of_tokenForm {t : Token} {c : Char} {rest : List Char}
    (h : TokenForm t (c :: rest)) (ht : ¬ IsNumber t) : goesOn c = false := by
  cases h with
  | number => exact absurd ⟨_, rfl⟩ ht
  | _ => rfl

theorem stopsAt_goesOn {ts : List Token} {cs : List Char} (h : Written ts cs)
    (hts : ∀ t ∈ ts.head?, ¬ IsNumber t) : StopsAt goesOn cs := by
  cases h with
  | nil => exact stopsAt_nil goesOn
  | space hspace _ => exact stopsAt_cons.mpr (goesOn_of_isSpace hspace)
  | @token t ts front rest hform _ =>
      have ht := hts t rfl
      have hstops : IsNumber t → StopsAt goesOn rest := fun hn => absurd hn ht
      obtain ⟨c, more, rfl, _⟩ := scan_of_tokenForm hform hstops
      exact stopsAt_cons.mpr (goesOn_of_tokenForm hform ht)

theorem tokens_space {c : Char} (hspace : isSpace c = true) (rest : List Char) :
    tokens (c :: rest) = tokens rest := by
  rw [tokens, if_pos hspace]

theorem tokens_cons {c : Char} {rest after : List Char} {token : Token} (hspace : isSpace c = false)
    (hscan : Token.scan c rest = (token, after)) : tokens (c :: rest) = token :: tokens after := by
  rw [tokens, hspace, hscan]
  rfl

/-- **A text is cut into the tokens that it is written for.** -/
theorem tokens_of_written {ts : List Token} {cs : List Char} (h : Written ts cs) (hts : Apart ts) :
    tokens cs = ts := by
  induction h with
  | nil => rw [tokens]
  | space hspace _ ih => rw [tokens_space hspace, ih hts]
  | @token t ts front rest hform hrest ih =>
      have hstops : IsNumber t → StopsAt goesOn rest := by
        intro ht
        exact stopsAt_goesOn hrest fun t' ht' hn => hts.rel_head? ht' ⟨ht, hn⟩
      obtain ⟨c, more, rfl, hspace, hscan⟩ := scan_of_tokenForm hform hstops
      rw [List.cons_append, tokens_cons hspace hscan, ih hts.tail]

/-- A text that is cut without a break is written for its tokens. -/
theorem written_of_tokens {cs : List Char} (h : ∀ t ∈ tokens cs, Unbroken t) :
    Written (tokens cs) cs := by
  fun_induction tokens cs with
  | case1 => exact .nil
  | case2 c rest hspace ih => exact .space hspace (ih h)
  | case3 c rest hspace ih =>
      obtain ⟨front, hform, hfront⟩ := tokenForm_of_scan rfl (h _ List.mem_cons_self)
      rw [hfront]
      exact .token hform (ih fun t ht => h t (List.mem_cons_of_mem _ ht))

end PadMapping.Proofs
