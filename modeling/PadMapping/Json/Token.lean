import PadMapping.Text.Number

/-!
# Tokens of a JSON text

A text is cut into tokens from left to right. Cutting never fails: a token that is not written
to its end, or in which a wrong character stands, is the last one and says how it breaks off.
Nothing after such a token is looked at.

A quoted text is kept as a list of pieces, because an escape may give half of a character: the
halves have to fit together only where the text is used.
-/

namespace PadMapping.Json

/-- How a text stops being readable. -/
inductive Break where
  /-- It ends too early. -/
  | ended
  /-- There is a wrong character. -/
  | malformed
deriving DecidableEq, Repr

/-- The break in front of what is left: too early an end if nothing is. -/
def Break.before (rest : List Char) : Break :=
  if rest.isEmpty then .ended else .malformed

/-- A piece of a quoted text. -/
inductive Piece where
  | char (c : Char)
  /-- The first half of a surrogate pair. -/
  | high (unit : Nat)
  /-- The second half of a surrogate pair. -/
  | low (unit : Nat)
deriving DecidableEq, Repr

/-- A number as it is written. -/
structure Numeral where
  negative : Bool
  whole : List Char
  /-- The digits after the point; none if there is no point. -/
  fraction : List Char
  /-- The sign and the digits of the exponent. -/
  exponent : Option (Bool × List Char)
deriving DecidableEq, Repr

/-- The three words of the grammar. -/
inductive Word where
  | null
  | true
  | false
deriving DecidableEq, Repr

/-- A token; `broken` says how a quoted text breaks off, if it does. -/
inductive Token where
  | openArray
  | closeArray
  | openObject
  | closeObject
  | colon
  | comma
  | text (pieces : List Piece) (broken : Option Break)
  | number (numeral : Except Break Numeral)
  | word (word : Except Break Word)
  /-- A character with which no token begins. -/
  | stray

/-- The characters between tokens. -/
def isSpace (c : Char) : Bool :=
  c == ' ' || c == '\n' || c == '\t' || c == '\r'

/-! ## Quoted texts -/

/-- The piece that an escape with a code unit gives. -/
def Piece.ofUnit (unit : Nat) : Piece :=
  if 0xD800 ≤ unit ∧ unit < 0xDC00 then .high unit
  else if 0xDC00 ≤ unit ∧ unit < 0xE000 then .low unit
  else .char (Char.ofNat unit)

/-- The character for which a backslash with one letter stands. -/
def unescaped? : Char → Option Char
  | '"' => some '"'
  | '\\' => some '\\'
  | '/' => some '/'
  | 'b' => some '\x08'
  | 'f' => some '\x0c'
  | 'n' => some '\n'
  | 'r' => some '\r'
  | 't' => some '\t'
  | _ => none

/-- How a code unit breaks off that is not four hexadecimal digits: the next four bytes are
taken for it, and if there are not as many the text ends too early. -/
def unitBreak (rest : List Char) : Break :=
  if (rest.take 4).foldl (fun n c => n + c.utf8Size) 0 < 4 then .ended else .malformed

/-- The pieces up to the closing quote, how they break off, and what comes after. -/
def scanText : List Char → List Piece × Option Break × List Char
  | [] => ([], some .ended, [])
  | '"' :: rest => ([], none, rest)
  | ['\\'] => ([], some .ended, [])
  | '\\' :: 'u' :: a :: b :: c :: d :: rest =>
    match Text.hexDigits? [a, b, c, d] with
    | none => ([], some .malformed, [])
    | some unit =>
      let (pieces, broken, after) := scanText rest
      (.ofUnit unit :: pieces, broken, after)
  | '\\' :: 'u' :: rest => ([], some (unitBreak rest), [])
  | '\\' :: c :: rest =>
    match unescaped? c with
    | none => ([], some .malformed, [])
    | some plain =>
      let (pieces, broken, after) := scanText rest
      (.char plain :: pieces, broken, after)
  | c :: rest =>
    if c.toNat < 0x20 then ([], some .malformed, [])
    else
      let (pieces, broken, after) := scanText rest
      (.char c :: pieces, broken, after)

/-! ## Numbers and words -/

/-- The digits at the front, of which there must be one, and what comes after. -/
def scanDigits (cs : List Char) : Except Break (List Char × List Char) :=
  let rest := cs.dropWhile Char.isDigit
  match cs.takeWhile Char.isDigit with
  | [] => .error (.before rest)
  | digits => .ok (digits, rest)

/-- The digits in front of the point: no zero comes before others. -/
def scanWhole : List Char → Except Break (List Char × List Char)
  | '0' :: rest =>
    if (rest.head?.any Char.isDigit) then .error .malformed else .ok (['0'], rest)
  | cs => scanDigits cs

/-- A point with digits, if there is a point. -/
def scanFraction : List Char → Except Break (List Char × List Char)
  | '.' :: rest => scanDigits rest
  | cs => .ok ([], cs)

/-- The letter `e` with a sign and digits, if there is one. -/
def scanExponent (cs : List Char) : Except Break (Option (Bool × List Char) × List Char) :=
  match cs with
  | c :: rest =>
    if c = 'e' ∨ c = 'E' then do
      let (negative, rest) := match rest with
        | '+' :: more => (false, more)
        | '-' :: more => (true, more)
        | _ => (false, rest)
      let (digits, rest) ← scanDigits rest
      return (some (negative, digits), rest)
    else .ok (none, cs)
  | [] => .ok (none, [])

/-- A number at the front. -/
def scanNumber (cs : List Char) : Except Break (Numeral × List Char) := do
  let (negative, cs) := match cs with
    | '-' :: rest => (true, rest)
    | _ => (false, cs)
  let (whole, cs) ← scanWhole cs
  let (fraction, cs) ← scanFraction cs
  let (exponent, cs) ← scanExponent cs
  return (⟨negative, whole, fraction, exponent⟩, cs)

/-- What comes after the given characters. -/
def expect : List Char → List Char → Except Break (List Char)
  | [], rest => .ok rest
  | _ :: _, [] => .error .ended
  | w :: word, c :: rest => if w = c then expect word rest else .error .malformed

/-! ## The whole text -/

/-- The token that begins with `c`, and what comes after it. -/
def Token.scan (c : Char) (rest : List Char) : Token × List Char :=
  match c with
  | '[' => (.openArray, rest)
  | ']' => (.closeArray, rest)
  | '{' => (.openObject, rest)
  | '}' => (.closeObject, rest)
  | ':' => (.colon, rest)
  | ',' => (.comma, rest)
  | '"' =>
    let (pieces, broken, after) := scanText rest
    (.text pieces broken, after)
  | 'n' => scanWord .null ['u', 'l', 'l']
  | 't' => scanWord .true ['r', 'u', 'e']
  | 'f' => scanWord .false ['a', 'l', 's', 'e']
  | c =>
    if c = '-' ∨ c.isDigit then
      match scanNumber (c :: rest) with
      | .error why => (.number (.error why), [])
      | .ok (numeral, after) => (.number (.ok numeral), after)
    else (.stray, [])
where
  /-- A word whose first letter has been read. -/
  scanWord (word : Word) (letters : List Char) : Token × List Char :=
    match expect letters rest with
    | .error why => (.word (.error why), [])
    | .ok after => (.word (.ok word), after)

/-! ## Scanning moves on -/

theorem scanText_length (cs : List Char) : (scanText cs).2.2.length ≤ cs.length := by
  fun_induction scanText cs <;> simp_all <;> omega

theorem scanDigits_length {cs : List Char} {r : List Char × List Char}
    (h : scanDigits cs = .ok r) : r.2.length < cs.length := by
  have hsplit : (cs.takeWhile Char.isDigit).length + (cs.dropWhile Char.isDigit).length
      = cs.length := by
    rw [← List.length_append, List.takeWhile_append_dropWhile]
  simp only [scanDigits] at h
  split at h
  · simp at h
  · next hne =>
    have : (cs.takeWhile Char.isDigit).length ≠ 0 := by simpa using hne
    simp only [Except.ok.injEq] at h
    subst h
    simp only
    omega

theorem scanWhole_length {cs : List Char} {r : List Char × List Char}
    (h : scanWhole cs = .ok r) : r.2.length < cs.length := by
  unfold scanWhole at h
  split at h
  · split at h
    · simp at h
    · simp only [Except.ok.injEq] at h
      simp [← h]
  · exact scanDigits_length h

theorem scanFraction_length {cs : List Char} {r : List Char × List Char}
    (h : scanFraction cs = .ok r) : r.2.length ≤ cs.length := by
  unfold scanFraction at h
  split at h
  · have := scanDigits_length h
    simp only [List.length_cons]
    omega
  · simp only [Except.ok.injEq] at h
    simp [← h]

theorem scanExponent_length {cs : List Char} {r : Option (Bool × List Char) × List Char}
    (h : scanExponent cs = .ok r) : r.2.length ≤ cs.length := by
  unfold scanExponent at h
  split at h
  · next c more =>
    split at h
    · simp only [bind, Except.bind] at h
      split at h
      · simp at h
      · next hv =>
        have hlt := scanDigits_length hv
        simp only [pure, Except.pure, Except.ok.injEq] at h
        rw [← h]
        split at hlt <;> simp_all <;> omega
    · simp only [Except.ok.injEq] at h
      simp [← h]
  · simp only [Except.ok.injEq] at h
    simp [← h]

theorem scanNumber_length {cs : List Char} {r : Numeral × List Char}
    (h : scanNumber cs = .ok r) : r.2.length < cs.length := by
  simp only [scanNumber, bind, Except.bind] at h
  split at h
  · simp at h
  · next hw =>
    have hlt := scanWhole_length hw
    split at h
    · simp at h
    · next hf =>
      have hle := scanFraction_length hf
      split at h
      · simp at h
      · next he =>
        have hle' := scanExponent_length he
        simp only [pure, Except.pure, Except.ok.injEq] at h
        rw [← h]
        split at hlt <;> simp_all <;> omega

theorem expect_length {word cs rest : List Char} (h : expect word cs = .ok rest) :
    rest.length ≤ cs.length := by
  fun_induction expect word cs <;> simp_all
  omega

theorem Token.scan_length (c : Char) (rest : List Char) :
    (Token.scan c rest).2.length ≤ rest.length := by
  have hword (w : Word) (letters : List Char) :
      (Token.scan.scanWord rest w letters).2.length ≤ rest.length := by
    unfold Token.scan.scanWord
    split
    · simp
    · next h => exact expect_length h
  unfold Token.scan
  split <;> try simp [hword]
  · exact scanText_length rest
  · split
    · split
      · simp
      · next h =>
        have := scanNumber_length h
        simp only [List.length_cons] at this
        simp only
        omega
    · simp

/-- The tokens of a text. -/
def tokens : List Char → List Token
  | [] => []
  | c :: rest =>
    if isSpace c then tokens rest
    else (Token.scan c rest).1 :: tokens (Token.scan c rest).2
termination_by cs => cs.length
decreasing_by
  · simp
  · have := Token.scan_length c rest
    simp only [List.length_cons]
    omega

end PadMapping.Json
