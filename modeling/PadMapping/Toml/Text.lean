import PadMapping.Text.Number

/-!
# Quoted texts in TOML

There are four kinds of quoted texts: between double or single quotes, each on one line or over
several lines between three quotes. Backslashes have a meaning only between double quotes.

Readers take what is left of the document and give what they read and what is left after it;
they give nothing where the document is not well formed.
-/

namespace PadMapping.Toml

/-- Spaces and tabs. -/
def isSpace (c : Char) : Bool := c == ' ' || c == '\t'

/-- Whether a character may stand in a quoted text or a comment: no control characters but the
tab. -/
def isPrintable (c : Char) : Bool := c == '\t' || (0x20 ≤ c.toNat && c.toNat != 0x7F)

/-- What is left after the end of a line. -/
def newline? : List Char → Option (List Char)
  | '\n' :: rest => some rest
  | '\r' :: '\n' :: rest => some rest
  | _ => none

/-- How far a backslash and what belongs to it has been read. -/
inductive Escape where
  /-- There is none. -/
  | plain
  /-- The backslash has been read. -/
  | backslash
  /-- A number is read; some of its digits are missing. -/
  | number (missing value : Nat)
  /-- Only spaces and the end of the line may follow. -/
  | lineEnd
  /-- Everything up to the next visible character is left out. -/
  | gap

/-- The character for which a backslash with one letter stands. -/
def unescaped? : Char → Option Char
  | '"' => some '"'
  | '\\' => some '\\'
  | 'b' => some '\x08'
  | 'f' => some '\x0c'
  | 'n' => some '\n'
  | 'r' => some '\r'
  | 't' => some '\t'
  | _ => none

/-- What one character does inside an escape: it may give a character, and the escape goes on or
ends. The escapes that end a line are allowed where `multiline`. -/
def Escape.step (multiline : Bool) (escape : Escape) (c : Char) : Option (Option Char × Escape) :=
  match escape with
  | .plain | .gap => none
  | .backslash =>
    if c = 'u' then some (none, .number 4 0)
    else if c = 'U' then some (none, .number 8 0)
    else if multiline ∧ isSpace c then some (none, .lineEnd)
    else (unescaped? c).map fun plain => (some plain, .plain)
  | .number missing value => do
    let value := value * 16 + (← Text.hexDigit? c)
    if missing ≤ 1 then
      if value.isValidChar then some (some (Char.ofNat value), .plain) else none
    else some (none, .number (missing - 1) value)
  | .lineEnd => if isSpace c then some (none, .lineEnd) else none

/-- Puts a character in front of what is read. -/
def prepend (c : Char) (read : Option (List Char × List Char)) : Option (List Char × List Char) :=
  read.map fun (text, rest) => (c :: text, rest)

/-- Reads up to the closing double quote. -/
def readBasic (escape : Escape) : List Char → Option (List Char × List Char)
  | [] => none
  | c :: rest =>
    match escape with
    | .plain =>
      if c = '"' then some ([], rest)
      else if c = '\\' then readBasic .backslash rest
      else if isPrintable c then prepend c (readBasic .plain rest)
      else none
    | escape => do
      let (char, escape) ← escape.step false c
      match char with
      | none => readBasic escape rest
      | some char => prepend char (readBasic escape rest)

/-- Reads up to the closing single quote. -/
def readLiteral : List Char → Option (List Char × List Char)
  | [] => none
  | c :: rest =>
    if c = '\x27' then some ([], rest)
    else if isPrintable c then prepend c (readLiteral rest)
    else none

/-- Reads up to three closing quotes, with up to two more quotes in front of them. -/
def readMultiline (basic : Bool) (quote : Char) (escape : Escape) :
    List Char → Option (List Char × List Char)
  | [] => none
  | '\r' :: '\n' :: rest =>
    match escape with
    | .plain => prepend '\n' (readMultiline basic quote .plain rest)
    | .backslash | .lineEnd | .gap => readMultiline basic quote .gap rest
    | .number _ _ => none
  | c :: rest =>
    match escape with
    | .plain => visible c rest (readMultiline basic quote · rest)
    | .gap =>
      if c = '\n' ∨ isSpace c then readMultiline basic quote .gap rest
      else visible c rest (readMultiline basic quote · rest)
    | escape =>
      match escape, c with
      | .backslash, '\n' | .lineEnd, '\n' => readMultiline basic quote .gap rest
      | escape, c => do
        let (char, escape) ← escape.step true c
        match char with
        | none => readMultiline basic quote escape rest
        | some char => prepend char (readMultiline basic quote escape rest)
where
  /-- Reads a character outside of escapes. -/
  visible (c : Char) (rest : List Char)
      (next : Escape → Option (List Char × List Char)) : Option (List Char × List Char) :=
    if c = quote then
      match rest.takeWhile (· = quote) with
      | _ :: _ :: more =>
        let extra := min more.length 2
        some (List.replicate extra quote, rest.drop (2 + extra))
      | _ => prepend c (next .plain)
    else if c = '\\' ∧ basic then next .backslash
    else if c = '\n' ∨ isPrintable c then prepend c (next .plain)
    else none

/-- What is left after the end of a line that comes first, if there is one. -/
def dropNewline (cs : List Char) : List Char := (newline? cs).getD cs

/-- Reads a quoted text of any kind. -/
def readText : List Char → Option (List Char × List Char)
  | '"' :: '"' :: '"' :: rest => readMultiline true '"' .plain (dropNewline rest)
  | '\x27' :: '\x27' :: '\x27' :: rest => readMultiline false '\x27' .plain (dropNewline rest)
  | '"' :: rest => readBasic .plain rest
  | '\x27' :: rest => readLiteral rest
  | _ => none

end PadMapping.Toml
