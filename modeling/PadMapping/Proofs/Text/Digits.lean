import PadMapping.Text.Number

/-!
# Numbers that are written and read

A number is written as its decimal digits and read as the longest run of digits at the front. The
two fit together as long as what follows does not go on with a digit, which is what `StopsAt` says
of a text and a kind of characters. Hexadecimal numbers are written with lower-case digits and with
zeros in front, which do not change what is read.
-/

namespace PadMapping.Proofs

open Text

/-- The text does not begin with a character of the given kind. -/
def StopsAt (p : Char → Bool) (rest : List Char) : Prop := ∀ c ∈ rest.head?, p c = false

theorem stopsAt_nil (p : Char → Bool) : StopsAt p [] := by
  intro c hc
  simp at hc

theorem stopsAt_cons {p : Char → Bool} {c : Char} {rest : List Char} :
    StopsAt p (c :: rest) ↔ p c = false := by
  simp [StopsAt]

section

variable {p : Char → Bool} {front rest : List Char}

/-- What comes behind does not lengthen the run of characters of a kind at the front of a text, if
it does not begin with one. -/
theorem takeWhile_append_of_stopsAt (front : List Char) (hrest : StopsAt p rest) :
    (front ++ rest).takeWhile p = front.takeWhile p := by
  induction front with
  | nil =>
      cases rest with
      | nil => rfl
      | cons c rest => simp [stopsAt_cons.mp hrest]
  | cons c front ih =>
      cases hc : p c with
      | true => simp [hc, ih]
      | false => simp [hc]

/-- The longest run of a kind of characters ends where the text stops being of that kind. -/
theorem takeWhile_of_stopsAt (hfront : ∀ c ∈ front, p c = true) (hrest : StopsAt p rest) :
    (front ++ rest).takeWhile p = front := by
  have hall : (front ++ []).takeWhile p = front ++ [].takeWhile p :=
    List.takeWhile_append_of_pos hfront
  rw [takeWhile_append_of_stopsAt front hrest]
  simpa using hall

theorem stopsAt_dropWhile (text : List Char) : StopsAt p (text.dropWhile p) := by
  intro c hc
  have hhead := List.head?_dropWhile_not p text
  rw [Option.mem_def.mp hc] at hhead
  exact hhead

theorem dropWhile_of_stopsAt (hfront : ∀ c ∈ front, p c = true) (hrest : StopsAt p rest) :
    (front ++ rest).dropWhile p = rest := by
  rw [List.dropWhile_append_of_pos hfront]
  cases rest with
  | nil => rfl
  | cons c rest => simp [stopsAt_cons.mp hrest]

end

/-! ## Decimal digits -/

theorem isDigit_of_mem_decimal {n : Nat} {c : Char} (hc : c ∈ Nat.toDigits 10 n) :
    c.isDigit = true :=
  Nat.isDigit_of_mem_toDigits (by decide) (by decide) hc

/-- No zero comes before other digits. -/
theorem eq_nil_of_decimal {n : Nat} {rest : List Char} (h : Nat.toDigits 10 n = '0' :: rest) :
    rest = [] := by
  induction n using Nat.strongRecOn generalizing rest with
  | ind n ih =>
      rw [Nat.toDigits_eq_if (by decide)] at h
      split at h
      · injection h with _ h
        exact h.symm
      · rename_i hn
        obtain ⟨c, front, hfront⟩ :=
          List.exists_cons_of_ne_nil (Nat.toDigits_ne_nil (n := n / 10) (b := 10))
        rw [hfront, List.cons_append] at h
        injection h with hc _
        have hnil := ih (n / 10) (by omega) (hc ▸ hfront)
        -- the digits before the last one would be those of zero
        have hzero : n / 10 = 0 := by
          have hvalue := Nat.ofDigitChars_ten_toDigits (n := n / 10)
          rw [hfront, hnil, hc] at hvalue
          exact hvalue.symm
        omega

theorem digits?_decimal (n : Nat) : digits? (Nat.toDigits 10 n) = some n := by
  have hall : (Nat.toDigits 10 n).all Char.isDigit = true :=
    List.all_eq_true.mpr fun c hc => isDigit_of_mem_decimal hc
  rw [digits?, if_pos ⟨Nat.toDigits_ne_nil, hall⟩, Nat.ofDigitChars_ten_toDigits]

theorem index?_decimal {n : Nat} (h : n < wordBound) : index? (Nat.toDigits 10 n) = some n := by
  have hunsigned : ∀ rest, Nat.toDigits 10 n ≠ '+' :: rest := by
    intro rest hplus
    have hdigit := isDigit_of_mem_decimal (n := n) (c := '+') (by rw [hplus]; simp)
    exact absurd hdigit (by decide)
  unfold index?
  split
  · rename_i rest hplus
    exact absurd hplus (hunsigned rest)
  · simp [digits?_decimal, h]

/-! ## Hexadecimal digits -/

/-- The sixteen digits that numbers are written with. -/
def lowerHexDigits : List Char :=
  ['0', '1', '2', '3', '4', '5', '6', '7', '8', '9', 'a', 'b', 'c', 'd', 'e', 'f']

theorem digitChar_of_lt : ∀ n < 16, Nat.digitChar n ∈ lowerHexDigits
    ∧ hexDigit? (Nat.digitChar n) = some n := by
  decide

theorem isHexDigit_of_mem_lowerHexDigits : ∀ c ∈ lowerHexDigits, isHexDigit c = true :=
  List.all_eq_true.mp (by decide)

theorem mem_lowerHexDigits_of_mem_toDigits {n : Nat} {c : Char} (hc : c ∈ Nat.toDigits 16 n) :
    c ∈ lowerHexDigits := by
  induction n using Nat.strongRecOn with
  | ind n ih =>
      rw [Nat.toDigits_eq_if (by decide)] at hc
      split at hc
      · rename_i hn
        rw [List.mem_singleton.mp hc]
        exact (digitChar_of_lt n hn).1
      · rename_i hn
        rcases List.mem_append.mp hc with hc | hc
        · exact ih (n / 16) (by omega) hc
        · rw [List.mem_singleton.mp hc]
          exact (digitChar_of_lt _ (Nat.mod_lt n (by decide))).1

theorem mem_lowerHexDigits_of_mem_hexPadded {width n : Nat} {c : Char}
    (hc : c ∈ hexPadded width n) : c ∈ lowerHexDigits := by
  rcases List.mem_append.mp hc with hc | hc
  · rw [List.eq_of_mem_replicate hc]
    decide
  · exact mem_lowerHexDigits_of_mem_toDigits hc

theorem hexDigits?_concat (front : List Char) (c : Char) :
    hexDigits? (front ++ [c])
      = (hexDigits? front).bind fun n => (hexDigit? c).map (n * 16 + ·) := by
  rw [hexDigits?, List.foldlM_append, ← hexDigits?]
  simp

theorem hexDigits?_toDigits (n : Nat) : hexDigits? (Nat.toDigits 16 n) = some n := by
  induction n using Nat.strongRecOn with
  | ind n ih =>
      rw [Nat.toDigits_eq_if (by decide)]
      split
      · rename_i hn
        simp [hexDigits?, (digitChar_of_lt n hn).2]
      · rename_i hn
        have hlast := (digitChar_of_lt (n % 16) (Nat.mod_lt n (by decide))).2
        rw [hexDigits?_concat, ih (n / 16) (by omega), hlast]
        simp [Nat.div_add_mod']

/-- Zeros in front do not change what is read. -/
theorem hexDigits?_hexPadded (width n : Nat) : hexDigits? (hexPadded width n) = some n := by
  have hzeros : ∀ k, hexDigits? (List.replicate k '0') = some 0 := by
    intro k
    induction k with
    | zero => rfl
    | succ k ih =>
        rw [List.replicate_succ', hexDigits?_concat, ih]
        rfl
  have hread := hexDigits?_toDigits n
  rw [hexDigits?] at hread
  rw [hexPadded, padded, hexDigits?, List.foldlM_append, ← hexDigits?, hzeros]
  exact hread

theorem length_hexPadded {width n : Nat} (h : n < Nat.pow 16 width) (hwidth : 0 < width) :
    (hexPadded width n).length = width := by
  have hlength : (Nat.toDigits 16 n).length ≤ width :=
    (Nat.length_toDigits_le_iff (by decide) hwidth).mpr h
  simp [hexPadded, padded]
  omega

end PadMapping.Proofs
