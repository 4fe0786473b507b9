import Mathlib.Algebra.Group.Nat.Defs
import PadMapping.Proofs.Export.RoundTrip
import PadMapping.Proofs.Text.Bytes

/-!
# Which texts are axis labels

An axis label is a number and then one sign. It is read from its end: the sign is taken off, and
what is left is read as a number of 64 bits, which may have a sign of its own. So `+5+` is a label
and `-5-` and `++` are none.

Labels come as bytes and numbers as words, and both can go wrong where lists of characters and
natural numbers cannot. Taking the sign off as the last byte would cut a longer character apart, and
a digit more may lead out of the numbers of 64 bits. `readLabel?` does it in this way and has no
answer where it would have to stop. It always has one, and always the same as `Control.ofLabel`
(`readLabel?_eq`): only a character of one byte is ever taken off, and a number that has become too
large stays too large.
-/

namespace PadMapping.Proofs

open Text

/-! ## Numbers of 64 bits -/

/-- An index is a number of 64 bits. -/
theorem wordBound_eq : wordBound = 2 ^ 64 := by decide

/-- A number with one more digit behind it, as long as it is one of 64 bits. -/
def withDigit? (n : UInt64) (c : Char) : Option UInt64 :=
  if c.isDigit ∧ 10 * n.toNat + (c.toNat - '0'.toNat) < 2 ^ 64 then
    some (10 * n + UInt64.ofNat (c.toNat - '0'.toNat))
  else none

/-- Reads a number of 64 bits digit after digit, and stops at the first one that does not fit. -/
def word? (cs : List Char) : Option UInt64 :=
  let unsigned := match cs with
    | '+' :: rest => rest
    | _ => cs
  if unsigned.isEmpty then none else unsigned.foldlM withDigit? 0

theorem withDigit?_eq_some_iff {n m : UInt64} {c : Char} :
    withDigit? n c = some m
      ↔ c.isDigit = true ∧ m.toNat = 10 * n.toNat + (c.toNat - '0'.toNat) := by
  have hvalue : (10 * n + UInt64.ofNat (c.toNat - '0'.toNat)).toNat
      = (10 * n.toNat + (c.toNat - '0'.toNat)) % 2 ^ 64 := by
    have hten : (10 : UInt64).toNat = 10 := rfl
    rw [UInt64.toNat_add, UInt64.toNat_mul, UInt64.toNat_ofNat', hten]
    omega
  rw [withDigit?]
  split
  · rename_i hfits
    rw [Nat.mod_eq_of_lt hfits.2] at hvalue
    rw [Option.some_inj, ← UInt64.toNat_inj, hvalue]
    exact ⟨fun h => ⟨hfits.1, h.symm⟩, fun h => h.2.symm⟩
  · rename_i hfits
    refine iff_of_false (by simp) ?_
    rintro ⟨hdigit, hm⟩
    exact hfits ⟨hdigit, hm ▸ m.toNat_lt⟩

/-- More digits do not make a number smaller. -/
theorem le_ofDigitChars (digits : List Char) (n : Nat) : n ≤ Nat.ofDigitChars 10 digits n := by
  induction digits generalizing n with
  | nil => exact Nat.le_refl n
  | cons c digits ih =>
      rw [Nat.ofDigitChars_cons]
      exact Nat.le_trans (by omega) (ih _)

/-- Digit after digit the same is read as all at once: what is too large does not become smaller. -/
theorem foldlM_withDigit (digits : List Char) (n : UInt64) :
    (digits.foldlM withDigit? n).map UInt64.toNat
      = if digits.all Char.isDigit ∧ Nat.ofDigitChars 10 digits n.toNat < 2 ^ 64 then
          some (Nat.ofDigitChars 10 digits n.toNat)
        else none := by
  induction digits generalizing n with
  | nil =>
      rw [List.foldlM_nil, if_pos ⟨rfl, n.toNat_lt⟩]
      rfl
  | cons c digits ih =>
      rw [List.foldlM_cons, Nat.ofDigitChars_cons]
      cases hstep : withDigit? n c with
      | some m =>
          obtain ⟨hdigit, hvalue⟩ := withDigit?_eq_some_iff.mp hstep
          have hrest := ih m
          rw [hvalue] at hrest
          rw [List.all_cons, hdigit, Bool.true_and]
          exact hrest
      | none =>
          rw [if_neg]
          · rfl
          · -- what the rest leads to is no less than what this digit leads to
            rintro ⟨hall, hlt⟩
            rw [List.all_cons, Bool.and_eq_true] at hall
            have hfits := Nat.lt_of_le_of_lt (le_ofDigitChars digits _) hlt
            rw [withDigit?, if_pos ⟨hall.1, hfits⟩] at hstep
            exact absurd hstep (by simp)

theorem word?_eq (cs : List Char) : (word? cs).map UInt64.toNat = index? cs := by
  have hdigits : ∀ unsigned : List Char,
      (if unsigned.isEmpty then none else unsigned.foldlM withDigit? 0).map UInt64.toNat
        = (digits? unsigned).filter (· < wordBound) := by
    intro unsigned
    cases unsigned with
    | nil => rfl
    | cons c rest =>
        have hzero : (0 : UInt64).toNat = 0 := rfl
        rw [List.isEmpty_cons, if_neg (by simp), foldlM_withDigit, hzero, wordBound_eq]
        by_cases hall : (c :: rest).all Char.isDigit = true
        · have hread : digits? (c :: rest) = some (Nat.ofDigitChars 10 (c :: rest) 0) := by
            rw [digits?, if_pos ⟨List.cons_ne_nil c rest, hall⟩]
          rw [hread, Option.filter_some]
          by_cases hlt : Nat.ofDigitChars 10 (c :: rest) 0 < 2 ^ 64
          · rw [if_pos ⟨hall, hlt⟩, if_pos (decide_eq_true hlt)]
          · rw [if_neg fun h => hlt h.2, if_neg (by simpa using hlt)]
        · have hread : digits? (c :: rest) = none := by rw [digits?, if_neg fun h => hall h.2]
          rw [hread, if_neg fun h => hall h.1]
          rfl
  exact hdigits _

/-! ## The bytes of a label -/

/-- A text without its last byte; none if there is no such text. -/
def withoutLastByte? (text : String) : Option String :=
  match text.toUTF8.toList with
  | [] => none
  | bytes => decode? bytes.dropLast

/-- Reads an axis label with its sign as its last byte and its index as a word. There is no answer
if the last byte cannot be taken off. -/
def readLabel? (label : String) : Option (Except LabelError Control) :=
  match label.toList.getLast?.bind Direction.ofSign? with
  | none => some (.error ⟨label⟩)
  | some direction =>
    (withoutLastByte? label).map fun index =>
      match word? index.toList with
      | none => .error ⟨label⟩
      | some index => .ok (.axis index.toNat direction)

theorem ofSign?_eq_some_iff {c : Char} {direction : Direction} :
    Direction.ofSign? c = some direction
      ↔ c = '+' ∧ direction = .positive ∨ c = '-' ∧ direction = .negative := by
  unfold Direction.ofSign?
  split
  · simp [eq_comm]
  · simp [eq_comm]
  · rename_i hplus hminus
    refine iff_of_false (by simp) ?_
    rintro (⟨rfl, _⟩ | ⟨rfl, _⟩)
    · exact hplus rfl
    · exact hminus rfl

/-- A sign is one byte. -/
theorem withoutLastByte?_concat {c : Char} (hc : c = '+' ∨ c = '-') (text : String) :
    withoutLastByte? (text ++ String.singleton c) = some text := by
  obtain ⟨b, hb⟩ : ∃ b, (String.singleton c).toUTF8.toList = [b] := by
    rw [toList_toUTF8]
    rcases hc with rfl | rfl
    · exact ⟨_, rfl⟩
    · exact ⟨_, rfl⟩
  rw [withoutLastByte?, toUTF8_append, hb]
  split
  · rename_i hnil
    exact absurd hnil (by simp)
  · rw [List.dropLast_concat, decode?_toUTF8]

theorem readLabel?_eq (label : String) : readLabel? label = some (Control.ofLabel label) := by
  rw [readLabel?, Control.ofLabel]
  cases hsign : label.toList.getLast?.bind Direction.ofSign? with
  | none => rfl
  | some direction =>
      obtain ⟨c, hlast, hc⟩ := Option.bind_eq_some_iff.mp hsign
      obtain ⟨front, hfront⟩ := List.getLast?_eq_some_iff.mp hlast
      have hone : c = '+' ∨ c = '-' := (ofSign?_eq_some_iff.mp hc).imp And.left And.left
      have hlabel : label = String.ofList front ++ String.singleton c := by
        rw [← String.toList_inj, hfront]
        simp
      have hcut : withoutLastByte? label = some (String.ofList front) := by
        rw [hlabel]
        exact withoutLastByte?_concat hone _
      simp only [hcut, Option.map_some, hfront, List.dropLast_concat, String.toList_ofList,
        ← word?_eq]
      cases word? front with
      | none => rfl
      | some index => rfl

/-! ## Labels -/

/-- The text is an optional plus sign, at least one decimal digit, and a sign that stands for the
direction; the digits are worth the index, which is one of 64 bits. -/
def SpellsAxis (label : String) (index : Nat) (direction : Direction) : Prop :=
  ∃ plus digits sign, label.toList = plus ++ digits ++ [sign] ∧ (plus = [] ∨ plus = ['+'])
    ∧ digits ≠ [] ∧ (∀ c ∈ digits, c.isDigit = true)
    ∧ (sign = '+' ∧ direction = .positive ∨ sign = '-' ∧ direction = .negative)
    ∧ Nat.ofDigitChars 10 digits 0 = index ∧ index < 2 ^ 64

theorem digits?_eq_some_iff {cs : List Char} {n : Nat} :
    digits? cs = some n ↔ cs ≠ [] ∧ (∀ c ∈ cs, c.isDigit = true)
      ∧ Nat.ofDigitChars 10 cs 0 = n := by
  rw [digits?]
  split
  · rename_i h
    rw [Option.some_inj]
    exact ⟨fun hvalue => ⟨h.1, List.all_eq_true.mp h.2, hvalue⟩, fun hdigits => hdigits.2.2⟩
  · rename_i h
    refine iff_of_false (by simp) ?_
    rintro ⟨hne, hall, _⟩
    exact h ⟨hne, List.all_eq_true.mpr hall⟩

/-- A number may have a plus sign, which is no digit itself. -/
theorem index?_eq_some_iff {cs : List Char} {n : Nat} :
    index? cs = some n ↔ ∃ plus digits, cs = plus ++ digits ∧ (plus = [] ∨ plus = ['+'])
      ∧ digits ≠ [] ∧ (∀ c ∈ digits, c.isDigit = true)
      ∧ Nat.ofDigitChars 10 digits 0 = n ∧ n < 2 ^ 64 := by
  have hread : ∀ unsigned : List Char, (digits? unsigned).filter (· < wordBound) = some n
      ↔ unsigned ≠ [] ∧ (∀ c ∈ unsigned, c.isDigit = true)
        ∧ Nat.ofDigitChars 10 unsigned 0 = n ∧ n < 2 ^ 64 := by
    intro unsigned
    rw [Option.filter_eq_some_iff, digits?_eq_some_iff, wordBound_eq, decide_eq_true_eq,
      and_assoc, and_assoc]
  unfold index?
  constructor
  · intro h
    split at h
    · rename_i rest
      obtain ⟨hne, hall, hvalue, hlt⟩ := (hread rest).mp h
      exact ⟨['+'], rest, rfl, Or.inr rfl, hne, hall, hvalue, hlt⟩
    · obtain ⟨hne, hall, hvalue, hlt⟩ := (hread cs).mp h
      exact ⟨[], cs, rfl, Or.inl rfl, hne, hall, hvalue, hlt⟩
  · rintro ⟨plus, digits, rfl, rfl | rfl, hne, hall, hvalue, hlt⟩
    · have hsign : ∀ rest, digits ≠ '+' :: rest := by
        rintro rest rfl
        exact absurd (hall '+' List.mem_cons_self) (by decide)
      rw [List.nil_append]
      split
      · rename_i rest
        exact absurd rfl (hsign rest)
      · exact (hread digits).mpr ⟨hne, hall, hvalue, hlt⟩
    · exact (hread digits).mpr ⟨hne, hall, hvalue, hlt⟩

theorem ofLabel_eq_ok_iff {label : String} {control : Control} :
    Control.ofLabel label = .ok control
      ↔ ∃ index direction, control = .axis index direction ∧ SpellsAxis label index direction := by
  constructor
  · intro h
    rw [Control.ofLabel] at h
    split at h
    · rename_i direction index hsign hindex
      injection h with h
      obtain ⟨c, hlast, hc⟩ := Option.bind_eq_some_iff.mp hsign
      obtain ⟨front, hfront⟩ := List.getLast?_eq_some_iff.mp hlast
      rw [hfront, List.dropLast_concat] at hindex
      obtain ⟨plus, digits, hsplit, hplus, hne, hall, hvalue, hlt⟩ := index?_eq_some_iff.mp hindex
      refine ⟨index, direction, h.symm, plus, digits, c, ?_, hplus, hne, hall,
        ofSign?_eq_some_iff.mp hc, hvalue, hlt⟩
      rw [hfront, hsplit]
    · exact absurd h (by simp)
  · rintro ⟨index, direction, rfl, plus, digits, sign, hlabel, hplus, hne, hall, hsign, hvalue,
      hlt⟩
    have hindex : index? (plus ++ digits) = some index :=
      index?_eq_some_iff.mpr ⟨plus, digits, rfl, hplus, hne, hall, hvalue, hlt⟩
    rw [Control.ofLabel, hlabel]
    simp only [List.getLast?_concat, List.dropLast_concat, Option.bind_some, hindex,
      ofSign?_eq_some_iff.mpr hsign]

/--
**The texts that can be read as an axis label, and what is read from them.**

Reading a label always gives an answer, also where it works on bytes and words. It accepts exactly
the texts that are an optional plus sign, one or more decimal digits that are worth less than 2^64,
and one sign; the result is the axis with that index and the direction of that sign, never a button.
All other texts are refused, with the text in the fault. In particular the label of every axis is
read back as that axis.
-/
theorem ofLabel_accepts_exactly :
    (∀ label, readLabel? label = some (Control.ofLabel label)
        ∧ (∀ control, Control.ofLabel label = .ok control
          ↔ ∃ index direction, control = .axis index direction ∧ SpellsAxis label index direction)
        ∧ (Control.ofLabel label = .error ⟨label⟩
          ↔ ¬ ∃ index direction, SpellsAxis label index direction))
      ∧ ∀ index direction, index < 2 ^ 64 → ∃ label,
          (Control.axis index direction).label? = some label
            ∧ Control.ofLabel label = .ok (.axis index direction) := by
  refine ⟨fun label => ⟨readLabel?_eq label, fun control => ofLabel_eq_ok_iff, ?_⟩, ?_⟩
  · constructor
    · rintro herror ⟨index, direction, hlabel⟩
      rw [ofLabel_eq_ok_iff.mpr ⟨index, direction, rfl, hlabel⟩] at herror
      exact absurd herror (by simp)
    · intro hnone
      rw [Control.ofLabel]
      split
      · rename_i direction index hsign hindex
        have hok : Control.ofLabel label = .ok (.axis index direction) := by
          rw [Control.ofLabel]
          simp only [hsign, hindex]
        obtain ⟨index', direction', _, hlabel⟩ := ofLabel_eq_ok_iff.mp hok
        exact absurd ⟨index', direction', hlabel⟩ hnone
      · rfl
  · intro index direction hindex
    exact ⟨_, rfl, ofLabel_axisLabel hindex direction⟩

/-- The last index there is, and a label with a sign, zeros and a plus at both ends. -/
theorem ofLabel_of_largest_index :
    2 ^ 64 - 1 < 2 ^ 64
      ∧ (∃ label, (Control.axis (2 ^ 64 - 1) .negative).label? = some label
        ∧ Control.ofLabel label = .ok (.axis (2 ^ 64 - 1) .negative))
      ∧ Control.ofLabel "+007+" = .ok (.axis 7 .positive) := by
  obtain ⟨hlabels, hindices⟩ := ofLabel_accepts_exactly
  refine ⟨by decide, hindices _ _ (by decide), ?_⟩
  refine ((hlabels "+007+").2.1 _).mpr ⟨7, .positive, rfl, ['+'], ['0', '0', '7'], '+', rfl,
    Or.inr rfl, by simp, List.all_eq_true.mp rfl, Or.inl ⟨rfl, rfl⟩, rfl, by decide⟩

end PadMapping.Proofs
