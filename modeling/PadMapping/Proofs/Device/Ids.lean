import Mathlib.Data.List.Basic
import PadMapping.DeviceId
import PadMapping.Proofs.Text.Digits

/-!
# The numbers in the id of a device

The id of a device is its name followed by its two numbers, and a number is looked for by its label
from the front of the id on. So the name is searched first. A name in which a label is followed by a
digit hides the number of the device; any other name does not matter, not even one that breaks off
in the middle of a label, because the blank and the bracket behind the name do not go on with it.
-/

namespace PadMapping.Proofs

open Text DeviceId

/-! ## Looking for a number -/

/-- Somewhere in the text the label is followed by a digit. -/
def Labels (label text : List Char) : Prop :=
  ∃ front c rest, text = front ++ label ++ c :: rest ∧ isHexDigit c = true

/-- The digits are the whole number behind the first place of the text where the label is followed
by a digit. -/
def FirstNumber (label text digits : List Char) : Prop :=
  ∃ front rest, text = front ++ label ++ digits ++ rest ∧ digits ≠ []
    ∧ (∀ c ∈ digits, isHexDigit c = true) ∧ StopsAt isHexDigit rest
    ∧ ∀ front' c rest', text = front' ++ label ++ c :: rest' → isHexDigit c = true →
        front.length ≤ front'.length

section

variable {label text digits : List Char}

theorem digitsAfter?_of_append {rest : List Char} (hdigits : digits ≠ [])
    (hall : ∀ c ∈ digits, isHexDigit c = true) (hrest : StopsAt isHexDigit rest) :
    digitsAfter? label (label ++ digits ++ rest) = some digits := by
  have hlabel : label.isPrefixOf? (label ++ digits ++ rest) = some (digits ++ rest) := by
    rw [List.isPrefixOf?_eq_some_iff_append_eq, List.append_assoc]
  have hrun : (digits ++ rest).takeWhile isHexDigit = digits := takeWhile_of_stopsAt hall hrest
  rw [digitsAfter?, hlabel]
  simp [hrun, hdigits]

theorem append_of_digitsAfter? (h : digitsAfter? label text = some digits) :
    ∃ rest, text = label ++ digits ++ rest ∧ digits ≠ []
      ∧ (∀ c ∈ digits, isHexDigit c = true) ∧ StopsAt isHexDigit rest := by
  rw [digitsAfter?] at h
  split at h
  · exact absurd h (by simp)
  · rename_i rest hlabel
    rw [List.isPrefixOf?_eq_some_iff_append_eq] at hlabel
    dsimp only at h
    split at h
    · exact absurd h (by simp)
    · rename_i hne
      injection h with h
      refine ⟨rest.dropWhile isHexDigit, ?_, ?_, ?_, ?_⟩
      · rw [← h, List.append_assoc, List.takeWhile_append_dropWhile, hlabel]
      · rw [← h]
        simpa using hne
      · rw [← h]
        exact List.all_eq_true.mp List.all_takeWhile
      · exact stopsAt_dropWhile rest

theorem digitsAfter?_eq_none_iff : digitsAfter? label text = none
    ↔ ∀ c rest, text = label ++ c :: rest → isHexDigit c = false := by
  constructor
  · intro hnone c rest htext
    by_contra hdigit
    have hc : isHexDigit c = true := by simpa using hdigit
    have hsplit : (c :: rest).takeWhile isHexDigit ++ rest.dropWhile isHexDigit = c :: rest := by
      simp [hc]
    have hsome : digitsAfter? label (label ++ (c :: rest).takeWhile isHexDigit
        ++ rest.dropWhile isHexDigit) = some ((c :: rest).takeWhile isHexDigit) :=
      digitsAfter?_of_append (by simp [hc]) (List.all_eq_true.mp List.all_takeWhile)
        (stopsAt_dropWhile rest)
    rw [List.append_assoc, hsplit, ← htext, hnone] at hsome
    exact absurd hsome (by simp)
  · intro hother
    cases h : digitsAfter? label text with
    | none => rfl
    | some digits =>
        obtain ⟨rest, htext, hne, hall, _⟩ := append_of_digitsAfter? h
        obtain ⟨c, digits', rfl⟩ := List.exists_cons_of_ne_nil hne
        have hc := hother c (digits' ++ rest) (by simpa using htext)
        rw [hall c List.mem_cons_self] at hc
        exact absurd hc (by simp)

/-- What is found is the first number behind the label. -/
theorem firstNumber_of_find? : ∀ {text : List Char}, find? label text = some digits →
    FirstNumber label text digits := by
  -- induction on the text: a place at its front is before all others
  intro text
  have hfront : ∀ text, digitsAfter? label text = some digits →
      FirstNumber label text digits := by
    intro text h
    obtain ⟨rest, htext, hne, hall, hstop⟩ := append_of_digitsAfter? h
    exact ⟨[], rest, by simpa using htext, hne, hall, hstop, fun _ _ _ _ _ => Nat.zero_le _⟩
  induction text with
  | nil => exact hfront []
  | cons x text ih =>
      intro h
      rw [find?, Option.or_eq_some_iff] at h
      rcases h with h | ⟨hnone, h⟩
      · exact hfront _ h
      · obtain ⟨front, rest, htext, hne, hall, hstop, hfirst⟩ := ih h
        refine ⟨x :: front, rest, by simp [htext], hne, hall, hstop, ?_⟩
        intro front' c rest' htext' hc
        cases front' with
        | nil =>
            rw [digitsAfter?_eq_none_iff.mp hnone c rest' (by simpa using htext')] at hc
            exact absurd hc (by simp)
        | cons y front' =>
            injection htext' with _ htext'
            exact Nat.succ_le_succ (hfirst front' c rest' htext' hc)

theorem not_labels_of_find? : ∀ {text : List Char}, find? label text = none →
    ¬ Labels label text := by
  intro text
  induction text with
  | nil =>
      intro h ⟨front, c, rest, htext, _⟩
      simp at htext
  | cons x text ih =>
      intro h ⟨front, c, rest, htext, hc⟩
      rw [find?, Option.or_eq_none_iff] at h
      cases front with
      | nil =>
          rw [digitsAfter?_eq_none_iff.mp h.1 c rest (by simpa using htext)] at hc
          exact absurd hc (by simp)
      | cons y front =>
          injection htext with _ htext
          exact ih h.2 ⟨front, c, rest, htext, hc⟩

/-- A number at the front of a text is found. -/
theorem find?_of_append {rest : List Char} (hdigits : digits ≠ [])
    (hall : ∀ c ∈ digits, isHexDigit c = true) (hrest : StopsAt isHexDigit rest) :
    find? label (label ++ digits ++ rest) = some digits := by
  have hfound : digitsAfter? label (label ++ digits ++ rest) = some digits :=
    digitsAfter?_of_append hdigits hall hrest
  cases htext : label ++ digits ++ rest with
  | nil => rw [htext] at hfound; exact hfound
  | cons c text => rw [htext] at hfound; rw [find?, hfound]; rfl

/-- Characters with which the label does not begin are passed over. -/
theorem find?_skip {l : Char} {front : List Char} (h : ∀ c ∈ front, c ≠ l) (text : List Char) :
    find? (l :: label) (front ++ text) = find? (l :: label) text := by
  induction front with
  | nil => rfl
  | cons c front ih =>
      have hnone : digitsAfter? (l :: label) (c :: (front ++ text)) = none := by
        rw [digitsAfter?_eq_none_iff]
        intro x rest htext
        injection htext with hc _
        exact absurd hc (h c List.mem_cons_self)
      rw [List.cons_append, find?, hnone, Option.none_or]
      exact ih fun c' hc' => h c' (List.mem_cons_of_mem c hc')

end

/-! ## Numbers that a name holds -/

section

variable {word rest : List Char} {c : Char}

/-- A label that ends with its only blank is not made by a blank with something behind it that is
no digit. -/
theorem digitsAfter?_append_blank (hword : ' ' ∉ word) (hc : isHexDigit c = false)
    (front : List Char) :
    digitsAfter? (word ++ [' ']) (front ++ ' ' :: c :: rest)
      = digitsAfter? (word ++ [' ']) front := by
  have hblank : StopsAt isHexDigit (' ' :: c :: rest) := stopsAt_cons.mpr (by decide)
  cases hlabel : (word ++ [' ']).isPrefixOf? front with
  | some tail =>
      have hfront' := List.isPrefixOf?_eq_some_iff_append_eq.mp hlabel
      have hbehind : (word ++ [' ']).isPrefixOf? (front ++ ' ' :: c :: rest)
          = some (tail ++ ' ' :: c :: rest) := by
        rw [List.isPrefixOf?_eq_some_iff_append_eq, ← hfront', List.append_assoc,
          List.append_assoc, List.append_assoc]
      rw [digitsAfter?, digitsAfter?, hlabel, hbehind]
      simp only [takeWhile_append_of_stopsAt tail hblank]
  | none =>
      have hnone : digitsAfter? (word ++ [' ']) front = none := by rw [digitsAfter?, hlabel]
      rw [hnone, digitsAfter?_eq_none_iff]
      intro x text htext
      have hnot : ∀ a, front ≠ word ++ [' '] ++ a := by
        intro a ha
        have hsome := List.isPrefixOf?_eq_some_iff_append_eq.mpr ha.symm
        rw [hlabel] at hsome
        exact absurd hsome (by simp)
      rcases List.append_eq_append_iff.mp htext with ⟨a, ha, htail⟩ | ⟨a, ha, _⟩
      · -- the label reaches beyond the front, so its blank is the one behind the front
        cases a with
        | nil => exact absurd (by simpa using ha.symm) (hnot [])
        | cons b a =>
            injection htail with hb htail
            subst hb
            cases a with
            | nil =>
                injection htail with hx _
                rwa [← hx]
            | cons b a =>
                have hmem : ' ' ∈ word := by
                  have hlast := congrArg List.dropLast ha
                  rw [List.dropLast_concat] at hlast
                  rw [hlast, List.dropLast_append_of_ne_nil (by simp)]
                  simp
                exact absurd hmem hword
      · exact absurd ha (hnot a)

/-- Behind a text, a blank and something that is no digit, a number is found only if the text does
not hold one. -/
theorem find?_append_blank (hword : ' ' ∉ word) (hc : isHexDigit c = false) (front : List Char) :
    find? (word ++ [' ']) (front ++ ' ' :: c :: rest)
      = (find? (word ++ [' ']) front).or (find? (word ++ [' ']) (' ' :: c :: rest)) := by
  induction front with
  | nil =>
      have hnone : find? (word ++ [' ']) [] = none := by
        rw [find?, digitsAfter?_eq_none_iff]
        intro x text htext
        simp at htext
      rw [hnone, Option.none_or]
      rfl
  | cons x front ih =>
      have hfront : digitsAfter? (word ++ [' ']) (x :: (front ++ ' ' :: c :: rest))
          = digitsAfter? (word ++ [' ']) (x :: front) :=
        digitsAfter?_append_blank hword hc (x :: front)
      rw [List.cons_append, find?.eq_2, ih, hfront, find?.eq_2 _ x front, Option.or_assoc]

end

/-! ## The numbers of a device -/

/-- The digits are the four lower-case ones in which a 16-bit number is written. -/
structure Spells (digits : String) (n : UInt16) : Prop where
  length : digits.toList.length = 4
  lower : ∀ c ∈ digits.toList, c ∈ lowerHexDigits
  value : hexDigits? digits.toList = some n.toNat

theorem spells_fourDigits (n : UInt16) : Spells (fourDigits n) n := by
  have hdigits : (fourDigits n).toList = hexPadded 4 n.toNat := String.toList_ofList
  refine ⟨?_, ?_, ?_⟩
  · rw [hdigits]
    exact length_hexPadded n.toNat_lt (by decide)
  · rw [hdigits]
    exact fun c hc => mem_lowerHexDigits_of_mem_hexPadded hc
  · rw [hdigits]
    exact hexDigits?_hexPadded 4 n.toNat

theorem Spells.ne_nil {digits : String} {n : UInt16} (h : Spells digits n) :
    digits.toList ≠ [] := by
  intro hnil
  have hlength := h.length
  rw [hnil] at hlength
  exact absurd hlength (by decide)

theorem Spells.isHexDigit {digits : String} {n : UInt16} (h : Spells digits n) :
    ∀ c ∈ digits.toList, isHexDigit c = true :=
  fun c hc => isHexDigit_of_mem_lowerHexDigits c (h.lower c hc)

section

variable (name : Option String) (vendor product : UInt16)

/-- What the id of a device goes on with after its name. -/
def numbers : List Char :=
  [' ', '('] ++ vendorLabel.toList ++ (fourDigits vendor).toList ++ [' '] ++ productLabel.toList
    ++ (fourDigits product).toList ++ [')']

theorem format_toList :
    (format name vendor product).toList
      = (name.getD unknownName).toList ++ numbers vendor product := by
  simp [format, numbers]

/-- A number is found behind its label if the label does not begin any earlier. -/
theorem find?_behind {l : Char} {label skipped rest : List Char} {digits : String} {n : UInt16}
    (hskipped : ∀ c ∈ skipped, c ≠ l) (hdigits : Spells digits n)
    (hrest : StopsAt isHexDigit rest) :
    find? (l :: label) (skipped ++ (l :: label ++ digits.toList ++ rest))
      = some digits.toList := by
  rw [find?_skip hskipped]
  exact find?_of_append hdigits.ne_nil hdigits.isHexDigit hrest

theorem find?_vendor :
    find? vendorLabel.toList (numbers vendor product) = some (fourDigits vendor).toList := by
  have hlabel : vendorLabel.toList = 'V' :: "endor: ".toList := by decide
  have hnumbers : numbers vendor product
      = [' ', '('] ++ ('V' :: "endor: ".toList ++ (fourDigits vendor).toList
        ++ ' ' :: (productLabel.toList ++ (fourDigits product).toList ++ [')'])) := by
    simp [numbers, hlabel]
  rw [hnumbers, hlabel]
  exact find?_behind (by simp) (spells_fourDigits vendor) (stopsAt_cons.mpr (by decide))

theorem find?_product :
    find? productLabel.toList (numbers vendor product) = some (fourDigits product).toList := by
  have hlabel : productLabel.toList = 'P' :: "roduct: ".toList := by decide
  have hnumbers : numbers vendor product
      = ([' ', '('] ++ vendorLabel.toList ++ (fourDigits vendor).toList ++ [' '])
        ++ ('P' :: "roduct: ".toList ++ (fourDigits product).toList ++ [')']) := by
    simp [numbers, hlabel]
  have hskipped : ∀ c ∈ [' ', '('] ++ vendorLabel.toList ++ (fourDigits vendor).toList ++ [' '],
      c ≠ 'P' := by
    intro c hc
    simp only [List.mem_append] at hc
    rcases hc with ((hc | hc) | hc) | hc
    · rintro rfl
      exact absurd hc (by decide)
    · rintro rfl
      exact absurd hc (by decide)
    · have hdigit := (spells_fourDigits vendor).isHexDigit c hc
      rintro rfl
      exact absurd hdigit (by decide)
    · rintro rfl
      exact absurd hc (by decide)
  rw [hnumbers, hlabel]
  exact find?_behind hskipped (spells_fourDigits product) (stopsAt_cons.mpr (by decide))

/-- A number in the id of a device is the first one in its name that has the same label, or else
the one of the device. -/
theorem find?_format {label word : List Char} (hlabel : label = word ++ [' '])
    (hword : ' ' ∉ word) :
    find? label (format name vendor product).toList
      = (find? label (name.getD unknownName).toList).or
        (find? label (numbers vendor product)) := by
  rw [format_toList, hlabel, numbers]
  exact find?_append_blank hword (by decide) _

end

/-- What a number that was read from the id of a device has to do with the one of the device. -/
structure NumberRead (label : String) (name digits : String) (n : UInt16) : Prop where
  /-- A name that holds a number under the label hides the one of the device. -/
  hidden : Labels label.toList name.toList → FirstNumber label.toList name.toList digits.toList
  /-- Otherwise it is the one of the device. -/
  own : ¬ Labels label.toList name.toList → Spells digits n

theorem FirstNumber.labels {label text digits : List Char} (h : FirstNumber label text digits) :
    Labels label text := by
  obtain ⟨front, rest, htext, hne, hall, _⟩ := h
  obtain ⟨c, digits', rfl⟩ := List.exists_cons_of_ne_nil hne
  exact ⟨front, c, digits' ++ rest, by simpa using htext, hall c List.mem_cons_self⟩

theorem numberRead_of_find? {label name : String} {n : UInt16} :
    NumberRead label name
      (String.ofList ((find? label.toList name.toList).getD (fourDigits n).toList)) n := by
  cases h : find? label.toList name.toList with
  | some digits =>
      have hfirst := firstNumber_of_find? h
      refine ⟨fun _ => ?_, fun hnot => absurd hfirst.labels hnot⟩
      rw [Option.getD_some, String.toList_ofList]
      exact hfirst
  | none =>
      refine ⟨fun hlabels => absurd hlabels (not_labels_of_find? h), fun _ => ?_⟩
      rw [Option.getD_none, String.ofList_toList]
      exact spells_fourDigits n

/-- The id of a device can always be read. -/
theorem parse_format (name : Option String) (vendor product : UInt16) :
    let shown := (name.getD unknownName).toList
    DeviceId.parse (format name vendor product) = .ok {
      vendor := String.ofList ((find? vendorLabel.toList shown).getD (fourDigits vendor).toList)
      product := String.ofList ((find? productLabel.toList shown).getD (fourDigits product).toList)
      name := nameOf (format name vendor product) } := by
  have hvendor := find?_format name vendor product
    (show vendorLabel.toList = "Vendor:".toList ++ [' '] by decide) (by decide)
  have hproduct := find?_format name vendor product
    (show productLabel.toList = "Product:".toList ++ [' '] by decide) (by decide)
  rw [find?_vendor, Option.or_some] at hvendor
  rw [find?_product, Option.or_some] at hproduct
  rw [DeviceId.parse, hvendor, hproduct]

/--
**The numbers of a device are read from its id**, unless its name holds a number under the same
label.

The id of a device can always be read. The vendor and the product number in it are those of the
device, in four lower-case hexadecimal digits, as long as the name does not hold a digit behind the
label; a device without a name is never affected. For a name that does, the first number that it
holds there is read in place of the one of the device.
-/
theorem numbers_of_format (name : Option String) (vendor product : UInt16) :
    ∃ id, DeviceId.parse (format name vendor product) = .ok id
      ∧ NumberRead vendorLabel (name.getD unknownName) id.vendor vendor
      ∧ NumberRead productLabel (name.getD unknownName) id.product product
      ∧ (name = none → Spells id.vendor vendor ∧ Spells id.product product) := by
  refine ⟨_, parse_format name vendor product, numberRead_of_find?, numberRead_of_find?, ?_⟩
  intro hname
  subst hname
  exact ⟨numberRead_of_find?.own (not_labels_of_find? (by decide)),
    numberRead_of_find?.own (not_labels_of_find? (by decide))⟩

/-- A name that breaks off behind a label is harmless. -/
theorem numbers_of_broken_label :
    ¬ Labels vendorLabel.toList "Product: 1 Vendor:".toList
      ∧ ∃ id, DeviceId.parse (format (some "Product: 1 Vendor:") 0x054c 0x0ce6) = .ok id
        ∧ Spells id.vendor 0x054c := by
  have hnot : ¬ Labels vendorLabel.toList "Product: 1 Vendor:".toList :=
    not_labels_of_find? (by decide)
  obtain ⟨id, hid, hvendor, _⟩ := numbers_of_format (some "Product: 1 Vendor:") 0x054c 0x0ce6
  exact ⟨hnot, id, hid, hvendor.own hnot⟩

/-- **A name can stand in for the vendor number.** What is read from the id of this device is not
the number of its vendor. -/
theorem vendor_of_labelled_name : ∃ id,
    DeviceId.parse (format (some "Vendor: beef") 0x054c 0x0ce6) = .ok id
      ∧ id.vendor = "beef" ∧ ¬ Spells id.vendor 0x054c := by
  refine ⟨⟨"beef", "0ce6", "Vendor: beef"⟩, rfl, rfl, ?_⟩
  intro h
  exact absurd h.value (by decide)

end PadMapping.Proofs
