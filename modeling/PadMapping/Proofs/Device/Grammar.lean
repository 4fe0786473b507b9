import PadMapping.Failure
import PadMapping.Proofs.Device.Ids
import PadMapping.Proofs.Text.Trimmed

/-!
# Which texts are device ids

A text is a device id if somewhere in it each of the two labels is followed by a digit. What is read
from it is settled by the text alone: the numbers are those at the first such places, and the name
is what comes before the first bracket, without the blanks around it. Nothing is asked of the order
of the labels, of what comes between them, or of a bracket.

Reading looks for the labels from the front on and passes over those that are followed by something
else. That it finds the first place is `firstNumber_of_find?`; that there is only one first number
(`FirstNumber.unique`) makes the two the same.
-/

namespace PadMapping.Proofs

open Text DeviceId

section

variable {label text digits : List Char}

/-- A text has at most one first number behind a label. -/
theorem FirstNumber.unique {digits' : List Char} (h : FirstNumber label text digits)
    (h' : FirstNumber label text digits') : digits = digits' := by
  obtain ⟨front, rest, htext, hne, hall, hstop, hfirst⟩ := h
  obtain ⟨front', rest', htext', hne', hall', hstop', hfirst'⟩ := h'
  obtain ⟨c, more, hdigits⟩ := List.exists_cons_of_ne_nil hne
  obtain ⟨c', more', hdigits'⟩ := List.exists_cons_of_ne_nil hne'
  -- neither place is before the other
  have hle : front.length ≤ front'.length := by
    refine hfirst front' c' (more' ++ rest') ?_ (hall' c' (hdigits' ▸ List.mem_cons_self))
    rw [htext', hdigits']
    simp
  have hge : front'.length ≤ front.length := by
    refine hfirst' front c (more ++ rest) ?_ (hall c (hdigits ▸ List.mem_cons_self))
    rw [htext, hdigits]
    simp
  have hsame : front ++ (label ++ (digits ++ rest)) = front' ++ (label ++ (digits' ++ rest')) := by
    rw [← List.append_assoc, ← List.append_assoc, ← htext, htext', List.append_assoc,
      List.append_assoc]
  obtain ⟨_, hbehind⟩ := List.append_inj hsame (Nat.le_antisymm hle hge)
  have hrun : digits ++ rest = digits' ++ rest' := List.append_cancel_left hbehind
  rw [← takeWhile_of_stopsAt hall hstop, hrun, takeWhile_of_stopsAt hall' hstop']

theorem find?_eq_some_iff : find? label text = some digits ↔ FirstNumber label text digits := by
  constructor
  · exact firstNumber_of_find?
  · intro h
    cases hfound : find? label text with
    | none => exact absurd h.labels (not_labels_of_find? hfound)
    | some digits' => rw [h.unique (firstNumber_of_find? hfound)]

theorem find?_eq_none_iff : find? label text = none ↔ ¬ Labels label text := by
  constructor
  · exact not_labels_of_find?
  · intro h
    cases hfound : find? label text with
    | none => rfl
    | some digits => exact absurd (firstNumber_of_find? hfound).labels h

theorem find?_isSome_iff : (∃ digits, find? label text = some digits) ↔ Labels label text := by
  rw [← Option.isSome_iff_exists, ← Option.ne_none_iff_isSome, ne_eq, find?_eq_none_iff,
    Classical.not_not]

end

/-! ## The name -/

/-- The part of a text before its first bracket, or the whole text if it has none. -/
def BeforeBracket (text part : List Char) : Prop :=
  '(' ∉ part ∧ (text = part ∨ ∃ rest, text = part ++ '(' :: rest)

theorem beforeBracket_iff {text part : List Char} :
    BeforeBracket text part ↔ part = text.takeWhile (· ≠ '(') := by
  constructor
  · rintro ⟨hpart, htext⟩
    have hall : ∀ c ∈ part, (decide (c ≠ '(')) = true := fun c hc =>
      decide_eq_true fun heq => hpart (heq ▸ hc)
    rcases htext with rfl | ⟨rest, rfl⟩
    · have hrun := takeWhile_of_stopsAt hall (stopsAt_nil _)
      rw [List.append_nil] at hrun
      exact hrun.symm
    · exact (takeWhile_of_stopsAt hall (stopsAt_cons.mpr (by decide))).symm
  · rintro rfl
    refine ⟨?_, ?_⟩
    · intro hmem
      exact of_decide_eq_true (List.all_eq_true.mp List.all_takeWhile '(' hmem) rfl
    · have hsplit : text.takeWhile (· ≠ '(') ++ text.dropWhile (· ≠ '(') = text :=
        List.takeWhile_append_dropWhile
      cases hdrop : text.dropWhile (· ≠ '(') with
      | nil =>
          left
          rw [hdrop, List.append_nil] at hsplit
          exact hsplit.symm
      | cons c rest =>
          -- only a bracket stops the run
          have hbracket : (decide (c ≠ '(')) = false :=
            stopsAt_dropWhile (p := fun c => decide (c ≠ '(')) text c (by rw [hdrop]; simp)
          have hc : c = '(' := by simpa using hbracket
          right
          refine ⟨rest, ?_⟩
          rw [hdrop, hc] at hsplit
          exact hsplit.symm

theorem nameOf_eq_iff {id name : String} :
    name = nameOf id ↔ ∃ part, BeforeBracket id.toList part ∧ TrimsTo part name.toList := by
  have hname : name = nameOf id ↔ name.toList = trimmed (id.toList.takeWhile (· ≠ '(')) := by
    rw [nameOf, trim, String.toList_ofList, ← String.toList_inj, String.toList_ofList]
  rw [hname]
  constructor
  · intro h
    exact ⟨_, beforeBracket_iff.mpr rfl, trimsTo_iff.mpr h⟩
  · rintro ⟨part, hpart, htrims⟩
    rw [← beforeBracket_iff.mp hpart]
    exact trimsTo_iff.mp htrims

/-! ## Reading -/

/-- What a text says about a device. -/
structure Describes (id : String) (d : DeviceId) : Prop where
  vendor : FirstNumber "Vendor: ".toList id.toList d.vendor.toList
  product : FirstNumber "Product: ".toList id.toList d.product.toList
  name : ∃ part, BeforeBracket id.toList part ∧ TrimsTo part d.name.toList

theorem parse_eq_ok_iff {id : String} {d : DeviceId} :
    DeviceId.parse id = .ok d ↔ Describes id d := by
  constructor
  · intro h
    rw [DeviceId.parse] at h
    split at h
    · exact absurd h (by simp)
    · exact absurd h (by simp)
    · rename_i vendor product hvendor hproduct
      injection h with h
      subst h
      have hvendor' : (String.ofList vendor).toList = vendor := String.toList_ofList
      have hproduct' : (String.ofList product).toList = product := String.toList_ofList
      refine ⟨?_, ?_, nameOf_eq_iff.mp rfl⟩
      · rw [hvendor']
        exact firstNumber_of_find? hvendor
      · rw [hproduct']
        exact firstNumber_of_find? hproduct
  · rintro ⟨hvendor, hproduct, hname⟩
    have hvendor' : find? vendorLabel.toList id.toList = some d.vendor.toList :=
      find?_eq_some_iff.mpr hvendor
    have hproduct' : find? productLabel.toList id.toList = some d.product.toList :=
      find?_eq_some_iff.mpr hproduct
    rw [DeviceId.parse, hvendor', hproduct', ← nameOf_eq_iff.mpr hname]
    simp

theorem parse_eq_noVendor_iff {id : String} :
    DeviceId.parse id = .error (.noVendor id) ↔ ¬ Labels "Vendor: ".toList id.toList := by
  have hvendor : find? vendorLabel.toList id.toList = none
      ↔ ¬ Labels "Vendor: ".toList id.toList := find?_eq_none_iff
  rw [← hvendor, DeviceId.parse]
  cases find? vendorLabel.toList id.toList with
  | none => simp
  | some vendor => cases find? productLabel.toList id.toList <;> simp

theorem parse_eq_noProduct_iff {id : String} :
    DeviceId.parse id = .error (.noProduct id)
      ↔ Labels "Vendor: ".toList id.toList ∧ ¬ Labels "Product: ".toList id.toList := by
  have hvendor : (∃ digits, find? vendorLabel.toList id.toList = some digits)
      ↔ Labels "Vendor: ".toList id.toList := find?_isSome_iff
  have hproduct : find? productLabel.toList id.toList = none
      ↔ ¬ Labels "Product: ".toList id.toList := find?_eq_none_iff
  rw [← hvendor, ← hproduct, DeviceId.parse]
  cases find? vendorLabel.toList id.toList with
  | none => simp
  | some vendor => cases find? productLabel.toList id.toList <;> simp

/--
**The texts that can be read as a device id, and what is read from them.**

A text can be read exactly if each label is followed by a hexadecimal digit somewhere in it. Then
the vendor and the product number are the whole runs of digits at the first such places, in the case
in which they are written, and the name is what comes before the first bracket without the blanks
around it. Otherwise the fault is that there is no vendor number, and only if there is one, that
there is no product number.
-/
theorem parse_accepts_exactly (id : String) :
    ((∃ d, DeviceId.parse id = .ok d)
        ↔ Labels "Vendor: ".toList id.toList ∧ Labels "Product: ".toList id.toList)
      ∧ (∀ d, DeviceId.parse id = .ok d ↔ Describes id d)
      ∧ (DeviceId.parse id = .error (.noVendor id) ↔ ¬ Labels "Vendor: ".toList id.toList)
      ∧ (DeviceId.parse id = .error (.noProduct id)
        ↔ Labels "Vendor: ".toList id.toList ∧ ¬ Labels "Product: ".toList id.toList)
      ∧ (Failure.snippet (.device (.noVendor id))).message
        = "Codegen error: " ++ ("no vendor id in device id '" ++ id ++ "'")
      ∧ (Failure.snippet (.device (.noProduct id))).message
        = "Codegen error: " ++ ("no product id in device id '" ++ id ++ "'") := by
  refine ⟨?_, fun d => parse_eq_ok_iff, parse_eq_noVendor_iff, parse_eq_noProduct_iff, rfl, rfl⟩
  constructor
  · rintro ⟨d, hd⟩
    obtain ⟨hvendor, hproduct, _⟩ := parse_eq_ok_iff.mp hd
    exact ⟨hvendor.labels, hproduct.labels⟩
  · rintro ⟨hvendor, hproduct⟩
    obtain ⟨vendor, hvendor'⟩ : ∃ digits, find? vendorLabel.toList id.toList = some digits :=
      find?_isSome_iff.mpr hvendor
    obtain ⟨product, hproduct'⟩ : ∃ digits, find? productLabel.toList id.toList = some digits :=
      find?_isSome_iff.mpr hproduct
    exact ⟨_, by rw [DeviceId.parse, hvendor', hproduct']⟩

/-- Labels that no digit follows are passed over, and the name may have labels in it. -/
example : DeviceId.parse "Vendor: Vendor: 1Product: x Product: F("
    = .ok ⟨"1", "F", "Vendor: Vendor: 1Product: x Product: F"⟩ := by rfl

end PadMapping.Proofs
