import PadMapping.Json.Decode
import PadMapping.Proofs.Json.Build

/-!
# Reading plain values back

Texts and indices are read back from the trees of their values. A text is read back whatever its
characters are, since none of them is written in halves; an index is read back if it is a number of
64 bits, since then no digit is dropped.
-/

namespace PadMapping.Proofs

open Json Text

/-! ## Texts -/

theorem joinPieces_chars (cs : List Char) : joinPieces none (cs.map .char) = .ok cs := by
  induction cs with
  | nil => rfl
  | cons c cs ih =>
      rw [List.map_cons, joinPieces, ih]
      rfl

@[simp] theorem decodeText_piecesOf (s : String) : decodeText (piecesOf s) none = .ok s := by
  rw [decodeText, piecesOf, joinPieces_chars]
  exact congrArg Except.ok String.ofList_toList

@[simp] theorem asText_nodeOf (s : String) : (nodeOf (.text s)).asText = .ok s := by
  rw [nodeOf, Node.asText, decodeText_piecesOf]

@[simp] theorem asKey_piecesOf (s : String) : (Node.text (piecesOf s) none).asKey = .ok s :=
  decodeText_piecesOf s

/-! ## Indices -/

/-- Digits are appended as long as the number that they make is one of 64 bits. -/
theorem appendDigits_of_lt : ∀ (ds : List Char) (word : Nat),
    Nat.ofDigitChars 10 ds word < wordBound →
      appendDigits word ds = (Nat.ofDigitChars 10 ds word, 0) := by
  intro ds
  induction ds with
  | nil => exact fun _ _ => rfl
  | cons d ds ih =>
      intro word h
      rw [Nat.ofDigitChars_cons] at h ⊢
      have hstep : word * 10 + digitValue d = 10 * word + (d.toNat - '0'.toNat) := by
        rw [digitValue, Nat.mul_comm]
      have hle : 10 * word + (d.toNat - '0'.toNat)
          ≤ Nat.ofDigitChars 10 ds (10 * word + (d.toNat - '0'.toNat)) := by
        rw [Nat.ofDigitChars_eq_ofDigitChars_zero (l := ds)]
        exact Nat.le_trans (Nat.le_mul_of_pos_left _ (Nat.pow_pos (by decide)))
          (Nat.le_add_right ..)
      rw [appendDigits, hstep, if_pos (Nat.lt_of_le_of_lt hle h)]
      exact ih _ h

theorem value?_numeralOf {n : Nat} (h : n < wordBound) :
    (numeralOf n).value? = some (.natural n) := by
  have happend : appendDigits 0 (Nat.toDigits 10 n) = (n, 0) := by
    have hn := appendDigits_of_lt (Nat.toDigits 10 n) 0 (by rwa [Nat.ofDigitChars_ten_toDigits])
    rwa [Nat.ofDigitChars_ten_toDigits] at hn
  rw [Numeral.value?, numeralOf]
  simp [happend]

theorem asIndex_nodeOf {n : Nat} (h : n < wordBound) : (nodeOf (.natural n)).asIndex = .ok n := by
  rw [nodeOf, Node.asIndex, value?_numeralOf h]

/-- The tree of a value is never the null. -/
theorem orNull_nodeOf {α : Type} (decode : Node → Decoded α) (v : Value) :
    (nodeOf v).orNull decode = some <$> decode (nodeOf v) := by
  cases v <;> rfl

/-! ## Records and lists -/

section

variable {slots : Type} {shape : RecordShape slots}

/-- A member with a key that names a field is read for this field. -/
theorem readMembers_text {key : String} {read : Node → slots → Decoded slots}
    (hread : shape.read key = some read) (value : Node) (members : List (Node × Node))
    (state : slots) :
    shape.readMembers state ((.text (piecesOf key) none, value) :: members)
      = (do shape.readMembers (← read value state) members) := by
  rw [RecordShape.readMembers, asKey_piecesOf]
  show (do shape.readMembers (← shape.readField key value state) members) = _
  rw [RecordShape.readField, hread]

theorem decode_object {α : Type} (finish : slots → Decoded α) (members : List (String × Value)) :
    shape.decode finish (nodeOf (.object members))
      = (do finish (← shape.readMembers shape.empty (memberNodesOf members))) := by
  rw [nodeOf, RecordShape.decode]
  rfl

end

theorem mapM_nodesOf {α : Type} {decode : Node → Decoded α} {toJson : α → Value} : ∀ {as : List α},
    (∀ a ∈ as, decode (nodeOf (toJson a)) = .ok a) →
      (nodesOf (as.map toJson)).mapM decode = .ok as := by
  intro as
  induction as with
  | nil => exact fun _ => rfl
  | cons a as ih =>
      intro h
      rw [List.map_cons, nodesOf, List.mapM_cons, h a List.mem_cons_self,
        ih fun b hb => h b (List.mem_cons_of_mem a hb)]
      rfl

theorem asList_nodeOf {α : Type} (decode : Node → Decoded α) (toJson : α → Value) {as : List α}
    (h : ∀ a ∈ as, decode (nodeOf (toJson a)) = .ok a) :
    (nodeOf (.array (as.map toJson))).asList decode = .ok as := by
  rw [nodeOf, Node.asList, mapM_nodesOf h]
  rfl

end PadMapping.Proofs
