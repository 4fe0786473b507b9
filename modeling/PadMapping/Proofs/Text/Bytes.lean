import PadMapping.Text.Utf8

/-!
# The bytes of a text

A text is handed over as its bytes and read back from them. Both ways go through byte arrays, while
the rest of the library works with lists of bytes; this module brings the two together. The bytes of
two texts one after the other are the bytes of the first and then those of the second. Bytes encode a text
exactly if they are the bytes of that text.
-/

namespace PadMapping.Proofs

open Text

theorem toList_loop (bytes : ByteArray) (i : Nat) (read : List UInt8) :
    ByteArray.toList.loop bytes i read = read.reverse ++ bytes.data.toList.drop i := by
  fun_induction ByteArray.toList.loop bytes i read with
  | case1 i read hlt ih =>
      have hi : i < bytes.data.toList.length := hlt
      have hget : bytes.get! i = bytes.data.toList[i] := by simp [ByteArray.get!, hlt]
      rw [ih, List.drop_eq_getElem_cons hi, hget, List.reverse_cons, List.append_assoc]
      rfl
  | case2 i read hge =>
      rw [List.drop_eq_nil_of_le (Nat.le_of_not_lt hge), List.append_nil]

theorem toList_toUTF8 (text : String) : text.toUTF8.toList = text.toByteArray.data.toList := by
  rw [ByteArray.toList, toList_loop]
  rfl

theorem toUTF8_append (a b : String) :
    (a ++ b).toUTF8.toList = a.toUTF8.toList ++ b.toUTF8.toList := by
  rw [toList_toUTF8, toList_toUTF8, toList_toUTF8, String.toByteArray_append,
    ByteArray.toList_data_append]

theorem decode?_toUTF8 (text : String) : decode? text.toUTF8.toList = some text := by
  have hbytes : (⟨text.toUTF8.toList.toArray⟩ : ByteArray) = text.toByteArray := by
    rw [toList_toUTF8, Array.toArray_toList]
  rw [decode?, hbytes, String.fromUTF8?, dif_pos (show text.toByteArray.IsValidUTF8 from
    text.isValidUTF8)]
  rfl

theorem decode?_eq_some_iff {bytes : List UInt8} {text : String} :
    decode? bytes = some text ↔ bytes = text.toUTF8.toList := by
  constructor
  · intro h
    rw [decode?, String.fromUTF8?] at h
    split at h
    · injection h with h
      rw [← h, toList_toUTF8]
      rfl
    · exact absurd h (by simp)
  · rintro rfl
    exact decode?_toUTF8 text

end PadMapping.Proofs
