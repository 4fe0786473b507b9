import Mathlib.Data.List.TakeWhile
import PadMapping.Proofs.Text.Digits
import PadMapping.Text.Blank

/-!
# Texts without the blanks at their ends

Trimming is done by dropping from the front and, on the reversed text, from the back. What it comes
to is said here without either: the text is the trimmed one between two runs of blanks, and the
trimmed one neither begins nor ends with a blank. There is only one such text (`trimsTo_iff`).

A character that has something other than blanks on both sides stays (`trimmed_between`), and so
does the last one that is no blank (`trimmed_before_blanks`).
-/

namespace PadMapping.Proofs

open Text

/-- The text is `inner` between two runs of blanks, of which `inner` itself has none at its ends. -/
def TrimsTo (text inner : List Char) : Prop :=
  ∃ front back, text = front ++ inner ++ back ∧ (∀ c ∈ front, isBlank c = true)
    ∧ (∀ c ∈ back, isBlank c = true) ∧ StopsAt isBlank inner ∧ StopsAt isBlank inner.reverse

section

variable {text inner : List Char}

theorem trimsTo_trimmed (text : List Char) : TrimsTo text (trimmed text) := by
  have hfront : text.takeWhile isBlank ++ text.dropWhile isBlank = text :=
    List.takeWhile_append_dropWhile
  have hback : trimmed text ++ ((text.dropWhile isBlank).reverse.takeWhile isBlank).reverse
      = text.dropWhile isBlank := by
    rw [trimmed, ← List.reverse_append, List.takeWhile_append_dropWhile, List.reverse_reverse]
  refine ⟨text.takeWhile isBlank, ((text.dropWhile isBlank).reverse.takeWhile isBlank).reverse,
    ?_, List.all_eq_true.mp List.all_takeWhile, ?_, ?_, ?_⟩
  · rw [List.append_assoc, hback, hfront]
  · intro c hc
    exact List.all_eq_true.mp List.all_takeWhile c (List.mem_reverse.mp hc)
  · -- what is left after the front is dropped begins as the trimmed text does
    intro c hc
    have hhead : c ∈ (text.dropWhile isBlank).head? := by
      rw [← hback, List.head?_append]
      rw [Option.mem_def.mp hc]
      rfl
    exact stopsAt_dropWhile text c hhead
  · rw [trimmed, List.reverse_reverse]
    exact stopsAt_dropWhile _

theorem TrimsTo.eq_trimmed (h : TrimsTo text inner) : inner = trimmed text := by
  obtain ⟨front, back, rfl, hfront, hback, hhead, hlast⟩ := h
  rw [trimmed, List.append_assoc]
  cases inner with
  | nil =>
      have hall : ∀ c ∈ front ++ ([] ++ back), isBlank c = true := by
        intro c hc
        rcases List.mem_append.mp hc with hc | hc
        · exact hfront c hc
        · exact hback c hc
      rw [List.dropWhile_eq_nil_iff.mpr hall]
      rfl
  | cons c inner =>
      have hrest : StopsAt isBlank (c :: inner ++ back) := stopsAt_cons.mpr (stopsAt_cons.mp hhead)
      have hback' : ∀ x ∈ back.reverse, isBlank x = true := fun x hx =>
        hback x (List.mem_reverse.mp hx)
      rw [dropWhile_of_stopsAt hfront hrest, List.reverse_append,
        dropWhile_of_stopsAt hback' hlast, List.reverse_reverse]

/-- Only from a blank text nothing is left. -/
theorem trimmed_eq_nil_iff {cs : List Char} :
    trimmed cs = [] ↔ ∀ c ∈ cs, isBlank c = true := by
  rw [trimmed, List.reverse_eq_nil_iff, List.dropWhile_eq_nil_iff]
  constructor
  · intro h c hc
    rw [← List.takeWhile_append_dropWhile (p := isBlank) (l := cs), List.mem_append] at hc
    rcases hc with hfront | hback
    · exact List.mem_takeWhile_imp hfront
    · exact h c (List.mem_reverse.mpr hback)
  · intro h c hc
    exact h c ((List.dropWhile_sublist _).mem (List.mem_reverse.mp hc))

/-- **There is one trimmed text, and trimming finds it.** -/
theorem trimsTo_iff : TrimsTo text inner ↔ inner = trimmed text := by
  constructor
  · exact TrimsTo.eq_trimmed
  · rintro rfl
    exact trimsTo_trimmed text

end

/-! ## Characters that stay -/

/-- Dropping blanks from the front goes no further than the first character that is none. -/
theorem dropWhile_append_of_mem {front : List Char} (h : ∃ x ∈ front, isBlank x = false)
    (rest : List Char) :
    (front ++ rest).dropWhile isBlank = front.dropWhile isBlank ++ rest := by
  obtain ⟨x, hx, hblank⟩ := h
  have hne : front.dropWhile isBlank ≠ [] := by
    intro hnil
    have hall := List.dropWhile_eq_nil_iff.mp hnil x hx
    rw [hblank] at hall
    exact absurd hall (by simp)
  rw [List.dropWhile_append, if_neg (by simpa using hne)]

/-- Between two characters that are no blanks nothing is lost. -/
theorem trimmed_between {front back : List Char} (hfront : ∃ x ∈ front, isBlank x = false)
    (hback : ∃ x ∈ back, isBlank x = false) (middle : List Char) :
    ∃ front' back', trimmed (front ++ middle ++ back) = front' ++ middle ++ back' := by
  have hback' : ∃ x ∈ back.reverse, isBlank x = false := by simpa using hback
  refine ⟨front.dropWhile isBlank, (back.reverse.dropWhile isBlank).reverse, ?_⟩
  rw [trimmed, List.append_assoc, dropWhile_append_of_mem hfront, List.reverse_append,
    List.reverse_append, List.append_assoc, dropWhile_append_of_mem hback']
  simp

/-- The last character that is no blank is the last one of the trimmed text. -/
theorem trimmed_before_blanks {c : Char} (hc : isBlank c = false) (front : List Char)
    {blanks : List Char} (hblanks : ∀ x ∈ blanks, isBlank x = true) :
    ∃ front', trimmed (front ++ c :: blanks) = front' ++ [c] := by
  have hdrop : ∃ front', (front ++ c :: blanks).dropWhile isBlank = front' ++ c :: blanks := by
    rw [List.dropWhile_append]
    split
    · exact ⟨[], by simp [hc]⟩
    · exact ⟨_, rfl⟩
  obtain ⟨front', hdrop⟩ := hdrop
  have hblanks' : ∀ x ∈ blanks.reverse, isBlank x = true := fun x hx =>
    hblanks x (List.mem_reverse.mp hx)
  have hreverse : (front' ++ c :: blanks).reverse = blanks.reverse ++ (c :: front'.reverse) := by
    simp
  refine ⟨front', ?_⟩
  rw [trimmed, hdrop, hreverse, dropWhile_of_stopsAt hblanks' (stopsAt_cons.mpr hc)]
  simp

end PadMapping.Proofs
