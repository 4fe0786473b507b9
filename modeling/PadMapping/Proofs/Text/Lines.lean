import PadMapping.Proofs.Text.Bytes
import PadMapping.Text.Lines

/-!
# What the lines of an input are

An input is split into lines byte by byte, with the line that is being read kept backwards. What
comes of it is said here without that: each line is followed by its ending, a line feed with or
without one carriage return before it, and only the last line may go without. There is only one way
to take an input apart like this (`linesOf_iff`), so every input has its lines, whatever its bytes.
-/

namespace PadMapping.Proofs

open Text

/-- The lines of an input, without their endings. -/
inductive LinesOf : List UInt8 → List (List UInt8) → Prop where
  | nothing : LinesOf [] []
  /-- A last line without an ending. A carriage return in it is part of it. -/
  | last {line : List UInt8} : line ≠ [] → lineFeed ∉ line → LinesOf line [line]
  | feed {line rest : List UInt8} {lines : List (List UInt8)} : lineFeed ∉ line →
      line.getLast? ≠ some carriageReturn → LinesOf rest lines →
      LinesOf (line ++ lineFeed :: rest) (line :: lines)
  | returnFeed {line rest : List UInt8} {lines : List (List UInt8)} : lineFeed ∉ line →
      LinesOf rest lines →
      LinesOf (line ++ carriageReturn :: lineFeed :: rest) (line :: lines)

/-! ## Splitting -/

theorem splitLines_append {line : List UInt8} (h : lineFeed ∉ line) (current rest : List UInt8) :
    splitLines current (line ++ rest) = splitLines (line.reverse ++ current) rest := by
  induction line generalizing current with
  | nil => rfl
  | cons b line ih =>
      rw [List.mem_cons, not_or] at h
      rw [List.cons_append, splitLines, if_neg (Ne.symm h.1), ih h.2, List.reverse_cons,
        List.append_assoc]
      rfl

/-- A line up to its line feed, then the rest. -/
theorem lines_append_lineFeed {line : List UInt8} (h : lineFeed ∉ line) (rest : List UInt8) :
    lines (line ++ lineFeed :: rest) = chomp line :: lines rest := by
  rw [lines, splitLines_append h, List.append_nil, splitLines, if_pos rfl, List.reverse_reverse,
    lines]

theorem lines_of_noLineFeed {line : List UInt8} (hne : line ≠ []) (h : lineFeed ∉ line) :
    lines line = [line] := by
  have hsplit := splitLines_append h [] []
  rw [List.append_nil, List.append_nil] at hsplit
  rw [lines, hsplit, splitLines, if_neg (by simpa using hne), List.reverse_reverse]

theorem chomp_of_noReturn {line : List UInt8} (h : line.getLast? ≠ some carriageReturn) :
    chomp line = line :=
  if_neg h

theorem chomp_return (line : List UInt8) : chomp (line ++ [carriageReturn]) = line := by
  rw [chomp, if_pos (by simp), List.dropLast_concat]

theorem LinesOf.eq_lines {input : List UInt8} {found : List (List UInt8)}
    (h : LinesOf input found) : found = lines input := by
  induction h with
  | nothing => rfl
  | last hne hfeed => rw [lines_of_noLineFeed hne hfeed]
  | feed hfeed hreturn _ ih => rw [lines_append_lineFeed hfeed, chomp_of_noReturn hreturn, ih]
  | @returnFeed line rest _ hfeed _ ih =>
      have hfeed' : lineFeed ∉ line ++ [carriageReturn] := by
        simpa [hfeed] using show lineFeed ≠ carriageReturn by decide
      have hinput : line ++ carriageReturn :: lineFeed :: rest
          = (line ++ [carriageReturn]) ++ lineFeed :: rest := by simp
      rw [hinput, lines_append_lineFeed hfeed', chomp_return, ih]

/-- What is in front of a line feed is a line, whether it ends with a carriage return or not. -/
theorem LinesOf.cons {line rest : List UInt8} {found : List (List UInt8)} (h : LinesOf rest found)
    (hfeed : lineFeed ∉ line) : LinesOf (line ++ lineFeed :: rest) (chomp line :: found) := by
  by_cases hreturn : line.getLast? = some carriageReturn
  · obtain ⟨front, rfl⟩ := List.getLast?_eq_some_iff.mp hreturn
    rw [List.mem_append, not_or] at hfeed
    rw [chomp_return, List.append_assoc]
    exact .returnFeed hfeed.1 h
  · rw [chomp_of_noReturn hreturn]
    exact .feed hfeed hreturn h

/-- Splitting finds the lines, also when it is under way. -/
theorem linesOf_splitLines (current input : List UInt8) (hcurrent : lineFeed ∉ current) :
    LinesOf (current.reverse ++ input) (splitLines current input) := by
  fun_induction splitLines current input with
  | case1 current hempty =>
      rw [List.isEmpty_iff.mp hempty]
      exact .nothing
  | case2 current hempty =>
      rw [List.append_nil]
      exact .last (by simpa using hempty) (by simpa using hcurrent)
  | case3 current rest ih => exact (ih (by simp)).cons (by simpa using hcurrent)
  | case4 current b rest hb ih =>
      have hline := ih (by simp [hcurrent, Ne.symm hb])
      rwa [List.reverse_cons, List.append_assoc] at hline

/-- **An input has its lines and no others.** -/
theorem linesOf_iff {input : List UInt8} {found : List (List UInt8)} :
    LinesOf input found ↔ found = lines input := by
  constructor
  · exact LinesOf.eq_lines
  · rintro rfl
    exact linesOf_splitLines [] input (by simp)

end PadMapping.Proofs
