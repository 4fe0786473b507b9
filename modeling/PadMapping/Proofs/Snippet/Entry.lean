import PadMapping.Proofs.Device.Grammar
import PadMapping.Snippet.Printer

/-!
# What becomes of a device name in a table entry

A table entry is meant to be one line. The name of the device stands at its end, behind the two
slashes of a comment, and the numbers stand between quotes. The numbers hold nothing but digits, so
all that could do harm is the name, and it is taken over as it is: only the blanks around it go, and
line ends are blanks.

So a line end within the name ends the comment, and the rest of the name is code
(`line_end_of_hostile_name`). The main statement says exactly when that happens, and what leaves the
comment then; the same for a backslash at the end, which would take the next line into the comment.
-/

namespace PadMapping.Proofs

open Text Snippet

/-- Whether a character ends a line of code. -/
def endsLine (c : Char) : Bool := c == '\n' || c == '\r'

/-- A text that stays in its line. -/
def SingleLine (text : List Char) : Prop := ∀ c ∈ text, endsLine c = false

instance (text : List Char) : Decidable (SingleLine text) :=
  List.decidableBAll (fun c => endsLine c = false) text

/-- The text from its first line end on. -/
def fromLineEnd (text : List Char) : List Char := text.dropWhile fun c => !endsLine c

section

variable {front text : List Char}

theorem singleLine_append :
    SingleLine (front ++ text) ↔ SingleLine front ∧ SingleLine text := by
  simp only [SingleLine, List.mem_append]
  exact ⟨fun h => ⟨fun c hc => h c (Or.inl hc), fun c hc => h c (Or.inr hc)⟩,
    fun h c hc => hc.elim (h.1 c) (h.2 c)⟩

theorem fromLineEnd_append (hfront : SingleLine front) (text : List Char) :
    fromLineEnd (front ++ text) = fromLineEnd text := by
  rw [fromLineEnd, List.dropWhile_append_of_pos fun c hc => by rw [hfront c hc]; rfl]
  rfl

theorem isBlank_of_endsLine {c : Char} (h : endsLine c = true) : isBlank c = true := by
  rw [endsLine, Bool.or_eq_true, beq_iff_eq, beq_iff_eq] at h
  rcases h with rfl | rfl
  · decide
  · decide

theorem endsLine_of_isHexDigit {c : Char} (h : isHexDigit c = true) : endsLine c = false := by
  cases hc : endsLine c with
  | false => rfl
  | true =>
      rw [endsLine, Bool.or_eq_true, beq_iff_eq, beq_iff_eq] at hc
      rcases hc with rfl | rfl
      · exact absurd h (by decide)
      · exact absurd h (by decide)

end

/-! ## Trimmed names -/

/-- Somewhere in the text there is a line end with something other than blanks on both sides. -/
def BreaksInside (text : List Char) : Prop :=
  ∃ front c back, text = front ++ c :: back ∧ endsLine c = true
    ∧ (∃ x ∈ front, isBlank x = false) ∧ ∃ x ∈ back, isBlank x = false

/-- The last character of the text that is no blank is a backslash. -/
def BackslashLast (text : List Char) : Prop :=
  ∃ front blanks, text = front ++ '\\' :: blanks ∧ ∀ c ∈ blanks, isBlank c = true

/-- A text that has blanks at neither end has something else there, if it has a blank at all. -/
theorem exists_not_blank_of_stopsAt {c : Char} {front rest : List Char} (hc : isBlank c = true)
    (h : StopsAt isBlank (front ++ c :: rest)) : ∃ x ∈ front, isBlank x = false := by
  cases front with
  | nil =>
      have hhead := stopsAt_cons.mp h
      rw [hc] at hhead
      exact absurd hhead (by simp)
  | cons x front => exact ⟨x, List.mem_cons_self, stopsAt_cons.mp h⟩

theorem singleLine_trimmed_iff {text : List Char} :
    SingleLine (trimmed text) ↔ ¬ BreaksInside text := by
  constructor
  · rintro hsingle ⟨front, c, back, rfl, hend, hfront, hback⟩
    obtain ⟨front', back', htrimmed⟩ := trimmed_between hfront hback [c]
    have hc : c ∈ trimmed (front ++ c :: back) := by
      rw [List.append_cons, htrimmed]
      simp
    rw [hsingle c hc] at hend
    exact absurd hend (by simp)
  · intro hinside c hc
    cases hend : endsLine c with
    | false => rfl
    | true =>
        -- the trimmed text has this blank in it, so it has more on both sides of it
        obtain ⟨front, back, htext, _, _, hhead, hlast⟩ := trimsTo_trimmed text
        obtain ⟨left, right, hsplit⟩ := List.append_of_mem hc
        have hreverse : (trimmed text).reverse = right.reverse ++ c :: left.reverse := by
          rw [hsplit]
          simp
        rw [hsplit] at hhead
        rw [hreverse] at hlast
        obtain ⟨x, hx, hxblank⟩ := exists_not_blank_of_stopsAt (isBlank_of_endsLine hend) hhead
        obtain ⟨y, hy, hyblank⟩ := exists_not_blank_of_stopsAt (isBlank_of_endsLine hend) hlast
        refine absurd ⟨front ++ left, c, right ++ back, ?_, hend, ⟨x, ?_, hxblank⟩, y, ?_, hyblank⟩
          hinside
        · rw [htext, hsplit]
          simp
        · exact List.mem_append_right _ hx
        · exact List.mem_append_left _ (List.mem_reverse.mp hy)

theorem getLast?_trimmed_iff {text : List Char} :
    (trimmed text).getLast? = some '\\' ↔ BackslashLast text := by
  constructor
  · intro hlast
    obtain ⟨front, back, htext, _, hback, _⟩ := trimsTo_trimmed text
    obtain ⟨inner, hinner⟩ := List.getLast?_eq_some_iff.mp hlast
    refine ⟨front ++ inner, back, ?_, hback⟩
    rw [htext, hinner]
    simp
  · rintro ⟨front, blanks, rfl, hblanks⟩
    obtain ⟨front', htrimmed⟩ :=
      trimmed_before_blanks (show isBlank '\\' = false by decide) front hblanks
    rw [htrimmed, List.getLast?_concat]

/-! ## Entries -/

/-- What stands before the name of the device in its table entry. -/
def entryFront (vendor product name : String) : String :=
  "    \x7b\"" ++ vendor ++ "\", \"" ++ product ++ "\", " ++ name ++ "\x7d, // "

theorem tableEntry_eq_ok {e : Export} {name entry : String} (h : tableEntry e name = .ok entry) :
    ∃ d, Describes e.deviceId d ∧ entry = entryFront d.vendor d.product name ++ d.name := by
  rw [tableEntry] at h
  split at h
  · exact absurd h (by simp)
  · rename_i d hd
    injection h with h
    exact ⟨d, parse_eq_ok_iff.mp hd, h.symm⟩

/-- Up to the name an entry is one line, as long as the mapper function is named in one. -/
theorem singleLine_entryFront {id : String} {d : DeviceId} {name : String} (hd : Describes id d)
    (hname : SingleLine name.toList) :
    SingleLine (entryFront d.vendor d.product name).toList := by
  obtain ⟨_, _, _, _, hvendor, _⟩ := hd.vendor
  obtain ⟨_, _, _, _, hproduct, _⟩ := hd.product
  simp only [entryFront, String.toList_append, singleLine_append]
  refine ⟨⟨⟨⟨⟨⟨by decide, ?_⟩, by decide⟩, ?_⟩, by decide⟩, hname⟩, by decide⟩
  · exact fun c hc => endsLine_of_isHexDigit (hvendor c hc)
  · exact fun c hc => endsLine_of_isHexDigit (hproduct c hc)

/-- An entry ends in a backslash only if the name does: before an empty name there is a blank. -/
theorem getLast?_entry (vendor product name : String) (comment : List Char) :
    ((entryFront vendor product name).toList ++ comment).getLast? = some '\\'
      ↔ comment.getLast? = some '\\' := by
  cases comment with
  | nil =>
      have hlast : (entryFront vendor product name).toList.getLast? = some ' ' := by
        rw [entryFront, String.toList_append, List.getLast?_append]
        rfl
      rw [List.append_nil, hlast]
      decide
  | cons c comment => rw [List.getLast?_append_of_ne_nil _ (List.cons_ne_nil c comment)]

/--
**When the name of a device stays within its comment.**

If the mapper function is named in one line, then a table entry is made of fixed text, the numbers
of the device, which are hexadecimal digits between quotes, the name of the function, and behind the
two slashes the name of the device: the part of its id before the first bracket, without the blanks
around it.

- What leaves the line of the comment is the name from its first line end on, and nothing else.
- So the entry is a single line exactly if no line end in that part of the id has something other
  than blanks on both sides.
- The entry ends in a backslash exactly if the last character of that part that is no blank is one.
-/
theorem tableEntry_within_line {e : Export} {name entry : String}
    (hname : SingleLine name.toList) (h : tableEntry e name = .ok entry) :
    ∃ d part, Describes e.deviceId d
      ∧ entry = "    \x7b\"" ++ d.vendor ++ "\", \"" ++ d.product ++ "\", " ++ name ++ "\x7d, // "
        ++ d.name
      ∧ BeforeBracket e.deviceId.toList part ∧ TrimsTo part d.name.toList
      ∧ fromLineEnd entry.toList = fromLineEnd d.name.toList
      ∧ (SingleLine entry.toList ↔ ¬ BreaksInside part)
      ∧ (entry.toList.getLast? = some '\\' ↔ BackslashLast part) := by
  obtain ⟨d, hd, hentry⟩ := tableEntry_eq_ok h
  obtain ⟨part, hpart, htrims⟩ := hd.name
  have hfront := singleLine_entryFront hd hname
  have hlist : entry.toList = (entryFront d.vendor d.product name).toList ++ d.name.toList := by
    rw [hentry, String.toList_append]
  refine ⟨d, part, hd, hentry, hpart, htrims, ?_, ?_, ?_⟩
  · rw [hlist, fromLineEnd_append hfront]
  · rw [hlist, singleLine_append, trimsTo_iff.mp htrims, ← singleLine_trimmed_iff]
    exact ⟨fun hsingle => hsingle.2, fun hsingle => ⟨hfront, hsingle⟩⟩
  · rw [hlist, getLast?_entry, trimsTo_iff.mp htrims, getLast?_trimmed_iff]

/-- Line ends around the name and a backslash within it do no harm. -/
theorem tableEntry_of_blank_ends :
    SingleLine "Map".toList
      ∧ ∃ entry, tableEntry ⟨"\n Pad \\ 2\r\n(Vendor: 054c Product: 0ce6)", []⟩ "Map" = .ok entry
        ∧ SingleLine entry.toList ∧ entry.toList.getLast? ≠ some '\\' := by
  have hname : SingleLine "Map".toList := by decide
  obtain ⟨_, part, _, _, hpart, _, _, hsingle, hlast⟩ := tableEntry_within_line
    (e := ⟨"\n Pad \\ 2\r\n(Vendor: 054c Product: 0ce6)", []⟩) hname rfl
  rw [beforeBracket_iff] at hpart
  refine ⟨hname, _, rfl, hsingle.mpr ?_, fun h => ?_⟩
  · rw [← singleLine_trimmed_iff, hpart]
    decide
  · rw [hlast, ← getLast?_trimmed_iff, hpart] at h
    exact absurd h (by decide)

/-- **A device can name itself out of its comment.** The entry of this device has a second line that
is all name, and the backslash at its end takes in the line that follows. -/
theorem line_end_of_hostile_name :
    SingleLine "Map".toList
      ∧ ∃ entry, tableEntry ⟨"Pad\nInjected\\ (Vendor: 054c Product: 0ce6)", []⟩ "Map" = .ok entry
        ∧ fromLineEnd entry.toList = "\nInjected\\".toList ∧ ¬ SingleLine entry.toList
        ∧ entry.toList.getLast? = some '\\' := by
  refine ⟨by decide, _, rfl, ?_, ?_, ?_⟩
  · decide
  · decide
  · decide

end PadMapping.Proofs
