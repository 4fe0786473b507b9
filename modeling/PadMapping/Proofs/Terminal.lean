import PadMapping.Proofs.Export.Lines
import PadMapping.Proofs.Text.Bytes
import PadMapping.Terminal

/-!
# What arrives of the frames

A frame is written in many pieces, and a sink may run full inside any of them. Where the pieces part
makes no difference: writing stops with the first that fails, and by then there is no room left
(`write_append`). So a frame is drawn as if it were written at once, and frames drawn one after
another leave in the sink what fits of all their bytes.

What these bytes are is written down line by line (`frameLines`), without the texts that the frame
is drawn with. That a frame fails if those before it have filled the sink needs one more thing, that
no frame is without bytes.
-/

namespace PadMapping.Proofs

/-! ## Writing in pieces -/

theorem write_nil (s : Sink) : s.write [] = (s, .ok ()) := by
  obtain ⟨content, room⟩ := s
  cases room <;> simp [Sink.write]

/-- Writing goes on after a first part, unless this failed. -/
theorem write_append (s : Sink) (bytes more : List UInt8) :
    s.write (bytes ++ more) = match s.write bytes with
      | (s, .ok ()) => s.write more
      | (s, .error fault) => (s, .error fault) := by
  obtain ⟨content, room⟩ := s
  cases room with
  | none => simp [Sink.write]
  | some room =>
      rw [Sink.write, Sink.write, List.length_append]
      by_cases hfits : bytes.length ≤ room
      · have hmore : bytes.length + more.length ≤ room ↔ more.length ≤ room - bytes.length := by
          omega
        simp only [if_pos hfits, Sink.write, List.take_append, List.take_of_length_le hfits,
          List.append_assoc, Nat.sub_sub, hmore]
      · -- the first part has taken all the room
        have hover : ¬ bytes.length + more.length ≤ room := by omega
        have hroom : room - (bytes.length + more.length) = room - bytes.length := by omega
        have htake : (bytes ++ more).take room = bytes.take room :=
          List.take_append_of_le_length (by omega)
        simp only [if_neg hfits, if_neg hover, hroom, htake]

theorem writeEach_eq_writeText (texts : List String) (s : Sink) :
    s.writeEach texts = s.writeText (String.join texts) := by
  induction texts generalizing s with
  | nil =>
      have hnone : (String.join []).toUTF8.toList = [] := by
        rw [toList_toUTF8]
        rfl
      rw [Sink.writeEach, Sink.writeText, hnone, write_nil]
  | cons text texts ih =>
      rw [Sink.writeEach, String.join_cons, Sink.writeText, Sink.writeText, toUTF8_append,
        write_append]
      rcases s.write text.toUTF8.toList with ⟨s', fault | ⟨⟩⟩
      · -- the rest is not written either way
        rfl
      · exact ih s'

/-! ## The lines of a frame -/

/-- The line for a step and its result. -/
def rowLine (a : Assignment) : String :=
  match a.control with
  | none => "  " ++ a.step.name ++ ":"
  | some (.button index) => "  " ++ a.step.name ++ ": Button " ++ toString index
  | some (.axis index direction) =>
    "  " ++ a.step.name ++ ": Axis " ++ toString index ++ directionForm direction

/-- The hints for what can be done, in their order. Quitting can always be done. -/
def hints (a : Availability) : List String :=
  (if a.skip then ["[s]kip"] else []) ++ (if a.back then ["[b]ack"] else [])
    ++ (if a.reset then ["[r]eset"] else []) ++ (if a.done then ["[d]one"] else []) ++ ["[q]uit"]

/-- The line for what can be done. -/
def hintLine (a : Availability) : String := " ".intercalate ("Actions:" :: hints a)

/-- The lines of a frame. -/
def frameLines (f : Frame) : List String :=
  ["", "Device: " ++ f.connection]
    ++ (if f.instruction = "" then [] else ["> " ++ f.instruction])
    ++ f.rows.map rowLine
    ++ (match f.result with
      | none => []
      | some e => exportLines e)
    ++ [hintLine f.actions]

/-- The text of a frame: its lines, each with a line feed behind it. -/
def frameText (f : Frame) : String := String.ofList (lineChars (frameLines f))

/-- The bytes of a frame. -/
def frameBytes (f : Frame) : List UInt8 := (frameText f).toUTF8.toList

theorem describe_eq_rowLine (a : Assignment) : "  " ++ a.describe = rowLine a := by
  obtain ⟨step, control⟩ := a
  apply String.toList_injective
  rcases control with _ | index | ⟨index, direction⟩
  · simp [Assignment.describe, rowLine]
  · simp [Assignment.describe, rowLine, Control.describe]
  · simp [Assignment.describe, rowLine, Control.describe, Control.axisLabel, toList_directionForm]

theorem actionLine_eq_hintLine (a : Availability) : Frame.actionLine a = hintLine a := by
  obtain ⟨reset, back, skip, done⟩ := a
  cases reset <;> cases back <;> cases skip <;> cases done <;> rfl

theorem lineChars_lines (f : Frame) : lineChars f.lines = lineChars (frameLines f) := by
  obtain ⟨connection, instruction, rows, actions, result⟩ := f
  simp only [Frame.lines, frameLines, lineChars_append, actionLine_eq_hintLine,
    describe_eq_rowLine, String.isEmpty_iff]
  cases result with
  | none => rfl
  | some e => simp only [pretty_lines, lineChars_cons, lineChars_nil]

theorem text_eq_frameText (f : Frame) : f.text = frameText f := by
  apply String.toList_injective
  rw [Frame.text, String.toList_join, List.flatMap_map, frameText, String.toList_ofList,
    ← lineChars_lines]
  simp [lineChars]

/-! ## Frames -/

/-- The pieces of a frame are those of its lines. -/
theorem join_pieces (f : Frame) : String.join f.pieces = f.text := by
  obtain ⟨connection, instruction, rows, actions, result⟩ := f
  have hrows : String.join (rows.flatMap fun row => ["  ", row.describe, "\n"])
      = String.join ((rows.map fun row => "  " ++ row.describe).map (· ++ "\n")) := by
    induction rows with
    | nil => rfl
    | cons row rows ih =>
        rw [List.flatMap_cons, String.join_append, ih]
        simp [String.join_cons, String.append_assoc]
  -- an instruction or an export is there or not, and either way the texts are the same
  cases result <;> by_cases hempty : instruction.isEmpty <;>
    simp [Frame.pieces, Frame.text, Frame.lines, String.join_cons, String.join_append, hempty,
      hrows, String.append_assoc]

theorem draw_eq_write (f : Frame) (s : Sink) : s.draw f = s.write (frameBytes f) := by
  rw [Sink.draw, writeEach_eq_writeText, join_pieces, text_eq_frameText]
  rfl

theorem frameBytes_pos (f : Frame) : 0 < (frameBytes f).length := by
  rw [frameBytes, ← text_eq_frameText, ← join_pieces, Frame.pieces]
  simp only [List.cons_append, String.join_cons, toUTF8_append, List.length_append]
  have hnewline : ("\n").toUTF8.toList.length = 1 := by
    rw [toList_toUTF8]
    rfl
  omega

/-- Frames are drawn one after another, going on after those that fail. -/
def drawAll : List Frame → Sink → Sink × List (Except FileFault Unit)
  | [], s => (s, [])
  | f :: rest, s =>
    let (s, outcome) := s.draw f
    let (s, outcomes) := drawAll rest s
    (s, outcome :: outcomes)

/-- What one frame does to a sink. -/
theorem draw_of_room (f : Frame) (content : List UInt8) (room : Nat) :
    (Sink.mk content (some room)).draw f
      = (⟨content ++ (frameBytes f).take room, some (room - (frameBytes f).length)⟩,
        if (frameBytes f).length ≤ room then .ok () else .error .full) :=
  draw_eq_write f _

/-- What a row of frames does to a sink. -/
theorem drawAll_of_room (frames : List Frame) (content : List UInt8) (room : Nat) :
    (drawAll frames ⟨content, some room⟩).1
      = ⟨content ++ (frames.flatMap frameBytes).take room,
        some (room - (frames.flatMap frameBytes).length)⟩ := by
  induction frames generalizing content room with
  | nil => simp [drawAll]
  | cons f frames ih =>
      rw [drawAll, draw_of_room]
      simp only
      rw [ih]
      simp only [List.flatMap_cons, List.take_append, List.length_append, List.append_assoc,
        Nat.sub_sub]

/-- What comes of the frame with a number: those up to it have to fit. -/
theorem outcome_of_room (frames : List Frame) (content : List UInt8) (room : Nat) :
    ∀ i, i < frames.length → (drawAll frames ⟨content, some room⟩).2[i]?
      = some (if ((frames.take (i + 1)).flatMap frameBytes).length ≤ room then .ok ()
        else .error .full) := by
  induction frames generalizing content room with
  | nil => simp
  | cons f frames ih =>
      intro i hi
      rw [drawAll, draw_of_room]
      cases i with
      | zero => simp
      | succ i =>
          have hlt : i < frames.length := Nat.lt_of_succ_lt_succ hi
          -- there is a next frame, and it has bytes, so it fails where no room is left
          have hpos : 0 < ((frames.take (i + 1)).flatMap frameBytes).length := by
            obtain ⟨g, rest, rfl⟩ := List.exists_cons_of_length_pos (Nat.zero_lt_of_lt hlt)
            have hg := frameBytes_pos g
            rw [List.take_succ_cons, List.flatMap_cons, List.length_append]
            omega
          have hrest : ((frames.take (i + 1)).flatMap frameBytes).length
                ≤ room - (frameBytes f).length
              ↔ (((f :: frames).take (i + 1 + 1)).flatMap frameBytes).length ≤ room := by
            rw [List.take_succ_cons, List.flatMap_cons, List.length_append]
            omega
          simp only [List.getElem?_cons_succ]
          rw [ih _ _ i hlt]
          simp only [hrest]

/--
**A sink that runs full has got exactly a prefix.**

Frames are drawn one after another into a sink that takes `room` bytes in all, and drawing goes on
after a frame that failed. The bytes of a frame are those of its lines, one after another: an empty
one, the device, the instruction if there is one, the rows, the export if there is one, and what can
be done.

What has arrived in the end are the first bytes of all frames put together, as many as fit. A frame
fails if and only if the frames up to this one are longer than that. The frames are as they were:
one that is drawn again has the same bytes.
-/
theorem prefix_of_frames (room : Nat) (frames : List Frame) :
    (drawAll frames (.empty (some room))).1.content = (frames.flatMap frameBytes).take room
      ∧ (drawAll frames (.empty (some room))).2.length = frames.length
      ∧ ∀ i, i < frames.length → ∃ outcome,
        (drawAll frames (.empty (some room))).2[i]? = some outcome
          ∧ (outcome ≠ .ok () ↔ room < ((frames.take (i + 1)).flatMap frameBytes).length) := by
  refine ⟨?_, ?_, ?_⟩
  · rw [Sink.empty, drawAll_of_room, List.nil_append]
  · -- every frame has an outcome, whatever the sink is like
    generalize Sink.empty (some room) = s
    induction frames generalizing s with
    | nil => rfl
    | cons f frames ih => rw [drawAll, List.length_cons, List.length_cons, ih]
  · intro i hi
    refine ⟨_, outcome_of_room frames [] room i hi, ?_⟩
    split
    · rename_i hfits
      simpa using hfits
    · rename_i hover
      simpa using hover

/-- A frame with something in each of its places. -/
def fullFrame : Frame where
  connection := "pad"
  instruction := "Press B"
  rows := [⟨⟨"A", .button, 0⟩, some (.button 3)⟩, ⟨⟨"B", .button, 1⟩, none⟩]
  actions := ⟨true, true, true, true⟩
  result := some ⟨"pad",
    [⟨⟨"A \"1\"", .button, 0⟩, none⟩, ⟨⟨"X", .axis, 0⟩, some (.axis 2 .negative)⟩]⟩

/-- The first frame fits, and of the second there is room for the first line and a word. -/
theorem prefix_of_full_frame :
    let room := (frameBytes fullFrame).length + 7
    frameLines fullFrame = ["",
        "Device: pad",
        "> Press B",
        "  A: Button 3",
        "  B:",
        "\x7b",
        "  \"deviceId\": \"pad\",",
        "  \"mappings\": [",
        "    \x7b",
        "      \"name\": \"A \\\"1\\\"\",",
        "      \"target\": \"button\",",
        "      \"index\": 0,",
        "      \"mapsTo\": \x7b\x7d",
        "    \x7d,",
        "    \x7b",
        "      \"name\": \"X\",",
        "      \"target\": \"axis\",",
        "      \"index\": 0,",
        "      \"mapsTo\": \x7b",
        "        \"axis\": \"2-\"",
        "      \x7d",
        "    \x7d",
        "  ]",
        "\x7d",
        "Actions: [s]kip [b]ack [r]eset [d]one [q]uit"]
      ∧ (drawAll [fullFrame, .disconnected] (.empty (some room))).1.content
        = frameBytes fullFrame ++ "\nDevice".toUTF8.toList
      ∧ (drawAll [fullFrame, .disconnected] (.empty (some room))).2[0]? = some (.ok ())
      ∧ ∃ fault,
        (drawAll [fullFrame, .disconnected] (.empty (some room))).2[1]? = some (.error fault) := by
  intro room
  have hword : (frameBytes .disconnected).take 7 = "\nDevice".toUTF8.toList := by
    rw [frameBytes, toList_toUTF8, toList_toUTF8]
    decide +kernel
  have hlonger : 7 < (frameBytes .disconnected).length := by
    rw [frameBytes, toList_toUTF8]
    decide +kernel
  obtain ⟨hcontent, _, houtcomes⟩ := prefix_of_frames room [fullFrame, .disconnected]
  obtain ⟨first, hfirst, hfits⟩ := houtcomes 0 (by decide)
  obtain ⟨second, hsecond, hover⟩ := houtcomes 1 (by decide)
  refine ⟨by decide +kernel, ?_, ?_, ?_⟩
  · rw [hcontent]
    simp [room, List.take_append, List.take_of_length_le, hword]
  · cases first with
    | ok u => exact hfirst
    | error fault =>
        have hlong : room < (frameBytes fullFrame).length := by simpa using hfits
        omega
  · cases second with
    | ok u =>
        have hshort : ¬ room
            < (frameBytes fullFrame).length + (frameBytes .disconnected).length := by
          simpa using hover
        omega
    | error fault => exact ⟨fault, hsecond⟩

end PadMapping.Proofs
