import PadMapping.Program.Dialog
import PadMapping.Proofs.Text.Lines
import PadMapping.Proofs.Text.Trimmed
import PadMapping.Proofs.View.Quitting

/-!
# What the input leads to

The input is read line by line, and a line that is a text leads to the action of its word, if it
has one. What comes at the end depends on how the reading ends. If all lines were texts it ends
where the input does, and that counts as quitting, so a run that is sent the actions ends on its
own. But it also ends at the first line that is no text. Then nothing is sent any more: neither the
actions of the lines behind it nor, at the end of the input, the quitting. Unless the user has quit
before, a run goes on after that for as long as nothing else stops it.

The end of the input is therefore noticed exactly if all of the input is text (`actions_of_input`).
-/

namespace PadMapping.Proofs

open Text View

/-! ## Lines -/

/-- The lines that hold the given texts. -/
def encoded (texts : List String) : List (List UInt8) := texts.map fun text => text.toUTF8.toList

/-- The lines of the input hold the given texts, and the next one holds no text. -/
def BrokenAfter (input : List UInt8) (texts : List String) : Prop :=
  ∃ broken back, LinesOf input (encoded texts ++ broken :: back)
    ∧ ∀ text : String, text.toUTF8.toList ≠ broken

theorem ofBytes_text (text : String) :
    Input.ofBytes text.toUTF8.toList = .line (Action.ofLine? text) := by
  rw [Input.ofBytes, decode?_toUTF8]

theorem ofBytes_of_noText {line : List UInt8} (h : ∀ text : String, text.toUTF8.toList ≠ line) :
    Input.ofBytes line = .unreadable := by
  rw [Input.ofBytes]
  cases hdecode : decode? line with
  | none => rfl
  | some text => exact absurd (decode?_eq_some_iff.mp hdecode).symm (h text)

/-- Lines are texts up to the end, or up to the first that is none. -/
theorem texts_or_broken (found : List (List UInt8)) :
    ∃ texts, found = encoded texts ∨ ∃ broken back, found = encoded texts ++ broken :: back
      ∧ ∀ text : String, text.toUTF8.toList ≠ broken := by
  induction found with
  | nil => exact ⟨[], .inl rfl⟩
  | cons line rest ih =>
      by_cases hline : ∃ text : String, text.toUTF8.toList = line
      · obtain ⟨text, rfl⟩ := hline
        obtain ⟨texts, rfl | ⟨broken, back, rfl, hbroken⟩⟩ := ih
        · exact ⟨text :: texts, .inl rfl⟩
        · exact ⟨text :: texts, .inr ⟨broken, back, rfl, hbroken⟩⟩
      · exact ⟨[], .inr ⟨line, rest, rfl, fun text htext => hline ⟨text, htext⟩⟩⟩

/-- A line of blanks holds no action. -/
theorem ofLine?_of_blank {text : String} (h : ∀ c ∈ text.toList, isBlank c = true) :
    Action.ofLine? text = none := by
  rw [Action.ofLine?, trimmed_eq_nil_iff.mpr h]
  rfl

/-! ## Actions -/

/-- Texts lead to their actions and to nothing else. -/
theorem actionsOfLines_encoded (texts : List String) (rest : List (List UInt8)) :
    actionsOfLines (encoded texts ++ rest)
      = texts.filterMap Action.ofLine? ++ actionsOfLines rest := by
  induction texts with
  | nil => rfl
  | cons text texts ih =>
      show actionsOfLines (text.toUTF8.toList :: (encoded texts ++ rest)) = _
      rw [actionsOfLines, ofBytes_text, List.filterMap_cons]
      cases Action.ofLine? text with
      | none => exact ih
      | some action => exact congrArg (action :: ·) ih

theorem actionsOf_of_texts {input : List UInt8} {texts : List String}
    (h : LinesOf input (encoded texts)) :
    actionsOf input = texts.filterMap Action.ofLine? ++ [.quit] := by
  have hactions := actionsOfLines_encoded texts []
  rw [List.append_nil] at hactions
  rw [actionsOf, ← linesOf_iff.mp h, hactions]
  rfl

theorem actionsOf_of_broken {input : List UInt8} {texts : List String}
    (h : BrokenAfter input texts) : actionsOf input = texts.filterMap Action.ofLine? := by
  obtain ⟨broken, back, hlines, hbroken⟩ := h
  rw [actionsOf, ← linesOf_iff.mp hlines, actionsOfLines_encoded, actionsOfLines,
    ofBytes_of_noText hbroken, List.append_nil]

/-! ## Dialogs -/

/-- The lines that are entered in a dialog. -/
def linesIn (happenings : List Happening) : List (List UInt8) :=
  happenings.filterMap fun
    | .line content => some content
    | _ => none

/-- When no input is read any more, only an interrupt leads to an action. -/
theorem actions_of_deaf {happenings : List Happening}
    (h : ∀ happening ∈ happenings, happening ≠ .interrupt) (time : Nat) :
    Dialog.actions time false happenings = [] := by
  induction happenings generalizing time with
  | nil => rfl
  | cons happening rest ih =>
      have hrest := ih fun x hx => h x (List.mem_cons_of_mem _ hx)
      cases happening with
      | devices world => exact hrest _
      | line content => exact hrest _
      | close => exact hrest _
      | interrupt => exact absurd rfl (h .interrupt List.mem_cons_self)
      | wait text => exact hrest _

/-- **A dialog leads to the actions of its lines**, with whatever comes between them and after the
end of the input. -/
theorem actions_of_dialog {happenings rest : List Happening}
    (hopen : ∀ happening ∈ happenings, happening ≠ .close ∧ happening ≠ .interrupt)
    (hrest : ∀ happening ∈ rest, happening ≠ .interrupt) (time : Nat) :
    (Dialog.actions time true (happenings ++ .close :: rest)).map Prod.snd
      = actionsOfLines (linesIn happenings) := by
  induction happenings generalizing time with
  | nil =>
      show ((time, Action.quit) :: Dialog.actions _ false rest).map Prod.snd = [.quit]
      rw [actions_of_deaf hrest]
      rfl
  | cons happening more ih =>
      have hmore := ih fun x hx => hopen x (List.mem_cons_of_mem _ hx)
      cases happening with
      | devices world => exact hmore _
      | wait text => exact hmore _
      | close => exact absurd rfl (hopen .close List.mem_cons_self).1
      | interrupt => exact absurd rfl (hopen .interrupt List.mem_cons_self).2
      | line content =>
          show (Dialog.actions time true (.line content :: (more ++ .close :: rest))).map Prod.snd
            = actionsOfLines (content :: linesIn more)
          rw [Dialog.actions, if_neg (by decide), actionsOfLines]
          cases Input.ofBytes content with
          | unreadable =>
              have hdeaf : ∀ x ∈ more ++ .close :: rest, x ≠ .interrupt := by
                intro x hx
                rcases List.mem_append.mp hx with hx | hx
                · exact (hopen x (List.mem_cons_of_mem _ hx)).2
                · rcases List.mem_cons.mp hx with rfl | hx
                  · simp
                  · exact hrest x hx
              dsimp only
              rw [actions_of_deaf hdeaf]
              rfl
          | line action =>
              cases action with
              | none => exact hmore _
              | some action => exact congrArg (action :: ·) (hmore _)

/--
**The end of the input is noticed exactly if all of the input is text.**

Every input has its lines, and either all of them are texts or there is a first one that is none.
If all are texts, the actions are those of the texts in their order, with nothing for texts that
are blank or no word, and behind them one more quitting; whatever the device does, every run that
is sent these actions ends on its own. If one is no text, the actions are those of the texts before
it and no more. A run that is sent them ends on its own if the user quits in one of these texts,
and otherwise, on a display that never fails, it goes on to the close, whenever that is.

A dialog in which the lines are entered, whatever else happens, makes the same actions.
-/
theorem actions_of_input (input : List UInt8) :
    (∃ texts, LinesOf input (encoded texts) ∨ BrokenAfter input texts)
      ∧ (∀ texts, LinesOf input (encoded texts) →
          actionsOf input = texts.filterMap Action.ofLine? ++ [.quit]
          ∧ ∀ (σ : Type) (out : Outlet σ) reading sent v s,
            sent.map Prod.snd = actionsOf input → EndsAlone out reading sent v s)
      ∧ (∀ texts, BrokenAfter input texts →
          actionsOf input = texts.filterMap Action.ofLine?
          ∧ ∀ (σ : Type) (out : Outlet σ) reading sent v s,
            sent.map Prod.snd = actionsOf input →
            ((∃ text ∈ texts, Action.ofLine? text = some .quit) →
              EndsAlone out reading sent v s)
            ∧ ((∀ text ∈ texts, Action.ofLine? text ≠ some .quit) → AlwaysDraws out →
              GoesOn out reading sent v s))
      ∧ (∀ text : String, (∀ c ∈ text.toList, isBlank c = true) → Action.ofLine? text = none)
      ∧ ∀ happenings rest time, LinesOf input (linesIn happenings) →
          (∀ happening ∈ happenings, happening ≠ .close ∧ happening ≠ .interrupt) →
          (∀ happening ∈ rest, happening ≠ .interrupt) →
          (Dialog.actions time true (happenings ++ .close :: rest)).map Prod.snd
            = actionsOf input := by
  refine ⟨?_, ?_, ?_, fun text => ofLine?_of_blank, ?_⟩
  · obtain ⟨texts, htexts⟩ := texts_or_broken (lines input)
    refine ⟨texts, ?_⟩
    rcases htexts with htexts | ⟨broken, back, hlines, hbroken⟩
    · exact .inl (linesOf_iff.mpr htexts.symm)
    · exact .inr ⟨broken, back, linesOf_iff.mpr hlines.symm, hbroken⟩
  · intro texts htexts
    have hactions := actionsOf_of_texts htexts
    refine ⟨hactions, ?_⟩
    intro σ out reading sent v s hsent
    refine endsAlone_of_quit out reading v s ?_
    rw [hsent, hactions]
    simp
  · intro texts hbroken
    have hactions := actionsOf_of_broken hbroken
    refine ⟨hactions, ?_⟩
    intro σ out reading sent v s hsent
    have hquit : Action.quit ∈ sent.map Prod.snd
        ↔ ∃ text ∈ texts, Action.ofLine? text = some .quit := by
      rw [hsent, hactions, List.mem_filterMap]
    refine ⟨fun h => endsAlone_of_quit out reading v s (hquit.mpr h), ?_⟩
    intro hnone hdraw
    refine goesOn_of_noQuit hdraw reading v s fun hmem => ?_
    obtain ⟨text, htext, htold⟩ := hquit.mp hmem
    exact hnone text htext htold
  · intro happenings rest time hlines hopen hrest
    rw [actions_of_dialog hopen hrest, actionsOf, linesOf_iff.mp hlines]

/-- The lines `Skip`, an empty one, and ` q` without an ending. -/
def spelledInput : List UInt8 := [0x53, 0x6B, 0x69, 0x70, 0x0D, 0x0A, 0x0A, 0x20, 0x71]

/-- The line `s`, one that is no text, and the line `q`. -/
def brokenInput : List UInt8 := [0x73, 0x0A, 0xFF, 0x0A, 0x71, 0x0A]

/-- After a line that is no text the run does not hear of the quitting behind it. -/
theorem actions_of_broken_input :
    LinesOf spelledInput (encoded ["Skip", "", " q"])
      ∧ actionsOf spelledInput = [.skip, .quit, .quit]
      ∧ EndsAlone plainOutlet pressedOnce [(20, .skip), (30, .quit), (30, .quit)]
        (fresh standardSteps .standard) ()
      ∧ BrokenAfter brokenInput ["s"]
      ∧ actionsOf brokenInput = [.skip]
      ∧ GoesOn plainOutlet pressedOnce [(20, .skip)] (fresh standardSteps .standard) () := by
  have hspelled : LinesOf spelledInput (encoded ["Skip", "", " q"]) :=
    linesOf_iff.mpr (by decide +kernel)
  have hbroken : BrokenAfter brokenInput ["s"] := by
    refine ⟨[0xFF], [[0x71]], linesOf_iff.mpr (by decide +kernel), ?_⟩
    intro text htext
    have hdecode := decode?_eq_some_iff.mpr htext.symm
    have hnone : decode? [0xFF] = none := by decide +kernel
    rw [hnone] at hdecode
    exact absurd hdecode (by simp)
  obtain ⟨_, htexts, _⟩ := actions_of_input spelledInput
  obtain ⟨hactions, hends⟩ := htexts _ hspelled
  obtain ⟨_, _, hbreaks, _⟩ := actions_of_input brokenInput
  obtain ⟨hactions', hgoes⟩ := hbreaks _ hbroken
  have hsent : actionsOf spelledInput = [.skip, .quit, .quit] := hactions.trans (by decide +kernel)
  have hsent' : actionsOf brokenInput = [.skip] := hactions'.trans (by decide +kernel)
  refine ⟨hspelled, hsent, hends Unit plainOutlet _ _ _ _ hsent.symm, hbroken, hsent', ?_⟩
  exact (hgoes Unit plainOutlet pressedOnce [(20, .skip)] _ () hsent'.symm).2 (by decide +kernel)
    fun _ _ => rfl

/-- The input is a line that is no text, and ends behind it. No quitting is sent, and a run that
nobody else ends does not end. -/
theorem unended_of_broken_line :
    LinesOf [0xFF, 0x0A] [[0xFF]]
      ∧ (¬ ∃ front, actionsOf [0xFF, 0x0A] = front ++ [.quit])
      ∧ (Dialog.actions 0 true [.line [0xFF], .close]).map Prod.snd = []
      ∧ ¬ EndsAlone plainOutlet (fun _ => none) [] (fresh standardSteps .standard) () := by
  have hsent : actionsOf [0xFF, 0x0A] = [] := by decide +kernel
  refine ⟨linesOf_iff.mpr (by decide), ?_, by decide +kernel, ?_⟩
  · rintro ⟨front, hfront⟩
    rw [hsent] at hfront
    exact absurd hfront (by simp)
  · exact not_endsAlone_of_goesOn (goesOn_of_noQuit (fun _ _ => rfl) _ _ _ (by simp))

end PadMapping.Proofs
