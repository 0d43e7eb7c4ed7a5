/-
The kernel console (`console/state.rs`).

Text is a list of characters, and positions in it count bytes.  A position that is not a character
boundary cannot be cut at: the operation panics.

* `Sound.apply`: every operation returns, and keeps the cursors where they may be;
* `console_never_panics` (**no panics**): no sequence of operations panics.
-/
import ManaOS.Lib.Checked

namespace ManaOS
open Checked

abbrev Text := List Char

/-- `str::len`. -/
def Text.byteLen (text : Text) : ℕ := (text.map Char.utf8Size).sum

/-- The parts before and after a byte position, if it is a character boundary. -/
def Text.splitAt : Text → ℕ → Option (Text × Text)
  | text, 0 => some ([], text)
  | [], _ + 1 => none
  | character :: rest, position + 1 =>
    if character.utf8Size ≤ position + 1 then
      (Text.splitAt rest (position + 1 - character.utf8Size)).map fun parts =>
        (character :: parts.1, parts.2)
    else none

def Text.slices (text : Text) (position : ℕ) : Panicking (Text × Text) :=
  expect (text.splitAt position) "byte index is not a char boundary"

/-- `String::insert`. -/
def Text.insert (text : Text) (position : ℕ) (character : Char) : Panicking Text := do
  let (before, after) ← text.slices position
  return before ++ character :: after

/-- `String::remove`. -/
def Text.remove (text : Text) (position : ℕ) : Panicking Text := do
  match ← text.slices position with
  | (_, []) => .error "cannot remove a char from the end of a string"
  | (before, _ :: after) => return before ++ after

/-- `char_indices`, from an offset on. -/
def Text.charIndices (offset : ℕ) : Text → List (ℕ × Char)
  | [] => []
  | character :: rest => (offset, character) :: charIndices (offset + character.utf8Size) rest

def previousCharacterBoundary (input : Text) (cursor : ℕ) : Panicking ℕ := do
  let (before, _) ← input.slices (min cursor input.byteLen)
  return ((before.charIndices 0).getLast?.map Prod.fst).getD 0

def nextCharacterBoundary (input : Text) (cursor : ℕ) : Panicking ℕ := do
  let cursor := min cursor input.byteLen
  let (_, after) ← input.slices cursor
  return ((after.charIndices 0)[1]?.map (cursor + ·.1)).getD input.byteLen

def maxInputBytes : ℕ := 96

def maxOutputLines : ℕ := 128

def visibleOutputLines : ℕ := 6

def maxHistoryEntries : ℕ := 32

structure ConsoleState where
  input : Text := []
  cursor : ℕ := 0
  output : List Text := []
  history : List Text := []
  historyCursor : Option ℕ := none
  scrollback : ℕ := 0
  dirty : Bool := false
  isOpen : Bool := false
  needsClear : Bool := false

/-- `char::is_control`. -/
def isControl (character : Char) : Bool :=
  character.toNat < 0x20 || (0x7f ≤ character.toNat && character.toNat < 0xa0)

/-- `char::is_whitespace`. -/
def isWhitespace (character : Char) : Bool := let code := character.toNat
  (9 ≤ code && code ≤ 13) || (0x2000 ≤ code && code ≤ 0x200a) ||
    code ∈ [0x20, 0x85, 0xa0, 0x1680, 0x2028, 0x2029, 0x202f, 0x205f, 0x3000]

/-- `str::trim`. -/
def Text.trim (text : Text) : Text :=
  ((text.dropWhile isWhitespace).reverse.dropWhile isWhitespace).reverse

/-- A bounded list after one more element: the first is dropped when it is full. -/
def pushBounded (bound : ℕ) (lines : List Text) (line : Text) : List Text :=
  (if lines.length = bound then lines.drop 1 else lines) ++ [line]

namespace ConsoleState

def toggle (state : ConsoleState) : ConsoleState :=
  { state with isOpen := !state.isOpen, dirty := true, needsClear := true }

def pushCharacter (state : ConsoleState) (character : Char) : Panicking ConsoleState :=
  if isControl character then return state
  else if state.isOpen ∧ state.input.byteLen < maxInputBytes then do
    let cursor := min state.cursor state.input.byteLen
    let input ← state.input.insert cursor character
    return { state with input, cursor := saturatingAdd cursor character.utf8Size, dirty := true }
  else return state

def pushBackspace (state : ConsoleState) : Panicking ConsoleState :=
  if !state.isOpen ∨ state.cursor = 0 then return state
  else do
    let removeAt ← previousCharacterBoundary state.input state.cursor
    let input ← state.input.remove removeAt
    return { state with input, cursor := removeAt, dirty := true }

def moveCursorLeft (state : ConsoleState) : Panicking ConsoleState := do
  return { state with
    cursor := ← previousCharacterBoundary state.input state.cursor, dirty := true }

def moveCursorRight (state : ConsoleState) : Panicking ConsoleState := do
  return { state with cursor := ← nextCharacterBoundary state.input state.cursor, dirty := true }

def moveCursorHome (state : ConsoleState) : ConsoleState :=
  { state with cursor := 0, dirty := true }

def moveCursorEnd (state : ConsoleState) : ConsoleState :=
  { state with cursor := state.input.byteLen, dirty := true }

/-- The entry of the history becomes the input, with the cursor at its end. -/
def loadHistory (state : ConsoleState) (index : ℕ) : Panicking ConsoleState := do
  let input ← expect state.history[index]? "index out of bounds"
  return { state with
    input, cursor := input.byteLen, historyCursor := some index, dirty := true }

def loadPreviousHistory (state : ConsoleState) : Panicking ConsoleState :=
  if state.history.isEmpty then return state
  else state.loadHistory (state.historyCursor.elim (state.history.length - 1) (· - 1))

def loadNextHistory (state : ConsoleState) : Panicking ConsoleState :=
  match state.historyCursor with
  | none => return state
  | some index =>
    let nextIndex := saturatingAdd index 1
    if state.history.length ≤ nextIndex then
      return { state with input := [], cursor := 0, historyCursor := none, dirty := true }
    else state.loadHistory nextIndex

def scrollUp (state : ConsoleState) : ConsoleState :=
  { state with
    scrollback := min (saturatingAdd state.scrollback 1) state.output.length, dirty := true }

def scrollDown (state : ConsoleState) : ConsoleState :=
  { state with scrollback := state.scrollback - 1, dirty := true }

def takeSubmittedCommand (state : ConsoleState) : Option Text × ConsoleState :=
  if !state.isOpen then (none, state)
  else
    let command := state.input.trim
    (some command, { state with
      input := [], cursor := 0, historyCursor := none, dirty := true,
      history := if command.isEmpty then state.history
        else pushBounded maxHistoryEntries state.history command })

def clearOutput (state : ConsoleState) : ConsoleState := { state with output := [], dirty := true }

def pushOutput (state : ConsoleState) (line : Text) : ConsoleState :=
  { state with
    output := pushBounded maxOutputLines state.output line, scrollback := 0, dirty := true }

/-- The slice of `visible_output`. -/
def visibleOutput (state : ConsoleState) : Panicking (List Text) := do
  let visibleCount := min visibleOutputLines state.output.length
  let stop := state.output.length - min state.scrollback state.output.length
  let start := stop - visibleCount
  require (start ≤ stop ∧ stop ≤ state.output.length) "slice index out of range"
  return (state.output.take stop).drop start

/-- `take_render_snapshot`, and the texts that `render` makes of it. -/
def takeRenderSnapshot (state : ConsoleState) :
  Panicking (Option (Text × List Text) × ConsoleState) :=
  if !state.dirty then return (none, state)
  else do
    let output ← state.visibleOutput
    -- `input_cursor_marker`
    let (before, after) ← state.input.slices (min state.cursor state.input.byteLen)
    return (some (before ++ '_' :: after, output),
      { state with dirty := false, needsClear := false })

/-- The operations of the console. -/
inductive Operation
  | toggle | pushCharacter (character : Char) | pushBackspace | moveCursorLeft | moveCursorRight
  | moveCursorHome | moveCursorEnd | loadPreviousHistory | loadNextHistory | scrollUp | scrollDown
  | takeSubmittedCommand | clearOutput | pushOutput (line : Text) | takeRenderSnapshot

def apply (state : ConsoleState) : Operation → Panicking ConsoleState
  | .toggle => return state.toggle
  | .pushCharacter character => state.pushCharacter character
  | .pushBackspace => state.pushBackspace
  | .moveCursorLeft => state.moveCursorLeft
  | .moveCursorRight => state.moveCursorRight
  | .moveCursorHome => return state.moveCursorHome
  | .moveCursorEnd => return state.moveCursorEnd
  | .loadPreviousHistory => state.loadPreviousHistory
  | .loadNextHistory => state.loadNextHistory
  | .scrollUp => return state.scrollUp
  | .scrollDown => return state.scrollDown
  | .takeSubmittedCommand => return state.takeSubmittedCommand.2
  | .clearOutput => return state.clearOutput
  | .pushOutput line => return state.pushOutput line
  | .takeRenderSnapshot => return (← state.takeRenderSnapshot).2

/-- A sequence of operations on a new console. -/
def run (operations : List Operation) : Panicking ConsoleState := operations.foldlM apply {}

end ConsoleState

/-! ### Character boundaries -/

/-- A byte position between two characters, or at an end of the text. -/
def Text.IsBoundary (text : Text) (position : ℕ) : Prop :=
  ∃ before after : Text, text = before ++ after ∧ position = before.byteLen

namespace Text
variable {text before after : Text} {position : ℕ}

lemma byteLen_append (before after : Text) :
  byteLen (before ++ after) = before.byteLen + after.byteLen := by
  rw [byteLen, List.map_append, List.sum_append, ← byteLen, ← byteLen]

lemma byteLen_cons (character : Char) (rest : Text) :
  byteLen (character :: rest) = character.utf8Size + rest.byteLen := by
  rw [byteLen, List.map_cons, List.sum_cons, ← byteLen]

lemma IsBoundary.le (h : text.IsBoundary position) : position ≤ text.byteLen := by
  obtain ⟨_, _, rfl, rfl⟩ := h
  rw [byteLen_append]
  exact Nat.le_add_right ..

lemma isBoundary_zero (text : Text) : text.IsBoundary 0 := ⟨[], text, rfl, rfl⟩

lemma isBoundary_byteLen (text : Text) : text.IsBoundary text.byteLen :=
  ⟨text, [], (List.append_nil _).symm, rfl⟩

lemma splitAt_append (before after : Text) :
  splitAt (before ++ after) before.byteLen = some (before, after) := by
  induction before with
  | nil => cases after <;> rfl
  | cons character rest ih =>
    have hpos := character.utf8Size_pos
    obtain ⟨n, hn⟩ : ∃ n, character.utf8Size + byteLen rest = n + 1 :=
      ⟨character.utf8Size + byteLen rest - 1, by omega⟩
    rw [byteLen_cons, hn, List.cons_append, splitAt, if_pos (by omega), ← hn,
      Nat.add_sub_cancel_left, ih]
    rfl

lemma slices_append (before after : Text) :
  slices (before ++ after) before.byteLen = .ok (before, after) := by
  rw [slices, splitAt_append]
  rfl

/-- A cursor on a boundary is used as it is. -/
lemma IsBoundary.slices (h : text.IsBoundary position) : ∃ before after, text = before ++ after ∧
  position = byteLen before ∧ text.slices (min position text.byteLen) = .ok (before, after) := by
  have hmin := Nat.min_eq_left h.le
  obtain ⟨before, after, rfl, rfl⟩ := h
  rw [hmin]
  exact ⟨before, after, rfl, rfl, slices_append before after⟩

lemma charIndices_append (offset : ℕ) (before after : Text) : charIndices offset (before ++ after) =
  charIndices offset before ++ charIndices (offset + before.byteLen) after := by
  induction before generalizing offset with
  | nil => rfl
  | cons _ _ ih =>
    rw [List.cons_append, charIndices, charIndices, ih, byteLen_cons, Nat.add_assoc]
    rfl

lemma getLast?_charIndices (before : Text) :
  ((charIndices 0 before).getLast?.map Prod.fst).getD 0 = byteLen before.dropLast := by
  rcases List.eq_nil_or_concat before with rfl | ⟨_, _, rfl⟩
  · rfl
  · rw [List.concat_eq_append, charIndices_append, charIndices, charIndices, List.getLast?_concat,
      List.dropLast_concat, Nat.zero_add]
    rfl

lemma IsBoundary.previous (h : text.IsBoundary position) : ∃ before after : Text,
  text = before ++ after ∧ position = before.byteLen ∧
    previousCharacterBoundary text position = .ok (byteLen before.dropLast) := by
  obtain ⟨before, after, htext, hpos, hslices⟩ := h.slices
  refine ⟨before, after, htext, hpos, ?_⟩
  rw [previousCharacterBoundary, hslices, ok_bind]
  exact congrArg Except.ok (getLast?_charIndices before)

lemma isBoundary_dropLast (before after : Text) :
  IsBoundary (before ++ after) (byteLen before.dropLast) := by
  rcases List.eq_nil_or_concat before with rfl | ⟨rest, _, rfl⟩
  · exact isBoundary_zero _
  · rw [List.concat_eq_append, List.dropLast_concat, List.append_assoc]
    exact ⟨rest, _, rfl, rfl⟩

lemma IsBoundary.next (h : text.IsBoundary position) : ∃ next,
  nextCharacterBoundary text position = .ok next ∧ text.IsBoundary next := by
  obtain ⟨before, after, htext, hpos, hslices⟩ := h.slices
  refine ⟨_, by rw [nextCharacterBoundary, hslices]; rfl, ?_⟩
  rcases after with _ | ⟨character, _ | ⟨second, rest⟩⟩
  · exact isBoundary_byteLen _
  · exact isBoundary_byteLen _
  · refine ⟨before ++ [character], second :: rest, by rw [htext, List.append_assoc]; rfl, ?_⟩
    rw [Nat.min_eq_left h.le, byteLen_append, hpos]
    simp [charIndices, byteLen]

end Text

/-! ### The console -/

lemma length_pushBounded (hbound : 0 < bound) (h : lines.length ≤ bound) (line : Text) :
  (pushBounded bound lines line).length ≤ bound := by
  rw [pushBounded, List.length_append, List.length_singleton]
  split
  · rw [List.length_drop]
    omega
  · omega

namespace ConsoleState

/-- The cursors point into the texts they belong to, and the lists are within their bounds. -/
structure Sound (state : ConsoleState) : Prop where
  boundary : state.input.IsBoundary state.cursor
  history_cursor : ∀ index, state.historyCursor = some index → index < state.history.length
  history_le : state.history.length ≤ maxHistoryEntries
  output_le : state.output.length ≤ maxOutputLines

namespace Sound
variable {state : ConsoleState} (h : state.Sound)
include h

lemma pushCharacter (character : Char) : ∃ state', state.pushCharacter character = .ok state' ∧
  state'.Sound := by
  rw [ConsoleState.pushCharacter]
  split
  · exact ⟨_, rfl, h⟩
  split
  · next hroom =>
    obtain ⟨before, after, _, hcursor, hslices⟩ := h.boundary.slices
    have hinsert : state.input.insert (min state.cursor state.input.byteLen) character =
      .ok (before ++ character :: after) := by
      rw [Text.insert, hslices]
      rfl
    refine ⟨_, by dsimp only; rw [hinsert]; rfl, ?_⟩
    refine { h with boundary := ⟨before ++ [character], after, List.append_cons .., ?_⟩ }
    have hle := h.boundary.le
    have hsize := character.utf8Size_le_four
    rw [maxInputBytes] at hroom
    dsimp only
    rw [Nat.min_eq_left hle, saturatingAdd_of_lt (by rw [wordSize_eq]; omega), hcursor,
      Text.byteLen_append]
    rfl
  · exact ⟨_, rfl, h⟩

lemma pushBackspace : ∃ state', state.pushBackspace = .ok state' ∧ state'.Sound := by
  rw [ConsoleState.pushBackspace]
  split
  · exact ⟨_, rfl, h⟩
  next hcursor =>
  obtain ⟨before, after, hinput, hpos, hprev⟩ := h.boundary.previous
  rcases List.eq_nil_or_concat before with rfl | ⟨rest, character, rfl⟩
  · exact absurd (.inr hpos) hcursor
  rw [List.concat_eq_append, List.dropLast_concat] at hprev
  have hslices := Text.slices_append rest (character :: after)
  rw [List.append_cons, ← List.concat_eq_append, ← hinput] at hslices
  refine ⟨_, by rw [hprev, ok_bind, Text.remove, hslices]; rfl, ?_⟩
  exact { h with boundary := ⟨rest, after, rfl, rfl⟩ }

lemma moveCursorLeft : ∃ state', state.moveCursorLeft = .ok state' ∧ state'.Sound := by
  obtain ⟨before, after, hinput, -, hprev⟩ := h.boundary.previous
  refine ⟨_, by rw [ConsoleState.moveCursorLeft, hprev]; rfl, ?_⟩
  exact { h with boundary := hinput ▸ Text.isBoundary_dropLast before after }

lemma moveCursorRight : ∃ state', state.moveCursorRight = .ok state' ∧ state'.Sound := by
  obtain ⟨_, hnext, hbnd⟩ := h.boundary.next
  refine ⟨_, by rw [ConsoleState.moveCursorRight, hnext]; rfl, ?_⟩
  exact { h with boundary := hbnd }

lemma loadHistory (hindex : index < state.history.length) :
  ∃ state', state.loadHistory index = .ok state' ∧ state'.Sound := by
  refine ⟨_, by rw [ConsoleState.loadHistory, List.getElem?_eq_getElem hindex]; rfl, ?_⟩
  exact { h with
    boundary := Text.isBoundary_byteLen _
    history_cursor := fun _ heq => Option.some.inj heq ▸ hindex }

lemma loadPreviousHistory : ∃ state', state.loadPreviousHistory = .ok state' ∧ state'.Sound := by
  rw [ConsoleState.loadPreviousHistory]
  split
  · exact ⟨_, rfl, h⟩
  next hsome =>
  have hpos := List.length_pos_iff.2 fun hnil => hsome (List.isEmpty_iff.2 hnil)
  refine h.loadHistory ?_
  cases hcursor : state.historyCursor with
  | none => exact Nat.sub_lt hpos Nat.one_pos
  | some index => exact (Nat.sub_le index 1).trans_lt (h.history_cursor index hcursor)

lemma loadNextHistory : ∃ state', state.loadNextHistory = .ok state' ∧ state'.Sound := by
  rw [ConsoleState.loadNextHistory]
  split
  · exact ⟨_, rfl, h⟩
  dsimp only
  split
  · exact ⟨_, rfl, { h with boundary := Text.isBoundary_zero _, history_cursor := nofun }⟩
  · exact h.loadHistory (Nat.not_le.1 ‹_›)

lemma takeSubmittedCommand : state.takeSubmittedCommand.2.Sound := by
  rw [ConsoleState.takeSubmittedCommand]
  split
  · exact h
  refine ⟨Text.isBoundary_zero _, nofun, ?_, h.output_le⟩
  dsimp only
  split
  · exact h.history_le
  · exact length_pushBounded (by decide) h.history_le _

lemma takeRenderSnapshot : ∃ snapshot, state.takeRenderSnapshot = .ok snapshot ∧
  snapshot.2.Sound := by
  rw [ConsoleState.takeRenderSnapshot]
  split
  · exact ⟨_, rfl, h⟩
  · obtain ⟨_, _, -, -, hslices⟩ := h.boundary.slices
    refine ⟨_, by rw [visibleOutput, require_pos (by omega), ok_bind, hslices]; rfl, ?_⟩
    exact { h with }

/-- **Every operation returns, and keeps the cursors where they may be.** -/
lemma apply (operation : Operation) : ∃ state', state.apply operation = .ok state' ∧
  state'.Sound := by
  cases operation with
  | toggle => exact ⟨_, rfl, { h with }⟩
  | pushCharacter character => exact h.pushCharacter character
  | pushBackspace => exact h.pushBackspace
  | moveCursorLeft => exact h.moveCursorLeft
  | moveCursorRight => exact h.moveCursorRight
  | moveCursorHome => exact ⟨_, rfl, { h with boundary := Text.isBoundary_zero _ }⟩
  | moveCursorEnd => exact ⟨_, rfl, { h with boundary := Text.isBoundary_byteLen _ }⟩
  | loadPreviousHistory => exact h.loadPreviousHistory
  | loadNextHistory => exact h.loadNextHistory
  | scrollUp => exact ⟨_, rfl, { h with }⟩
  | scrollDown => exact ⟨_, rfl, { h with }⟩
  | takeSubmittedCommand => exact ⟨_, rfl, h.takeSubmittedCommand⟩
  | clearOutput => exact ⟨_, rfl, { h with output_le := Nat.zero_le _ }⟩
  | pushOutput line =>
    exact ⟨_, rfl, { h with output_le := length_pushBounded (by decide) h.output_le line }⟩
  | takeRenderSnapshot =>
    obtain ⟨_, hsnapshot, hsound⟩ := h.takeRenderSnapshot
    exact ⟨_, by rw [ConsoleState.apply, hsnapshot]; rfl, hsound⟩

lemma foldlM (operations : List Operation) :
  ∃ state', operations.foldlM ConsoleState.apply state = .ok state' ∧ state'.Sound := by
  induction operations generalizing state with
  | nil => exact ⟨state, rfl, h⟩
  | cons operation _ ih =>
    obtain ⟨_, hnext, hsound⟩ := h.apply operation
    obtain ⟨state', hrun, hsound'⟩ := ih hsound
    exact ⟨state', by rw [List.foldlM_cons, hnext]; exact hrun, hsound'⟩

end Sound

/-- **No sequence of operations panics.** -/
theorem console_never_panics (operations : List Operation) :
    ∃ state, run operations = .ok state ∧ state.Sound ∧ state.cursor ≤ state.input.byteLen := by
  have hnew : ({} : ConsoleState).Sound := ⟨Text.isBoundary_zero _, nofun, by decide, by decide⟩
  obtain ⟨state, hrun, hsound⟩ := hnew.foldlM operations
  exact ⟨state, hrun, hsound, hsound.boundary.le⟩

end ConsoleState
end ManaOS
