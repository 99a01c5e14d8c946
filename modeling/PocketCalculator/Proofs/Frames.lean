import PocketCalculator.Window.Keyboard
import PocketCalculator.Window.Keypad

/-!
# Frames

Whatever happens on the keyboard in a frame, and in whatever order, comes down to a list of
keys that are pressed one after the other: first the one that clears everything, then those
of the typed characters, then equals, and the one that deletes at last.  So the texts of a
frame count in their order, a control key counts once wherever it stands, and nothing from
before the frame is left where the frame clears.

A typed character presses the key of a button.  A word can therefore be clicked on the
keypad as well, one button for each character, in any mode and with what the word itself
calculates on the way.  It does not matter either how a word falls into texts and frames.

Main definitions:

- {lit}`Frame.keys` are the keys that a frame presses.
- {lit}`Keyboard.label?` is the label of the button that stands for a typed character.
- {lit}`Entry.clickWord?` clicks the buttons of a word.

Main results:

- Theorem {lit}`Entry.frame_eq_pressAll`: a frame presses its keys.
- Theorem {lit}`frame_order`: what counts of a frame.
- Theorem {lit}`Keyboard.exists_button`: a character and its button press the same key.
- Theorem {lit}`Entry.clickWord?_eq`: clicking a word is typing it.
- Theorem {lit}`typing_is_clicking`: a word of the keyboard on the keypad.
-/

namespace PocketCalculator

/-! ## The keys of a frame -/

namespace Frame

variable (events : List KeyboardEvent)

/-- What the texts of a frame type, in their order. -/
def typed : Text := events.flatMap KeyboardEvent.typed

/-- A key if a control key is among the events of a frame, and else none. -/
def keyOn (control : ControlKey) (key : Key) : List Key :=
  if .control control ∈ events then [key] else []

/-- The keys that a frame presses, in their order. -/
def keys : List Key :=
  keyOn events .escape (.clear .all) ++ (typed events).filterMap Keyboard.key? ++
    keyOn events .enter .equals ++ keyOn events .backspace (.clear .last)

variable {events} {others : List KeyboardEvent}

/-- The keys of a frame are told by what it types and by the set of its control keys. -/
theorem keys_congr (htyped : typed others = typed events)
    (hcontrols : ∀ control, .control control ∈ others ↔ .control control ∈ events) :
    keys others = keys events := by
  simp only [keys, keyOn, htyped, hcontrols]

end Frame

namespace Entry

/-- A control key presses its key or nothing. -/
theorem pressOn_eq_pressAll (entry : Entry) (events : List KeyboardEvent)
    (control : ControlKey) (key : Key) :
    entry.pressOn events control key = entry.pressAll (Frame.keyOn events control key) := by
  unfold pressOn Frame.keyOn
  split <;> rfl

/-- A text presses the keys of its characters. -/
theorem typeText_eq_pressAll (entry : Entry) (text : Text) :
    entry.typeText text = entry.pressAll (text.filterMap Keyboard.key?) := by
  induction text generalizing entry with
  | nil => rfl
  | cons c text ih =>
    rw [typeText_cons, ih, typeCharacter, List.filterMap_cons]
    cases Keyboard.key? c <;> rfl

/-- Texts may be typed as one. -/
theorem foldl_typeText (entry : Entry) (texts : List Text) :
    texts.foldl typeText entry = entry.typeText texts.flatten := by
  induction texts generalizing entry with
  | nil => rfl
  | cons text texts ih => rw [List.foldl_cons, ih, List.flatten_cons, typeText_append]

/-- A frame presses its keys. -/
theorem frame_eq_pressAll (entry : Entry) (events : List KeyboardEvent) :
    entry.frame events = entry.pressAll (Frame.keys events) := by
  have htexts : (events.map KeyboardEvent.typed).flatten = Frame.typed events :=
    List.flatMap_def.symm
  simp only [frame, Frame.keys, pressAll_append, pressOn_eq_pressAll, foldl_typeText, htexts,
    typeText_eq_pressAll]

/-- Behind a key that clears everything nothing is left of the state before it. -/
theorem pressAll_keys_of_escape {events : List KeyboardEvent}
    (hescape : .control .escape ∈ events) (entry other : Entry) :
    entry.pressAll (Frame.keys events) = other.pressAll (Frame.keys events) := by
  have hfirst : Frame.keyOn events .escape (.clear .all) = [.clear .all] := if_pos hescape
  simp only [Frame.keys, hfirst, pressAll_append, pressAll_cons, pressAll_nil]
  rfl

end Entry

/-- A frame presses the key that clears everything if the escape key is among its events,
then the keys of the typed characters in their order, then equals if the enter key is among
them, and the key that deletes if the backspace key is.  So two frames that type the same
and have the same control keys have the same effect, in whatever order and however often
their events come, and where the escape key is among them it does not matter what was there
before the frame. -/
theorem frame_order (entry : Entry) (events : List KeyboardEvent) :
    entry.frame events = entry.pressAll (Frame.keys events) ∧
      (∀ others : List KeyboardEvent, Frame.typed others = Frame.typed events →
        (∀ control, .control control ∈ others ↔ .control control ∈ events) →
          entry.frame others = entry.frame events) ∧
      (.control .escape ∈ events →
        ∀ other : Entry, other.frame events = entry.frame events) := by
  refine ⟨entry.frame_eq_pressAll events, fun others htyped hcontrols => ?_,
    fun hescape other => ?_⟩
  · rw [entry.frame_eq_pressAll, entry.frame_eq_pressAll, Frame.keys_congr htyped hcontrols]
  · rw [entry.frame_eq_pressAll, other.frame_eq_pressAll]
    exact Entry.pressAll_keys_of_escape hescape other entry

/-- A frame that repeats its control keys around two texts has the effect of one that holds
each of them once and the texts as one, also on a calculator that shows something else. -/
theorem frame_order_repeated :
    let events : List KeyboardEvent := [.control .backspace, .text "6=".toList,
      .control .enter, .text "!*2".toList, .control .escape, .control .enter]
    let others : List KeyboardEvent := [.control .escape, .control .enter,
      .control .backspace, .text "6=!*2".toList]
    let entry : Entry := ⟨"9".toList, true, none⟩
    Frame.typed others = Frame.typed events ∧
      (∀ control, .control control ∈ others ↔ .control control ∈ events) ∧
      .control .escape ∈ events ∧
      (entry.frame events).expression = "144".toList ∧
      entry.frame others = entry.frame events ∧
      Entry.new.frame events = entry.frame events := by
  intro events others entry
  have htyped : Frame.typed others = Frame.typed events := by decide
  have hcontrols (control : ControlKey) :
      .control control ∈ others ↔ .control control ∈ events := by
    cases control <;> decide
  have hescape : .control .escape ∈ events := by decide
  obtain ⟨-, hothers, hbefore⟩ := frame_order entry events
  have hscreen : (entry.frame events).expression = "144".toList := by decide +kernel
  exact ⟨htyped, hcontrols, hescape, hscreen, hothers others htyped hcontrols,
    hbefore hescape Entry.new⟩

/-! ## Buttons for characters -/

namespace Keyboard

/-- The label of the button that stands for a typed character. -/
def label? (c : Char) : Option Text :=
  if isDigit c || c ∈ ".+-()%=".toList then some [c]
  else if c ∈ "*x×".toList then some "×".toList
  else if c ∈ "/÷".toList then some "÷".toList
  else if c = '^' then some "xʸ".toList
  else if c = '!' then some "x!".toList
  else none

/-- The characters that have a button. -/
def characters : Text := "0123456789".toList ++ ".+-()%=*x×/÷^!".toList

/-- A digit is one of ten characters. -/
theorem mem_digits_of_isDigit {c : Char} (h : isDigit c = true) : c ∈ "0123456789".toList := by
  have hcode : 48 ≤ c.toNat ∧ c.toNat ≤ 57 := by
    simpa [isDigit, Char.le_def, UInt32.le_iff_toNat_le] using h
  have hall : ∀ n ≤ 57, 48 ≤ n → Char.ofNat n ∈ "0123456789".toList := by decide
  rw [← Char.ofNat_toNat c]
  exact hall _ hcode.2 hcode.1

/-- In either mode the button that stands for a character is there, and presses the key that
typing the character presses. -/
theorem exists_button {c : Char} (h : c ∈ characters) (inverse : Bool) :
    ∃ label key, label? c = some label ∧ Keypad.key? inverse label = some key ∧
      key? c = some key := by
  have hall : characters.all (fun c =>
      (label? c).bind (Keypad.key? inverse) == key? c && (key? c).isSome) = true := by
    cases inverse <;> decide
  obtain ⟨hbutton, hpresses⟩ := Bool.and_eq_true_iff.1 (List.all_eq_true.1 hall c h)
  obtain ⟨key, hkey⟩ := Option.isSome_iff_exists.1 hpresses
  obtain ⟨label, hlabel, hpressed⟩ :=
    Option.bind_eq_some_iff.1 ((eq_of_beq hbutton).trans hkey)
  exact ⟨label, key, hlabel, hpressed, hkey⟩

/-- A character without a button has no key. -/
theorem label?_eq_none {c : Char} (h : c ∉ characters) : label? c = none ∧ key? c = none := by
  have hdigit : isDigit c = false :=
    Bool.eq_false_iff.2 fun hdigit =>
      h (List.mem_append_left _ (mem_digits_of_isDigit hdigit))
  have hmark : c ∉ ".+-()%=*x×/÷^!".toList := fun hmark => h (List.mem_append_right _ hmark)
  simp_all [label?, key?, typesItself]

end Keyboard

namespace Entry

/-- Clicks the button that stands for a character.  A character without one changes
nothing; a button that is not shown cannot be clicked. -/
def clickCharacter? (entry : Entry) (c : Char) : Option Entry :=
  match Keyboard.label? c with
  | some label => entry.click? label
  | none => some entry

/-- Clicks the buttons of a word, one after the other. -/
def clickWord? (entry : Entry) (word : Text) : Option Entry := word.foldlM clickCharacter? entry

/-- Clicking the button of a character is typing the character. -/
theorem clickCharacter?_eq (entry : Entry) (c : Char) :
    entry.clickCharacter? c = some (entry.typeCharacter c) := by
  unfold clickCharacter? typeCharacter
  by_cases h : c ∈ Keyboard.characters
  · obtain ⟨label, key, hlabel, hpressed, hkey⟩ := Keyboard.exists_button h entry.inverse
    rw [hlabel, hkey]
    exact congrArg (Option.map entry.press) hpressed
  · obtain ⟨hlabel, hkey⟩ := Keyboard.label?_eq_none h
    rw [hlabel, hkey]

/-- Clicking a word is typing it. -/
theorem clickWord?_eq (entry : Entry) (word : Text) :
    entry.clickWord? word = some (entry.typeText word) := by
  induction word generalizing entry with
  | nil => rfl
  | cons c word ih =>
    rw [clickWord?, List.foldlM_cons, clickCharacter?_eq]
    exact ih _

/-- A frame that holds nothing but texts types them as one. -/
theorem frame_texts (entry : Entry) (texts : List Text) :
    entry.frame (texts.map .text) = entry.typeText texts.flatten := by
  have htyped : Frame.typed (texts.map .text) = texts.flatten := by
    rw [Frame.typed, List.flatMap_map, ← List.flatMap_id]
    rfl
  have hcontrols (control : ControlKey) (key : Key) :
      Frame.keyOn (texts.map .text) control key = [] := by
    simp [Frame.keyOn]
  rw [frame_eq_pressAll, Frame.keys, htyped, hcontrols, hcontrols, hcontrols,
    typeText_eq_pressAll]
  simp

/-- Frames that hold nothing but texts type all of them as one. -/
theorem foldl_frame_texts (entry : Entry) (frames : List (List Text)) :
    (frames.map fun texts => texts.map KeyboardEvent.text).foldl frame entry =
      entry.typeText frames.flatten.flatten := by
  induction frames generalizing entry with
  | nil => rfl
  | cons texts frames ih =>
    rw [List.map_cons, List.foldl_cons, ih, frame_texts, List.flatten_cons, List.flatten_append,
      typeText_append]

end Entry

/-- Typing a word in one frame is clicking it on the keypad, one button after the other, each
of which is shown when its turn comes.  It has the same effect however the word is cut into
the texts of one or more frames. -/
theorem typing_is_clicking (entry : Entry) (word : Text) :
    entry.clickWord? word = some (entry.frame [.text word]) ∧
      ∀ frames : List (List Text), frames.flatten.flatten = word →
        (frames.map fun texts => texts.map KeyboardEvent.text).foldl Entry.frame entry =
          entry.frame [.text word] := by
  have hone : entry.frame [.text word] = entry.typeText word := by
    have htexts := entry.frame_texts [word]
    rwa [List.flatten_singleton] at htexts
  rw [hone]
  refine ⟨entry.clickWord?_eq word, fun frames hframes => ?_⟩
  rw [entry.foldl_frame_texts, hframes]

/-- A word with a calculation and a factorial on its way, in the inverse mode: the buttons,
and two frames, the first of which is empty but for an empty text. -/
theorem typing_is_clicking_factorial :
    let entry : Entry := ⟨placeholder, true, none⟩
    let word : Text := "2x a2=!+".toList
    let frames : List (List Text) := [[[]], ["2x".toList, " a2=".toList], [], ["!+".toList]]
    let typed : Entry :=
      (frames.map fun texts => texts.map KeyboardEvent.text).foldl Entry.frame entry
    frames.flatten.flatten = word ∧ typed.expression = "24+".toList ∧
      entry.clickWord? word = some typed := by
  intro entry word frames typed
  have hword : frames.flatten.flatten = word := by decide
  obtain ⟨hclicked, hcut⟩ := typing_is_clicking entry word
  have htyped : typed = entry.frame [.text word] := hcut frames hword
  have hscreen : (entry.frame [.text word]).expression = "24+".toList := by decide +kernel
  exact ⟨hword, htyped ▸ hscreen, hclicked.trans (congrArg some htyped.symm)⟩

end PocketCalculator
