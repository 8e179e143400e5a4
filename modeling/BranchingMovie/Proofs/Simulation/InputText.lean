import Mathlib.Data.List.Forall2
import BranchingMovie.Proofs.Text.Cutting
import BranchingMovie.Proofs.Text.Spelling
import BranchingMovie.Simulation.TimedInput

/-!
# The text of timed input

Timed input is written as an event, an `@` and a time, with blanks around the event and the time
(`TimedInput.Writes`).  An event is the name of a button, in letters of either case and with hyphens
for underscores (`Control.Spells`), or a click, whose two coordinates may have blanks around them,
too.

A text is read as timed input exactly when it is written like this, up to zeros in front of its
numbers and signs that they do not need (`read_writings`).  There is no choice where to cut: times
and coordinates have neither an `@` nor a comma in them, so the last `@` stands in front of the time
and the first comma behind the first coordinate, and no name begins like a click.
-/

namespace BranchingMovie

/-! ## The names of buttons -/

namespace Control

/-- The text is the name of the button, in letters of either case and with hyphens for some of the
underscores. -/
def Spells (control : Control) (text : List Char) : Prop :=
  List.Forall₂ (fun c d => c.toLower = d ∨ (c = '-' ∧ d = '_')) text control.name.toList

/-- No name has a blank, a colon or a hyphen in it. -/
theorem of_mem_name {control : Control} {d : Char} (h : d ∈ control.name.toList) :
    Text.isBlank d = false ∧ d ≠ ':' ∧ d ≠ '-' := by
  have hAll : (control.name.toList.all fun d =>
      !Text.isBlank d && d != ':' && d != '-') = true := by
    cases control <;> decide
  have hOne := List.all_eq_true.1 hAll d h
  simp only [Bool.and_eq_true, Bool.not_eq_true', bne_iff_ne] at hOne
  exact ⟨hOne.1.1, hOne.1.2, hOne.2⟩

/-- No two buttons have one name. -/
theorem find?_name (control : Control) :
    all.find? (fun other => other.name.toList == control.name.toList) = some control := by
  cases control <;> decide

theorem toLower_eq_hyphen_iff {c : Char} : c.toLower = '-' ↔ c = '-' := by
  obtain h | ⟨hLow, hHigh, hLower⟩ := Text.toLower_cases c
  · rw [h]
  · constructor
    · intro hSame
      rw [hSame] at hLower
      simp only [Char.reduceToNat] at hLower
      omega
    · rintro rfl
      exact absurd hLow (by decide)

/-- What a text is taken for when it is looked up as a name. -/
theorem underscored_iff {text name : List Char} (hName : ∀ d ∈ name, d ≠ '-') :
    (Text.lowerAscii text).map (fun c => if c = '-' then '_' else c) = name ↔
      List.Forall₂ (fun c d => c.toLower = d ∨ (c = '-' ∧ d = '_')) text name := by
  rw [Text.lowerAscii, List.map_map]
  induction text generalizing name with
  | nil => rw [List.forall₂_nil_left_iff, List.map_nil, eq_comm]
  | cons c text ih =>
    cases name with
    | nil => simp
    | cons d name =>
      obtain ⟨hd, hRest⟩ := List.forall_mem_cons.1 hName
      have hChar : (if c.toLower = '-' then '_' else c.toLower) = d ↔
          c.toLower = d ∨ (c = '-' ∧ d = '_') := by
        have hHyphen := toLower_eq_hyphen_iff (c := c)
        grind
      rw [List.map_cons, List.cons.injEq, List.forall₂_cons, ih hRest, Function.comp_apply, hChar]

/-- The name of a button is looked up by exactly its spellings, whatever the blanks around them. -/
theorem ofName?_eq_some_iff {text : List Char} {control : Control} :
    ofName? text = some control ↔ control.Spells (Text.trim text) := by
  have hName : ∀ d ∈ control.name.toList, d ≠ '-' := fun d hd => (of_mem_name hd).2.2
  rw [Spells, ← underscored_iff hName, ofName?]
  constructor
  · intro h
    have hFound := List.find?_some h
    exact (beq_iff_eq.1 hFound).symm
  · intro h
    simp only [h]
    exact find?_name control

/-- Each character of a spelling stands for one of the name. -/
theorem Spells.exists_of_mem {control : Control} {text : List Char} (h : control.Spells text)
    {c : Char} (hc : c ∈ text) :
    ∃ d ∈ control.name.toList, c.toLower = d ∨ (c = '-' ∧ d = '_') := by
  rw [Spells] at h
  generalize control.name.toList = name at h
  induction h with
  | nil => cases hc
  | cons hFirst _ ih =>
    rcases List.mem_cons.1 hc with rfl | hRest
    · exact ⟨_, List.mem_cons_self, hFirst⟩
    · obtain ⟨d, hd, hSame⟩ := ih hRest
      exact ⟨d, List.mem_cons_of_mem _ hd, hSame⟩

/-- No character of a spelling is blank, and none is a colon. -/
theorem Spells.of_mem {control : Control} {text : List Char} (h : control.Spells text) {c : Char}
    (hc : c ∈ text) : Text.isBlank c = false ∧ c ≠ ':' := by
  obtain ⟨d, hd, rfl | ⟨rfl, -⟩⟩ := h.exists_of_mem hc
  · obtain ⟨hBlank, hColon, -⟩ := of_mem_name hd
    rw [Text.isBlank_toLower] at hBlank
    refine ⟨hBlank, ?_⟩
    rintro rfl
    exact hColon (by decide)
  · exact ⟨by decide, by decide⟩

theorem Spells.trimmed {control : Control} {text : List Char} (h : control.Spells text) :
    Text.Trimmed text :=
  .of_no_blank fun _ hc => (h.of_mem hc).1

end Control

/-! ## Numbers -/

namespace Numeral

theorem Spells.of_mem {cs : List Char} {n : Int} (h : Spells cs n) {c : Char} (hc : c ∈ cs) :
    c.isDigit = true ∨ c = '+' ∨ c = '-' := by
  cases h with
  | plain hNumeral => exact .inl (hNumeral.isDigit c hc)
  | plus hNumeral =>
    rcases List.mem_cons.1 hc with rfl | hDigit
    · exact .inr (.inl rfl)
    · exact .inl (hNumeral.isDigit c hDigit)
  | minus hNumeral =>
    rcases List.mem_cons.1 hc with rfl | hDigit
    · exact .inr (.inr rfl)
    · exact .inl (hNumeral.isDigit c hDigit)

theorem SpellsUnsigned.spells {cs : List Char} {n : Nat} (h : SpellsUnsigned cs n) :
    Spells cs n := by
  cases h with
  | plain hNumeral => exact .plain hNumeral
  | plus hNumeral => exact .plus hNumeral

/-- No number has a blank in it. -/
theorem Spells.trimmed {cs : List Char} {n : Int} (h : Spells cs n) : Text.Trimmed cs := by
  refine .of_no_blank fun c hc => ?_
  obtain hDigit | rfl | rfl := h.of_mem hc
  · exact Text.isBlank_of_isDigit hDigit
  · decide
  · decide

/-- No number has a separator in it. -/
theorem Spells.not_mem {cs : List Char} {n : Int} (h : Spells cs n) {sep : Char}
    (hSep : sep = '@' ∨ sep = ',') : sep ∉ cs := by
  intro hMem
  obtain rfl | rfl := hSep
  · exact absurd (h.of_mem hMem) (by decide)
  · exact absurd (h.of_mem hMem) (by decide)

end Numeral

namespace TimedInput

/-! ## Writing -/

/-- How whole numbers are written. -/
structure NumberForm where
  /-- Texts of a coordinate. -/
  coordinate : Int → List Char → Prop
  /-- Texts of a time. -/
  time : Nat → List Char → Prop

/-- Numbers are written with all the digits that they need, and a minus sign when they are
negative. -/
def NumberForm.plain : NumberForm where
  coordinate n text := text = (Numeral.writeInt n).toList
  time n text := text = (Numeral.writeNat n).toList

/-- Numbers may have zeros in front of them.  A plus sign may stand in front of one that is not
negative, and a minus sign in front of a coordinate that is zero. -/
def NumberForm.loose : NumberForm where
  coordinate n text := ∃ sign zeros, Numeral.IsSignOf n sign ∧
    text = sign ++ (List.replicate zeros '0' ++ (Numeral.writeNat n.natAbs).toList)
  time n text := ∃ sign zeros, (sign = [] ∨ sign = ['+']) ∧
    text = sign ++ (List.replicate zeros '0' ++ (Numeral.writeNat n).toList)

/-- The text of an event: the name of a button, or the coordinates of a click. -/
inductive WritesEvent (form : NumberForm) : InputEvent → List Char → Prop
  | control {control : Control} {text : List Char} (h : control.Spells text) :
    WritesEvent form (.control control) text
  | point {point : Point} {x y : List Char} (hx : Text.Padded (form.coordinate point.x.toInt) x)
    (hy : Text.Padded (form.coordinate point.y.toInt) y) :
    WritesEvent form (.point point) (pointMark ++ (x ++ ',' :: y))

/-- The text of timed input. -/
def Writes (form : NumberForm) (input : TimedInput) (text : List Char) : Prop :=
  ∃ event time, text = event ++ '@' :: time ∧ Text.Padded (WritesEvent form input.event) event ∧
    Text.Padded (form.time input.atMs.toNat) time

namespace NumberForm

theorem loose_coordinate_iff {n : Int} {text : List Char} :
    loose.coordinate n text ↔ Numeral.Spells text n := by
  rw [Numeral.spells_iff]
  simp only [loose, Numeral.toList_writeNat]

theorem loose_time_iff {n : Nat} {text : List Char} :
    loose.time n text ↔ Numeral.SpellsUnsigned text n := by
  rw [Numeral.spellsUnsigned_iff]
  simp only [loose, Numeral.toList_writeNat]

theorem loose_coordinate_of_plain {n : Int} {text : List Char} (h : plain.coordinate n text) :
    loose.coordinate n text := by
  obtain rfl := h
  exact loose_coordinate_iff.2 (Numeral.spells_writeInt n)

theorem loose_time_of_plain {n : Nat} {text : List Char} (h : plain.time n text) :
    loose.time n text := by
  obtain rfl := h
  exact ⟨[], 0, .inl rfl, rfl⟩

end NumberForm

/-- What is written with plain numbers is written with loose ones. -/
theorem Writes.loose {input : TimedInput} {text : List Char} (h : Writes .plain input text) :
    Writes .loose input text := by
  obtain ⟨event, time, rfl, hEvent, hTime⟩ := h
  refine ⟨event, time, rfl, hEvent.imp fun core hCore => ?_,
    hTime.imp fun _ => NumberForm.loose_time_of_plain⟩
  generalize input.event = event at hCore
  cases hCore with
  | control hName => exact .control hName
  | point hx hy =>
    exact .point (hx.imp fun _ => NumberForm.loose_coordinate_of_plain)
      (hy.imp fun _ => NumberForm.loose_coordinate_of_plain)

/-! ## Reading -/

theorem readInt32_trim_iff {text : List Char} {value : Int32} :
    Numeral.readInt32 (Text.trim text) = .ok value ↔
      Text.Padded (NumberForm.loose.coordinate value.toInt) text := by
  rw [Numeral.readInt32_ok_iff, ← NumberForm.loose_coordinate_iff, Text.padded_iff]
  exact fun core hCore => (NumberForm.loose_coordinate_iff.1 hCore).trimmed

theorem readUInt64_trim_iff {text : List Char} {value : UInt64} :
    Numeral.readUInt64 (Text.trim text) = .ok value ↔
      Text.Padded (NumberForm.loose.time value.toNat) text := by
  rw [Numeral.readUInt64_ok_iff, ← NumberForm.loose_time_iff, Text.padded_iff]
  exact fun core hCore => (NumberForm.loose_time_iff.1 hCore).spells.trimmed

/-- Coordinates are read when the first comma stands between them. -/
theorem readPoint_ok_iff {text : String} {coordinates : List Char} {event : InputEvent} :
    readPoint text coordinates = .ok event ↔
      ∃ point x y, event = .point point ∧ coordinates = x ++ ',' :: y ∧
        Text.Padded (NumberForm.loose.coordinate point.x.toInt) x ∧
        Text.Padded (NumberForm.loose.coordinate point.y.toInt) y := by
  constructor
  · intro h
    cases hCut : Text.cutFirst ',' coordinates with
    | none =>
      rw [readPoint, hCut] at h
      cases h
    | some pieces =>
      obtain ⟨x, y⟩ := pieces
      simp only [readPoint, hCut] at h
      obtain ⟨px, hx, h⟩ := Outcome.bind_ok.1 h
      obtain ⟨py, hy, h⟩ := Outcome.bind_ok.1 h
      cases h
      exact ⟨⟨px, py⟩, x, y, rfl, (Text.cutFirst_eq_some_iff.1 hCut).1,
        readInt32_trim_iff.1 (Outcome.mapError_ok.1 hx),
        readInt32_trim_iff.1 (Outcome.mapError_ok.1 hy)⟩
  · rintro ⟨point, x, y, rfl, rfl, hx, hy⟩
    have hComma : ',' ∉ x := hx.not_mem (by decide) fun core hCore =>
      (NumberForm.loose_coordinate_iff.1 hCore).not_mem (.inr rfl)
    simp only [readPoint, Text.cutFirst_append_sep hComma, readInt32_trim_iff.2 hx,
      readInt32_trim_iff.2 hy]
    rfl

/-- The text of a click begins like one, and no blank is trimmed in front of its second
coordinate. -/
theorem trim_point (x y : List Char) :
    Text.trim (pointMark ++ (x ++ ',' :: y)) = pointMark ++ (x ++ ',' :: Text.trimEnd y) := by
  have hStart : Text.trimStart (pointMark ++ (x ++ ',' :: y)) = pointMark ++ x ++ ',' :: y := by
    rw [← List.append_assoc]
    exact List.dropWhile_cons_of_neg (by decide)
  rw [Text.trim, hStart, Text.trimEnd_append_cons (by decide), List.append_assoc]

/-- No name of a button begins like a click. -/
theorem afterStart_of_spells {control : Control} {text : List Char} (h : control.Spells text) :
    Text.afterStart pointMark text = none := by
  rw [Option.eq_none_iff_forall_ne_some]
  rintro rest hRest
  obtain rfl := Text.afterStart_eq_some_iff.1 hRest
  have hColon : ':' ∈ pointMark ++ rest := List.mem_append_left rest (by decide)
  exact (h.of_mem hColon).2 rfl

/-- Events are read from exactly their texts, whatever the blanks around them. -/
theorem readEvent_ok_iff {text : String} {event : List Char} {result : InputEvent} :
    readEvent text event = .ok result ↔ Text.Padded (WritesEvent .loose result) event := by
  constructor
  · intro h
    refine Text.Padded.of_trim ?_
    cases hMark : Text.afterStart pointMark (Text.trim event) with
    | some coordinates =>
      rw [readEvent, hMark] at h
      obtain ⟨point, x, y, rfl, rfl, hx, hy⟩ := readPoint_ok_iff.1 h
      rw [Text.afterStart_eq_some_iff.1 hMark]
      exact .point hx hy
    | none =>
      cases hName : Control.ofName? event with
      | none =>
        simp only [readEvent, hMark, hName] at h
        cases h
      | some control =>
        simp only [readEvent, hMark, hName] at h
        cases h
        exact .control (Control.ofName?_eq_some_iff.1 hName)
  · rintro ⟨front, core, back, rfl, hFront, hBack, hCore⟩
    have hTrim : Text.trim (front ++ core ++ back) = Text.trim core :=
      Text.trim_append hFront hBack core
    cases hCore with
    | control hSpells =>
      rw [Text.trim_of_trimmed hSpells.trimmed] at hTrim
      have hName : Control.ofName? (front ++ core ++ back) = some _ :=
        Control.ofName?_eq_some_iff.2 (hTrim ▸ hSpells)
      simp only [readEvent, hTrim, afterStart_of_spells hSpells, hName]
    | @point point x y hx hy =>
      rw [trim_point] at hTrim
      have hMark := Text.afterStart_eq_some_iff.2 hTrim
      have hEnd : Text.Padded (NumberForm.loose.coordinate point.y.toInt) (Text.trimEnd y) := by
        rw [← readInt32_trim_iff] at hy ⊢
        rwa [Text.trim_trimEnd]
      simp only [readEvent, hMark]
      exact readPoint_ok_iff.2 ⟨point, x, Text.trimEnd y, rfl, rfl, hx, hEnd⟩

theorem read_ok_iff {text : String} {input : TimedInput} :
    read text = .ok input ↔ Writes .loose input text.toList := by
  constructor
  · intro h
    cases hCut : Text.cutLast '@' text.toList with
    | none =>
      rw [read, hCut] at h
      cases h
    | some pieces =>
      obtain ⟨event, time⟩ := pieces
      simp only [read, hCut] at h
      obtain ⟨atMs, hTime, h⟩ := Outcome.bind_ok.1 h
      obtain ⟨result, hEvent, h⟩ := Outcome.bind_ok.1 h
      cases h
      exact ⟨event, time, (Text.cutLast_eq_some_iff.1 hCut).1, readEvent_ok_iff.1 hEvent,
        readUInt64_trim_iff.1 (Outcome.mapError_ok.1 hTime)⟩
  · rintro ⟨event, time, hText, hEvent, hTime⟩
    have hAt : '@' ∉ time := hTime.not_mem (by decide) fun core hCore =>
      (NumberForm.loose_time_iff.1 hCore).spells.not_mem (.inl rfl)
    have hCut := Text.cutLast_eq_some_iff.2 ⟨hText, hAt⟩
    simp only [read, hCut, readUInt64_trim_iff.2 hTime, readEvent_ok_iff.2 hEvent]
    rfl

/-- **The text of timed input.**  What is written with plain numbers is read as what was written;
and a text is read as timed input exactly when it is written so, up to zeros in front of its numbers
and signs that they do not need. -/
theorem read_writings (text : String) (input : TimedInput) :
    (Writes .plain input text.toList → read text = .ok input) ∧
      (read text = .ok input ↔ Writes .loose input text.toList) :=
  ⟨fun h => read_ok_iff.2 h.loose, read_ok_iff⟩

example : read " Grapple-ARM @ +007 " = .ok ⟨7, .control .grappleArm⟩ ∧
    read "point: -0 , 12 @5" = .ok ⟨5, .point ⟨0, 12⟩⟩ := by decide +kernel

end TimedInput
end BranchingMovie
