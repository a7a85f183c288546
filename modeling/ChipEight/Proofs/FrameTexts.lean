import ChipEight.Proofs.DrawnBytes
import ChipEight.Proofs.PixelFlips

/-!
# What frame texts tell

The text of a screen can be read back. It has 32 lines of 64 cells, and since all cells have two
characters, the place of each is known beforehand; the cell at a place tells whether that pixel is
on. Their bytes differ in length, so a stream of drawings is read as characters: there every drawing
is as long as any other in its place, and the first one can always be taken off the front.
-/

namespace ChipEight

private theorem getElem?_flatMap_of_length {α β : Type} {f : α → List β} {k : Nat}
    (hk : ∀ a, (f a).length = k) (l : List α) (i : Nat) {j : Nat} (hj : j < k) :
    (l.flatMap f)[k * i + j]? = l[i]?.bind fun a => (f a)[j]? := by
  induction l generalizing i with
  | nil => simp
  | cons a rest ih =>
    rw [List.flatMap_cons]
    cases i with
    | zero =>
      rw [List.getElem?_append_left (by rw [hk]; omega)]
      simp
    | succ i =>
      rw [List.getElem?_append_right (by rw [hk, Nat.mul_succ]; omega), hk,
        show k * (i + 1) + j - k = k * i + j by rw [Nat.mul_succ]; omega, ih,
        List.getElem?_cons_succ]

private theorem length_flatMap_of_length {α β : Type} {f : α → List β} {k : Nat}
    (hk : ∀ a, (f a).length = k) (l : List α) : (l.flatMap f).length = k * l.length := by
  induction l with
  | nil => rfl
  | cons a rest ih => rw [List.flatMap_cons, List.length_append, hk, ih, List.length_cons,
      Nat.mul_succ, Nat.add_comm]

namespace Screen

/-- The pixels of a screen, each row behind the one above it. -/
def frame (s : Screen) : List Bool :=
  (List.range (width * height)).map fun i => s.pixel (i % width) (i / width)

/-- The text of a frame buffer, a line for every 64 pixels. -/
def frameText (pixels : List Bool) : String :=
  String.ofList ((List.range height).flatMap fun y =>
    ((pixels.drop (width * y)).take width).flatMap cell ++ ['\n'])

theorem getElem?_frame (s : Screen) (x : Fin 64) (y : Fin 32) :
    s.frame[x.val + 64 * y.val]? = some (s.pixel x y) := by
  have hplace : x.val + 64 * y.val < width * height := by
    rw [width, height]
    omega
  have hcolumn : (x.val + 64 * y.val) % width = x.val := by
    rw [width]
    omega
  have hrow : (x.val + 64 * y.val) / width = y.val := by
    rw [width]
    omega
  rw [frame, List.getElem?_map, List.getElem?_range hplace, Option.map_some, hcolumn, hrow]

theorem take_drop_frame (s : Screen) {y : Nat} (hy : y < height) :
    (s.frame.drop (width * y)).take width = (List.range width).map fun x => s.pixel x y := by
  have hlength : s.frame.length = 64 * 32 := by simp [frame, width, height]
  rw [height] at hy
  apply List.ext_getElem
  · simp [hlength, width]
    omega
  · intro x hx hx'
    rw [List.length_map, List.length_range, width] at hx'
    have hpixel := s.getElem?_frame ⟨x, hx'⟩ ⟨y, hy⟩
    rw [List.getElem_take, List.getElem_drop, List.getElem_map, List.getElem_range]
    apply Option.some.inj
    rw [← List.getElem?_eq_getElem, width, Nat.add_comm]
    exact hpixel

theorem text_eq_frameText (s : Screen) : s.text = frameText s.frame := by
  rw [text, frameText, String.ofList_inj]
  apply List.flatMap_congr
  intro y hy
  rw [s.take_drop_frame (List.mem_range.1 hy), List.flatMap_map, lineCharacters]

/-- The two characters of a text where the cell of a pixel has its place. -/
def cellAt (text : String) (x y : Nat) : List Char := (text.toList.drop (129 * y + 2 * x)).take 2

private theorem length_cell (on : Bool) : (cell on).length = 2 := by cases on <;> rfl

private theorem length_lineCharacters (s : Screen) (y : Nat) :
    (s.lineCharacters y).length = 129 := by
  rw [lineCharacters, List.length_append, length_flatMap_of_length fun x => length_cell _]
  simp [width]

theorem length_text (s : Screen) : s.text.toList.length = 32 * 129 := by
  rw [text, String.toList_ofList, length_flatMap_of_length s.length_lineCharacters]
  simp [height]

theorem getElem?_text (s : Screen) {y : Nat} (hy : y < 32) {j : Nat} (hj : j < 129) :
    s.text.toList[129 * y + j]? = (s.lineCharacters y)[j]? := by
  rw [text, String.toList_ofList, getElem?_flatMap_of_length s.length_lineCharacters _ _ hj,
    height, List.getElem?_range hy, Option.bind_some]

private theorem lineEnd_text (s : Screen) {y : Nat} (hy : y < 32) :
    s.text.toList[129 * y + 128]? = some '\n' := by
  have hcells : ((List.range width).flatMap fun x => cell (s.pixel x y)).length = 128 := by
    rw [length_flatMap_of_length fun x => length_cell _]
    simp [width]
  rw [s.getElem?_text hy (by omega), lineCharacters,
    List.getElem?_append_right (by rw [hcells]), hcells]
  rfl

theorem cellAt_text (s : Screen) {x y : Nat} (hx : x < 64) (hy : y < 32) :
    cellAt s.text x y = cell (s.pixel x y) := by
  have hcharacter {j : Nat} (hj : j < 2) :
      s.text.toList[129 * y + 2 * x + j]? = (cell (s.pixel x y))[j]? := by
    rw [Nat.add_assoc, s.getElem?_text hy (by omega), lineCharacters, List.getElem?_append_left,
      getElem?_flatMap_of_length (fun x => length_cell _) _ _ hj, width, List.getElem?_range hx,
      Option.bind_some]
    rw [length_flatMap_of_length fun x => length_cell _, List.length_range, width]
    omega
  apply List.ext_getElem?
  intro j
  by_cases hj : j < 2
  · rw [cellAt, List.getElem?_take_of_lt hj, List.getElem?_drop, hcharacter hj]
  · rw [cellAt, List.getElem?_eq_none (by rw [List.length_take]; omega),
      List.getElem?_eq_none (by rw [length_cell]; omega)]

private theorem cell_injective {on on' : Bool} (h : cell on = cell on') : on = on' := by
  revert h
  cases on <;> cases on' <;> decide

theorem text_injective {s t : Screen} (h : s.text = t.text) : s = t := by
  apply ext_lit
  rintro ⟨x, y⟩
  apply cell_injective
  rw [lit, lit, ← s.cellAt_text x.isLt y.isLt, ← t.cellAt_text x.isLt y.isLt, h]

end Screen

namespace Display

def frameCharacters (inPlace whole : Bool) (screen : Screen) : List Char :=
  (if inPlace then (if whole then [] else clearTerminal.toList) ++ cursorHome.toList else []) ++
    screen.text.toList

def framesCharacters (inPlace : Bool) : Bool → List Screen → List Char
  | _, [] => []
  | whole, screen :: rest =>
    frameCharacters inPlace whole screen ++ framesCharacters inPlace true rest

variable {inPlace whole : Bool}

theorem utf8Encode_frameCharacters (inPlace whole : Bool) (screen : Screen) :
    (frameCharacters inPlace whole screen).utf8Encode = frameBytes inPlace whole screen := by
  cases inPlace <;> cases whole <;>
    simp [frameCharacters, frameBytes, List.utf8Encode_append, String.toUTF8]

theorem utf8Encode_framesCharacters (inPlace whole : Bool) (screens : List Screen) :
    (framesCharacters inPlace whole screens).utf8Encode = framesBytes inPlace whole screens := by
  induction screens generalizing whole with
  | nil => rfl
  | cons screen rest ih =>
    rw [framesCharacters, List.utf8Encode_append, utf8Encode_frameCharacters, ih, framesBytes]

theorem length_frameCharacters (inPlace whole : Bool) (s t : Screen) :
    (frameCharacters inPlace whole s).length = (frameCharacters inPlace whole t).length := by
  rw [frameCharacters, frameCharacters, List.length_append, List.length_append, s.length_text,
    t.length_text]

private theorem frameCharacters_ne_nil (inPlace whole : Bool) (screen : Screen) :
    frameCharacters inPlace whole screen ≠ [] := by
  refine fun h => ?_
  have hlength := congrArg List.length h
  rw [frameCharacters, List.length_append, screen.length_text] at hlength
  simp at hlength

/-- The first drawing can be taken off the front of a stream, and so can all of them. -/
theorem framesCharacters_injective {first second : List Screen}
    (h : framesCharacters inPlace whole first = framesCharacters inPlace whole second) :
    first = second := by
  induction first generalizing whole second with
  | nil =>
    cases second with
    | nil => rfl
    | cons t rest => exact absurd (List.append_eq_nil_iff.1 h.symm).1 (frameCharacters_ne_nil _ _ t)
  | cons s rest ih =>
    cases second with
    | nil => exact absurd (List.append_eq_nil_iff.1 h).1 (frameCharacters_ne_nil _ _ s)
    | cons t others =>
      obtain ⟨hdrawing, hrest⟩ := List.append_inj h (length_frameCharacters inPlace whole s t)
      have htext : s.text.toList = t.text.toList := List.append_cancel_left hdrawing
      rw [Screen.text_injective (String.toList_inj.1 htext), ih hrest]

theorem framesBytes_injective {first second : List Screen}
    (h : framesBytes inPlace whole first = framesBytes inPlace whole second) : first = second := by
  rw [← utf8Encode_framesCharacters, ← utf8Encode_framesCharacters, ← String.toByteArray_ofList,
    ← String.toByteArray_ofList, String.toByteArray_inj, String.ofList_inj] at h
  exact framesCharacters_injective h

end Display

/-- A text shows exactly the pixels of a screen. It is the text of the frame buffer in which pixel
`(x, y)` has the place `x + 64 * y`: 32 lines with a line end each, of 64 cells of two characters,
of which cell `x` of line `y` is lit exactly when that pixel is on. So different screens have
different texts, and different sequences of screens, drawn in the same manner on a new display with
a reliable sink, are different streams of bytes. -/
theorem frame_texts_tell :
    (∀ s : Screen,
      s.text = Screen.frameText s.frame ∧ s.text.toList.length = 32 * 129 ∧
      ∀ y : Fin 32, s.text.toList[129 * y.val + 128]? = some '\n' ∧
        ∀ x : Fin 64, s.frame[x.val + 64 * y.val]? = some (s.pixel x y) ∧
          Screen.cellAt s.text x y = if s.pixel x y then ['█', '█'] else [' ', ' ']) ∧
    (∀ s t : Screen, s.text = t.text ↔ s = t) ∧
    (∀ (inPlace : Bool) (first second : List Screen),
      let stream (screens : List Screen) :=
        ((Display.initial inPlace .reliable).drawAll screens).sink.written
      stream first = stream second ↔ first = second) := by
  refine ⟨fun s => ⟨s.text_eq_frameText, s.length_text, fun y => ⟨s.lineEnd_text y.isLt,
    fun x => ⟨s.getElem?_frame x y, s.cellAt_text x.isLt y.isLt⟩⟩⟩,
    fun s t => ⟨Screen.text_injective, congrArg Screen.text⟩, fun inPlace first second => ?_⟩
  intro stream
  have written (screens : List Screen) :
      stream screens = Display.framesBytes inPlace false screens :=
    (congrArg Sink.written (Display.sink_drawAll_of_holds (Sink.holds_none _))).trans
      ByteArray.empty_append
  constructor
  · intro h
    rw [written, written] at h
    exact Display.framesBytes_injective h
  · exact congrArg stream

end ChipEight
