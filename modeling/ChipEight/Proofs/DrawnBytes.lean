import Mathlib.Data.List.Infix
import ChipEight.Display

/-!
# The bytes of drawings

Which bytes a drawing wants to write and which of them a sink takes. A sink with room for `n` bytes
takes the first `n` of what it is given, however that is cut into pieces, and fails if there are
more; so a drawing is one write of `Display.frameBytes`. The sequence that clears a terminal holds a
byte that neither the sequence for the cursor nor a frame's text does, so it can be counted.
-/

namespace ChipEight

namespace Sink

/-- Whether some room is enough for some data. -/
def Holds (room : Option Nat) (data : ByteArray) : Prop := ∀ n ∈ room, data.size ≤ n

instance (room : Option Nat) (data : ByteArray) : Decidable (Holds room data) :=
  inferInstanceAs (Decidable (∀ _ ∈ room, _))

/-- As many bytes of some data, from the first one on, as there is room for. -/
def firstBytes (room : Option Nat) (data : ByteArray) : ByteArray :=
  match room with
  | none => data
  | some n => data.extract 0 (min n data.size)

def roomBehind (room : Option Nat) (data : ByteArray) : Option Nat := room.map (· - data.size)

/-- The sink behind being given some data, whether there is room for all of it or not. -/
def taking (s : Sink) (data : ByteArray) : Sink :=
  { s with written := s.written ++ firstBytes s.room data, room := roomBehind s.room data }

/-- Pieces one after the other. -/
def joined (pieces : List ByteArray) : ByteArray := pieces.foldr (· ++ ·) .empty

variable {room : Option Nat} {data rest : ByteArray}

theorem holds_none (data : ByteArray) : Holds none data := fun _ hn => nomatch hn

theorem holds_some_iff {n : Nat} : Holds (some n) data ↔ data.size ≤ n := by
  simp [Holds]

theorem firstBytes_of_holds (h : Holds room data) : firstBytes room data = data := by
  cases room with
  | none => rfl
  | some n => rw [firstBytes, Nat.min_eq_right (holds_some_iff.1 h), ByteArray.extract_zero_size]

theorem firstBytes_eq_iff : firstBytes room data = data ↔ Holds room data := by
  refine ⟨fun h => ?_, firstBytes_of_holds⟩
  rintro n rfl
  have hsize := congrArg ByteArray.size h
  rw [firstBytes, ByteArray.size_extract] at hsize
  omega

private theorem firstBytes_some (n : Nat) (data : ByteArray) :
    firstBytes (some n) data = data.extract 0 n := by
  calc data.extract 0 (min n data.size)
      = (data.extract 0 data.size).extract 0 n := by rw [ByteArray.extract_extract, Nat.zero_add,
        Nat.zero_add]
    _ = data.extract 0 n := by rw [ByteArray.extract_zero_size]

theorem holds_append :
    Holds room (data ++ rest) ↔ Holds room data ∧ Holds (roomBehind room data) rest := by
  cases room with
  | none => simp [Holds, roomBehind]
  | some n =>
    rw [roomBehind, Option.map_some, holds_some_iff, holds_some_iff, holds_some_iff,
      ByteArray.size_append]
    omega

theorem firstBytes_append (room : Option Nat) (data rest : ByteArray) :
    firstBytes room (data ++ rest) =
      firstBytes room data ++ firstBytes (roomBehind room data) rest := by
  cases room with
  | none => rfl
  | some n =>
    rw [roomBehind, Option.map_some, firstBytes_some, firstBytes_some, firstBytes_some,
      ByteArray.extract_append, Nat.zero_sub]

theorem taking_append (s : Sink) (data rest : ByteArray) :
    s.taking (data ++ rest) = (s.taking data).taking rest := by
  have hroom : roomBehind s.room (data ++ rest) = roomBehind (roomBehind s.room data) rest := by
    cases s.room with
    | none => rfl
    | some n => simp only [roomBehind, Option.map_some, ByteArray.size_append, Nat.sub_add_eq]
  simp only [taking, firstBytes_append, hroom, ByteArray.append_assoc]

theorem taking_append_of_not_holds {s : Sink} (h : ¬ Holds s.room data) (rest : ByteArray) :
    s.taking (data ++ rest) = s.taking data := by
  obtain ⟨written, room, flushFails⟩ := s
  cases room with
  | none => exact absurd (holds_none data) h
  | some n =>
    have hfull : n - data.size = 0 := Nat.sub_eq_zero_of_le (by rw [holds_some_iff] at h; omega)
    rw [taking_append]
    simp only [taking, roomBehind, Option.map_some, hfull, firstBytes_some 0,
      ByteArray.extract_same,
      ByteArray.append_empty, Nat.zero_sub]

theorem taking_empty (s : Sink) : s.taking .empty = s := by
  obtain ⟨written, room, flushFails⟩ := s
  cases room <;> simp [taking, firstBytes, roomBehind]

theorem write_eq (s : Sink) (data : ByteArray) :
    s.write data = (s.taking data, if Holds s.room data then none else some .full) := by
  obtain ⟨written, room, flushFails⟩ := s
  cases room with
  | none => simp [write, taking, firstBytes, roomBehind, Holds]
  | some n =>
    simp only [write, taking, roomBehind, Option.map_some, holds_some_iff]
    by_cases hfits : data.size ≤ n
    · rw [if_pos hfits, if_pos hfits, firstBytes_of_holds (holds_some_iff.2 hfits)]
    · rw [if_neg hfits, if_neg hfits, firstBytes_some, Nat.sub_eq_zero_of_le (by omega)]

/-- Writing pieces in order up to the first failure is writing them as one. -/
theorem writeAll_eq (s : Sink) (pieces : List ByteArray) :
    s.writeAll pieces =
      (s.taking (joined pieces), if Holds s.room (joined pieces) then none else some .full) := by
  induction pieces generalizing s with
  | nil =>
    have hempty : Holds s.room (joined []) := fun n _ => Nat.zero_le n
    rw [if_pos hempty, writeAll, joined, List.foldr_nil, taking_empty]
  | cons piece rest ih =>
    have hjoined : joined (piece :: rest) = piece ++ joined rest := rfl
    rw [writeAll, write_eq, hjoined]
    by_cases hpiece : Holds s.room piece
    · rw [if_pos hpiece, taking_append]
      simp only [ih, holds_append, hpiece, true_and]
      rfl
    · have hboth : ¬ Holds s.room (piece ++ joined rest) := fun h => hpiece (holds_append.1 h).1
      rw [if_neg hpiece, if_neg hboth, taking_append_of_not_holds hpiece]

end Sink

namespace Display

/-- The bytes of a drawing. In place the cursor goes home first, and before that the terminal is
cleared unless an earlier drawing has been written whole. -/
def frameBytes (inPlace whole : Bool) (screen : Screen) : ByteArray :=
  if inPlace then
    (if whole then .empty else clearTerminal.toUTF8) ++ (cursorHome.toUTF8 ++ screen.text.toUTF8)
  else screen.text.toUTF8

def framesBytes (inPlace : Bool) : Bool → List Screen → ByteArray
  | _, [] => .empty
  | whole, screen :: rest => frameBytes inPlace whole screen ++ framesBytes inPlace true rest

/-- The display behind drawing some screens in order, whatever becomes of each. -/
def drawAll (d : Display) (screens : List Screen) : Display :=
  screens.foldl (fun d screen => (d.render screen).1) d

private theorem joined_pieces (d : Display) (screen : Screen) :
    Sink.joined ((d.pieces screen).map String.toUTF8) = frameBytes d.inPlace d.drawn screen := by
  obtain ⟨inPlace, drawn, sink⟩ := d
  cases inPlace <;> cases drawn <;> simp [pieces, frameBytes, Sink.joined]

theorem render_eq (d : Display) (screen : Screen) :
    d.render screen =
      let data := frameBytes d.inPlace d.drawn screen
      if Sink.Holds d.sink.room data then
        ({ d with drawn := true, sink := d.sink.taking data }, d.sink.flush)
      else ({ d with sink := d.sink.taking data }, some .full) := by
  rw [render, Sink.writeAll_eq, joined_pieces]
  by_cases hholds : Sink.Holds d.sink.room (frameBytes d.inPlace d.drawn screen)
  · simp only [if_pos hholds]
    rfl
  · simp only [if_neg hholds]

theorem render_of_holds {d : Display} {screen : Screen}
    (h : Sink.Holds d.sink.room (frameBytes d.inPlace d.drawn screen)) :
    d.render screen =
      ({ d with drawn := true, sink := d.sink.taking (frameBytes d.inPlace d.drawn screen) },
        d.sink.flush) :=
  (d.render_eq screen).trans (if_pos h)

/-- With room for all their bytes drawings are written one behind the other. -/
theorem sink_drawAll_of_holds {d : Display} {screens : List Screen}
    (h : Sink.Holds d.sink.room (framesBytes d.inPlace d.drawn screens)) :
    (d.drawAll screens).sink = d.sink.taking (framesBytes d.inPlace d.drawn screens) := by
  induction screens generalizing d with
  | nil => exact d.sink.taking_empty.symm
  | cons screen rest ih =>
    rw [framesBytes, Sink.holds_append] at h
    rw [drawAll, List.foldl_cons, render_of_holds h.1, framesBytes, Sink.taking_append]
    exact ih h.2

/-- The number of places where some bytes clear a terminal. -/
def clearings (data : ByteArray) : Nat :=
  data.data.toList.tails.countP (clearTerminal.toUTF8.data.toList.isPrefixOf ·)

private theorem clearings_eq_zero {data : ByteArray} (h : 0x32 ∉ data.data.toList) :
    clearings data = 0 := by
  rw [clearings, List.countP_eq_zero]
  intro tail htail hclears
  have hdigit : (0x32 : UInt8) ∈ clearTerminal.toUTF8.data.toList := by decide
  exact h (((List.mem_tails _ _).1 htail).mem ((List.isPrefixOf_iff_prefix.1 hclears).mem hdigit))

theorem clearings_clearTerminal_append {rest : ByteArray} (h : 0x32 ∉ rest.data.toList) :
    clearings (clearTerminal.toUTF8 ++ rest) = 1 := by
  have hclear : clearTerminal.toUTF8.data.toList = [0x1B, 0x5B, 0x32, 0x4A] := by decide
  have hrest := clearings_eq_zero h
  rw [clearings, hclear] at hrest
  rw [clearings, ByteArray.data_append, Array.toList_append, hclear]
  simp only [List.cons_append, List.nil_append, List.tails_cons, List.countP_cons, hrest]
  simp [List.isPrefixOf]

private theorem digit_notMem_text (screen : Screen) : 0x32 ∉ screen.text.toUTF8.data.toList := by
  have hcell (on : Bool) : 0x32 ∉ (Screen.cell on).flatMap String.utf8EncodeChar := by
    cases on <;> decide
  have hline (y : Nat) : 0x32 ∉ (screen.lineCharacters y).flatMap String.utf8EncodeChar := by
    rw [Screen.lineCharacters, List.flatMap_append, List.mem_append, not_or, List.flatMap_assoc]
    refine ⟨fun hmem => ?_, by decide⟩
    obtain ⟨x, _, hx⟩ := List.mem_flatMap.1 hmem
    exact hcell _ hx
  have hbytes : screen.text.toUTF8.data.toList =
      (List.range Screen.height).flatMap fun y =>
        (screen.lineCharacters y).flatMap String.utf8EncodeChar := by
    rw [Screen.text, String.toUTF8, String.toByteArray_ofList, List.utf8Encode,
      List.data_toByteArray, List.toList_toArray, List.flatMap_assoc]
  rw [hbytes]
  intro hmem
  obtain ⟨y, _, hy⟩ := List.mem_flatMap.1 hmem
  exact hline y hy

private theorem digit_notMem_frameBytes (inPlace : Bool) (screen : Screen) :
    0x32 ∉ (frameBytes inPlace true screen).data.toList := by
  cases inPlace with
  | false => exact digit_notMem_text screen
  | true =>
    rw [frameBytes, if_pos rfl, if_pos rfl, ByteArray.empty_append, ByteArray.data_append,
      Array.toList_append, List.mem_append, not_or]
    exact ⟨by decide, digit_notMem_text screen⟩

theorem digit_notMem_framesBytes (inPlace : Bool) (screens : List Screen) :
    0x32 ∉ (framesBytes inPlace true screens).data.toList := by
  induction screens with
  | nil => exact List.not_mem_nil
  | cons screen rest ih =>
    rw [framesBytes, ByteArray.data_append, Array.toList_append, List.mem_append, not_or]
    exact ⟨digit_notMem_frameBytes inPlace screen, ih⟩

theorem framesBytes_first (screen : Screen) (rest : List Screen) :
    framesBytes true false (screen :: rest) =
      clearTerminal.toUTF8 ++ framesBytes true true (screen :: rest) := by
  simp [framesBytes, frameBytes, ByteArray.append_assoc]

theorem clearings_frameBytes (inPlace whole : Bool) (screen : Screen) :
    clearings (frameBytes inPlace whole screen) = if inPlace && !whole then 1 else 0 := by
  cases inPlace with
  | false => exact clearings_eq_zero (digit_notMem_text screen)
  | true =>
    cases whole with
    | true => exact clearings_eq_zero (digit_notMem_frameBytes true screen)
    | false =>
      have hfirst : frameBytes true false screen =
          clearTerminal.toUTF8 ++ frameBytes true true screen := by simp [frameBytes]
      rw [hfirst]
      exact clearings_clearTerminal_append (digit_notMem_frameBytes true screen)

end Display
end ChipEight
