import Mathlib.Algebra.Group.Nat.Defs
import Mathlib.Data.List.Forall2
import ChipEight.Journal

/-!
# The lines of a journal

A line can be read back. Its first word is the level of the event, a number in base 16 has a fixed
width and is read from its digits, and what the event is about stands between fixed words.
-/

namespace ChipEight

namespace HexadecimalText

/-- The digits in the order of their values. -/
def digitCharacters : List Char := "0123456789ABCDEF".toList

/-- The number that some digits denote, the first of which counts most. -/
def value? (cs : List Char) : Option Nat :=
  cs.foldlM (fun n c => (digitCharacters.idxOf? c).map (16 * n + ·)) 0

/-- A text of so many digits denotes a number. -/
def Shows (text : String) (width n : Nat) : Prop :=
  text.toList.length = width ∧ value? text.toList = some n

private theorem idxOf?_digitChar {d : Nat} (h : d < 16) :
    digitCharacters.idxOf? (Nat.digitChar d).toUpper = some d := by
  have all : ∀ d < 16, digitCharacters.idxOf? (Nat.digitChar d).toUpper = some d := by decide
  exact all d h

private theorem value?_concat (cs : List Char) {d : Nat} (h : d < 16) :
    value? (cs ++ [(Nat.digitChar d).toUpper]) = (value? cs).map (16 * · + d) := by
  rw [value?, List.foldlM_append, ← value?]
  cases value? cs with
  | none => rfl
  | some n => simp [idxOf?_digitChar h]

private theorem value?_digits (n : Nat) : value? (digits n) = some n := by
  induction n using Nat.strongRecOn with
  | ind n ih =>
    rw [digits, Nat.toDigits_eq_if (by decide)]
    split
    · next hsmall => simpa [value?] using value?_concat [] hsmall
    · next hlarge =>
      have hrest : value? ((Nat.toDigits 16 (n / 16)).map Char.toUpper) = some (n / 16) :=
        ih (n / 16) (by omega)
      rw [List.map_append, List.map_singleton, value?_concat _ (Nat.mod_lt n (by decide)), hrest,
        Option.map_some, Nat.div_add_mod]

private theorem value?_zeros (k : Nat) (cs : List Char) :
    value? (List.replicate k '0' ++ cs) = value? cs := by
  have hzeros : value? (List.replicate k '0') = some 0 := by
    induction k with
    | zero => rfl
    | succ k ih =>
      rw [List.replicate_succ', show '0' = (Nat.digitChar 0).toUpper by decide,
        value?_concat _ (by decide), show (Nat.digitChar 0).toUpper = '0' by decide, ih]
      rfl
  rw [value?, List.foldlM_append, ← value?, hzeros, Option.bind_eq_bind, Option.bind_some]
  rfl

theorem shows_padded {width n : Nat} (hwidth : 0 < width) (h : n < 16 ^ width) :
    Shows (padded width n) width n := by
  have hlength : (digits n).length ≤ width := by
    rw [digits, List.length_map]
    exact (Nat.length_toDigits_le_iff (by decide) hwidth).2 h
  rw [Shows, padded, String.toList_ofList]
  refine ⟨?_, (value?_zeros _ _).trans (value?_digits n)⟩
  rw [List.length_append, List.length_replicate, Nat.sub_add_cancel hlength]

theorem shows_byte (b : UInt8) : Shows (padded 2 b.toNat) 2 b.toNat :=
  shows_padded (by decide) b.toNat_lt

theorem shows_word (w : UInt16) : Shows (padded 4 w.toNat) 4 w.toNat :=
  shows_padded (by decide) w.toNat_lt

end HexadecimalText

open HexadecimalText

/-- What the line of each kind of event says. -/
inductive Event.Reports : Event → String → Prop where
  | reset : Reports .reset "DEBUG reset"
  | loaded (size : Nat) :
      Reports (.loaded size) ("DEBUG loaded " ++ toString size ++ " byte rom at 0x0200")
  | fetched {word : Word} {registers : Vector UInt8 16} {index pc : UInt16} {w i p : String}
      {v : List String} (word_shown : Shows w 4 word.toNat)
      (registers_shown : List.Forall₂ (fun text b => Shows text 2 b.toNat) v registers.toList)
      (index_shown : Shows i 4 index.toNat) (pc_shown : Shows p 4 pc.toNat) :
      Reports (.fetched word registers index pc)
        ("TRACE " ++ w ++ " v[" ++ ", ".intercalate v ++ "] i" ++ i ++ " pc" ++ p)
  | halted {pc : UInt16} {p : String} (fault : Fault) (pc_shown : Shows p 4 pc.toNat) :
      Reports (.halted pc fault) ("DEBUG halted at " ++ p ++ ": " ++ fault.message)
  | beep (frame : Nat) : Reports (.beep frame) ("INFO beep at frame " ++ toString frame)
  | stopped (frames : Nat) (fault : Fault) :
      Reports (.stopped frames fault)
        ("ERROR halted after " ++ toString frames ++ " frames: " ++ fault.message)
  | opened (path : String) : Reports (.opened path) ("INFO loaded " ++ path)
  | finished (frames beeps : Nat) :
      Reports (.finished frames beeps)
        ("INFO ran " ++ toString frames ++ " frames, " ++ toString beeps ++ " beeps")

namespace Event

private theorem Reports.of_toList {e : Event} {line : String} (h : e.Reports line)
    (hline : (e.level.name ++ " " ++ e.text).toList = line.toList) : e.Reports e.line := by
  rwa [show e.line = line from String.toList_inj.1 hline]

/-- Every event is reported by its line. -/
theorem reports_line (e : Event) : e.Reports e.line := by
  cases e with
  | reset => exact .reset
  | loaded size =>
    have haddress : address Memory.programStart = "0x0200" := by decide +kernel
    exact (Reports.loaded size).of_toList (by simp [level, Level.name, text, haddress])
  | fetched word registers index pc =>
    have hregisters : List.Forall₂ (fun text (b : UInt8) => Shows text 2 b.toNat)
        (registers.toList.map fun b => padded 2 b.toNat) registers.toList := by
      rw [List.forall₂_map_left_iff]
      exact List.forall₂_same.2 fun b _ => shows_byte b
    have hreports := Reports.fetched (shows_word word.bits) hregisters (shows_word index)
      (shows_word pc)
    exact hreports.of_toList
      (by simp [level, Level.name, text, registersText, Word.text, Word.toNat])
  | halted pc fault =>
    exact (Reports.halted fault (shows_word pc)).of_toList (by simp [level, Level.name, text])
  | beep frame => exact (Reports.beep frame).of_toList (by simp [level, Level.name, text])
  | stopped frames fault =>
    exact (Reports.stopped frames fault).of_toList (by simp [level, Level.name, text])
  | opened path => exact (Reports.opened path).of_toList (by simp [level, Level.name, text])
  | finished frames beeps =>
    exact (Reports.finished frames beeps).of_toList (by simp [level, Level.name, text])

end Event

namespace Journal

theorem lines_record {j : Journal} (h : j.threshold = some .trace) (events : List Event) :
    ∃ lines, (j.record events).lines = j.lines ++ lines ∧
      List.Forall₂ Event.Reports events lines := by
  have hkeeps : j.keeps = fun _ => true := by
    funext e
    cases e <;> simp [keeps, h, Event.level, Level.rank]
  have hall : events.filter (fun _ => true) = events := List.filter_eq_self.2 fun _ _ => rfl
  refine ⟨events.map Event.line, by simp [record, lines, hkeeps, hall], ?_⟩
  rw [List.forall₂_map_right_iff]
  exact List.forall₂_same.2 fun e _ => e.reports_line

end Journal
end ChipEight
