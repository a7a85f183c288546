import ChipEight.Proofs.DrawnBytes

/-!
# Drawings on an unreliable sink

A display whose drawings may fail, each with another amount of room and with or without a failure to
flush. All that one drawing leaves to the next is whether some drawing so far has been written
whole. The bytes taken, the answer and the clearing of the terminal follow from that.
-/

namespace ChipEight

/-- A drawing of a screen, with the room that the sink has during it and whether flushing fails. -/
structure Attempt where
  screen : Screen
  room : Option Nat
  flushFails : Bool

namespace Display

/-- A drawing on the sink as it is at that time. -/
def attempt (d : Display) (t : Attempt) : Display × Option SinkFailure :=
  { d with sink := { d.sink with room := t.room, flushFails := t.flushFails } }.render t.screen

def attemptAll (d : Display) (attempts : List Attempt) : Display :=
  attempts.foldl (fun d t => (d.attempt t).1) d

/-- Whether there was room for all bytes of one of some attempts, the first of which is the first
drawing of its display. -/
def anyWhole (inPlace : Bool) (attempts : List Attempt) : Bool :=
  attempts.foldl
    (fun whole t => whole || decide (Sink.Holds t.room (frameBytes inPlace whole t.screen))) false

/-- The bytes of a drawing behind some attempts. -/
def nextBytes (inPlace : Bool) (before : List Attempt) (screen : Screen) : ByteArray :=
  frameBytes inPlace (anyWhole inPlace before) screen

variable {inPlace : Bool} {before : List Attempt} {t : Attempt}

theorem attempt_eq (d : Display) (t : Attempt) :
    d.attempt t =
      let data := frameBytes d.inPlace d.drawn t.screen
      ({ d with
          drawn := d.drawn || decide (Sink.Holds t.room data)
          sink := ⟨d.sink.written ++ Sink.firstBytes t.room data, Sink.roomBehind t.room data,
            t.flushFails⟩ },
        if Sink.Holds t.room data then if t.flushFails then some .notFlushed else none
        else some .full) := by
  rw [attempt, render_eq]
  by_cases hholds : Sink.Holds t.room (frameBytes d.inPlace d.drawn t.screen)
  · simp [hholds, Sink.taking, Sink.flush]
  · simp [hholds, Sink.taking]

private theorem attemptAll_concat (d : Display) (before : List Attempt) (t : Attempt) :
    d.attemptAll (before ++ [t]) = ((d.attemptAll before).attempt t).1 :=
  List.foldl_append

private theorem anyWhole_concat (inPlace : Bool) (before : List Attempt) (t : Attempt) :
    anyWhole inPlace (before ++ [t]) =
      (anyWhole inPlace before || decide (Sink.Holds t.room (nextBytes inPlace before t.screen))) :=
  List.foldl_append

theorem drawn_attemptAll (inPlace : Bool) (sink : Sink) (before : List Attempt) :
    ((initial inPlace sink).attemptAll before).inPlace = inPlace ∧
      ((initial inPlace sink).attemptAll before).drawn = anyWhole inPlace before := by
  induction before using List.reverseRecOn with
  | nil => exact ⟨rfl, rfl⟩
  | append_singleton before t ih =>
    rw [attemptAll_concat, attempt_eq, anyWhole_concat, nextBytes, ih.1, ih.2]
    exact ⟨rfl, rfl⟩

private theorem attempt_behind (inPlace : Bool) (sink : Sink) (before : List Attempt)
    (t : Attempt) :
    let behind := (initial inPlace sink).attemptAll before
    let data := nextBytes inPlace before t.screen
    (behind.attempt t).1.sink.written = behind.sink.written ++ Sink.firstBytes t.room data ∧
      (behind.attempt t).2 =
        if Sink.Holds t.room data then if t.flushFails then some .notFlushed else none
        else some .full := by
  obtain ⟨hplace, hdrawn⟩ := drawn_attemptAll inPlace sink before
  intro behind data
  rw [attempt_eq, hplace, hdrawn]
  exact ⟨rfl, rfl⟩

/-- One of some attempts was written whole if there was one with room for all of its bytes. -/
theorem anyWhole_iff :
    anyWhole inPlace before = true ↔
      ∃ earlier u, earlier ++ [u] <+: before ∧
        Sink.Holds u.room (nextBytes inPlace earlier u.screen) := by
  induction before using List.reverseRecOn with
  | nil => simp [anyWhole]
  | append_singleton before t ih =>
    rw [anyWhole_concat, Bool.or_eq_true, ih, decide_eq_true_iff]
    constructor
    · rintro (⟨earlier, u, hearlier, hholds⟩ | hholds)
      · exact ⟨earlier, u, hearlier.trans (List.prefix_append _ _), hholds⟩
      · exact ⟨before, t, List.prefix_refl _, hholds⟩
    · rintro ⟨earlier, u, hearlier, hholds⟩
      rcases List.prefix_concat_iff.1 hearlier with hsame | hearlier
      · obtain ⟨rfl, hlast⟩ := List.append_inj' hsame rfl
        cases hlast
        exact .inr hholds
      · exact .inl ⟨earlier, u, hearlier, hholds⟩

theorem clearings_nextBytes (inPlace : Bool) (before : List Attempt) (screen : Screen) :
    clearings (nextBytes inPlace before screen) =
      if inPlace && !anyWhole inPlace before then 1 else 0 :=
  clearings_frameBytes inPlace _ screen

private theorem written_attemptAll {d : Display} {attempts : List Attempt}
    (h : ∀ t ∈ attempts, t.room = none) :
    (d.attemptAll attempts).sink.written =
      (drawAll { d with sink := ⟨d.sink.written, none, false⟩ }
        (attempts.map (·.screen))).sink.written := by
  induction attempts generalizing d with
  | nil => rfl
  | cons t rest ih =>
    have hroom : t.room = none := h t List.mem_cons_self
    have hrest := ih (d := (d.attempt t).1) fun u hu => h u (List.mem_cons_of_mem _ hu)
    rw [attemptAll, List.foldl_cons, ← attemptAll, hrest, attempt_eq, List.map_cons, drawAll,
      drawAll, List.foldl_cons, render_of_holds (Sink.holds_none _), hroom]
    simp [Sink.holds_none, Sink.taking, Sink.firstBytes, Sink.roomBehind]

end Display

/-- Drawings on a sink that may fail at any byte and at any flush. The terminal counts as cleared
once a drawing has had all its bytes taken. Each drawing has as many of its bytes taken as there is
room for, and succeeds if that is all of them and the flush does. A drawing that only failed to
flush is never followed by a clearing; one that was cut short is followed by one unless an earlier
drawing was whole; and with room for everything the terminal is cleared once, at the beginning. -/
theorem drawings_on_unreliable_sink (inPlace : Bool) (sink : Sink) (before : List Attempt)
    (t : Attempt) :
    let behind (attempts : List Attempt) := (Display.initial inPlace sink).attemptAll attempts
    let written (attempts : List Attempt) := (behind attempts).sink.written
    let bytes (earlier : List Attempt) (u : Attempt) := Display.nextBytes inPlace earlier u.screen
    let SomeWhole : Prop := ∃ earlier u, earlier ++ [u] <+: before ∧
      written (earlier ++ [u]) = written earlier ++ bytes earlier u
    let answer := ((behind before).attempt t).2
    (Display.anyWhole inPlace before = true ↔ SomeWhole) ∧
    written (before ++ [t]) = written before ++ Sink.firstBytes t.room (bytes before t) ∧
    (answer = if Sink.Holds t.room (bytes before t) then
        if t.flushFails then some .notFlushed else none
      else some .full) ∧
    (answer = some .notFlushed → ∀ between u,
      Display.clearings (bytes (before ++ t :: between) u) = 0) ∧
    (inPlace → answer = some .full → ∀ u,
      (Display.clearings (bytes (before ++ [t]) u) = 1 ↔ ¬ SomeWhole)) ∧
    (inPlace → (∀ u ∈ before ++ [t], u.room = none) → ∃ rest,
      written (before ++ [t]) = sink.written ++ (Display.clearTerminal.toUTF8 ++ rest) ∧
      Display.clearings (Display.clearTerminal.toUTF8 ++ rest) = 1) := by
  intro behind written bytes SomeWhole answer
  have taken (earlier : List Attempt) (u : Attempt) :
      written (earlier ++ [u]) = written earlier ++ Sink.firstBytes u.room (bytes earlier u) := by
    dsimp only [written, behind]
    rw [Display.attemptAll_concat]
    exact (Display.attempt_behind inPlace sink earlier u).1
  have hanswer : answer = _ := (Display.attempt_behind inPlace sink before t).2
  have cleared : Display.anyWhole inPlace before = true ↔ SomeWhole := by
    simp only [SomeWhole, taken, ByteArray.append_right_inj, Sink.firstBytes_eq_iff]
    exact Display.anyWhole_iff
  refine ⟨cleared, taken before t, hanswer, ?_, ?_, ?_⟩
  · intro hunflushed between u
    have hholds : Sink.Holds t.room (Display.nextBytes inPlace before t.screen) := by
      by_contra hcut
      rw [hanswer, if_neg hcut] at hunflushed
      cases hunflushed
    have hwhole : Display.anyWhole inPlace (before ++ t :: between) = true :=
      Display.anyWhole_iff.2 ⟨before, t, ⟨between, by simp⟩, hholds⟩
    simp [bytes, Display.clearings_nextBytes, hwhole]
  · intro hplace hcut u
    have hnot : ¬ Sink.Holds t.room (Display.nextBytes inPlace before t.screen) := by
      intro hholds
      rw [hanswer, if_pos hholds] at hcut
      split at hcut <;> cases hcut
    have hwhole : Display.anyWhole inPlace (before ++ [t]) = Display.anyWhole inPlace before := by
      rw [Display.anyWhole_concat, decide_eq_false hnot, Bool.or_false]
    rw [← cleared, Display.clearings_nextBytes, hwhole, hplace]
    simp
  · intro hplace hroom
    obtain ⟨screen, rest, hscreens⟩ := List.exists_cons_of_ne_nil
      (show (before ++ [t]).map (·.screen) ≠ [] by simp)
    have hwritten : written (before ++ [t]) = _ := (Display.written_attemptAll hroom).trans
      (congrArg Sink.written (Display.sink_drawAll_of_holds (Sink.holds_none _)))
    refine ⟨Display.framesBytes true true (screen :: rest), ?_, ?_⟩
    · rw [hwritten, hscreens, ← Display.framesBytes_first, ← hplace]
      rfl
    · exact Display.clearings_clearTerminal_append (Display.digit_notMem_framesBytes true _)

/-- A drawing that is cut short in the middle of the clearing sequence is followed by another
clearing; once a drawing has only failed to flush, the terminal is not cleared again. -/
theorem drawings_on_unreliable_sink_cut :
    let cut : Attempt := ⟨.blank, some 2, false⟩
    let unflushed : Attempt := ⟨.blank, none, true⟩
    let behind (attempts : List Attempt) := (Display.initial true .reliable).attemptAll attempts
    ((behind []).attempt cut).2 = some .full ∧
    Display.clearings (Display.nextBytes true [cut] .blank) = 1 ∧
    ((behind [cut]).attempt unflushed).2 = some .notFlushed ∧
    Display.clearings (Display.nextBytes true [cut, unflushed] .blank) = 0 ∧
    ∃ rest, (behind [unflushed]).sink.written = Display.clearTerminal.toUTF8 ++ rest ∧
      Display.clearings (Display.clearTerminal.toUTF8 ++ rest) = 1 := by
  intro cut unflushed behind
  obtain ⟨_, _, answered, _, cleared, _⟩ := drawings_on_unreliable_sink true .reliable [] cut
  obtain ⟨_, _, answered', kept, _, _⟩ :=
    drawings_on_unreliable_sink true .reliable [cut] unflushed
  obtain ⟨_, _, _, _, _, once⟩ := drawings_on_unreliable_sink true .reliable [] unflushed
  have tooLong : ¬ Sink.Holds (some 2) (Display.nextBytes true [] .blank) := by
    have hclear : Display.clearTerminal.toUTF8.size = 4 := by decide
    have hbytes : Display.nextBytes true [] .blank =
        Display.clearTerminal.toUTF8 ++ Display.frameBytes true true .blank := by
      simp [Display.nextBytes, Display.anyWhole, Display.frameBytes]
    rw [Sink.holds_some_iff, hbytes, ByteArray.size_append]
    omega
  have unlimited := Sink.holds_none (Display.nextBytes true [cut] .blank)
  have full : ((behind []).attempt cut).2 = some .full := answered.trans (if_neg tooLong)
  have notFlushed : ((behind [cut]).attempt unflushed).2 = some .notFlushed :=
    answered'.trans ((if_pos unlimited).trans (if_pos rfl))
  obtain ⟨rest, written, clearedOnce⟩ := once rfl (by simp [unflushed])
  refine ⟨full, ?_, notFlushed, kept notFlushed [] unflushed, rest, ?_, clearedOnce⟩
  · exact (cleared rfl full cut).2 (by simp)
  · exact written.trans ByteArray.empty_append

end ChipEight
