import Adventure.Proofs.Session.Reached

/-!
# Lines of the player, and periods that elapse between them

* `Session.Event`: a line is handed in, or a period elapses;
* `Session.played`: the play after some events;
* `Session.Begins`: the plays with which sessions begin: anew, or with a game that a session has
  saved in which periods have elapsed as well;
* `murmurs_tick`, `tick_run`: what a period that elapses does;
* `played_preserves`, `played_keeps`, `played_world`: what every event preserves holds after all of
  them;
* `begins_sane`, `played_sane`: what is known of every play;
* `alike_played`: **periods that elapse do not count** for what comes of a line.
-/

namespace Adventure.Session

open Relation (ReflTransGen)

/-! ## 1. Events -/

/-- Something that happens to a session. -/
inductive Event where
  /-- The player hands in a line. -/
  | line (text : String)
  /-- A period elapses. -/
  | period
deriving DecidableEq, Repr

/-- The line that was handed in. -/
def Event.line? : Event → Option String
  | .line text => some text
  | .period => none

/-- The play after an event. -/
def step (s : Session) (p : Play) : Event → Play
  | .line text => (s.turn p text).2
  | .period => (tick.runOn p).2

/-- **The play after some events.** -/
def played (s : Session) (p : Play) (events : List Event) : Play := events.foldl s.step p

/-- **The plays with which sessions begin**: anew, or with a game that a session has saved. -/
inductive Begins (shelf : Shelf) : Session → Play → Prop where
  | anew {setup : Setup} {archive : Archive} {s : Session} {p : Play}
      (opens : Opens setup shelf archive s p) (new : s.resumed = false) : Begins shelf s p
  | resumed {s s' : Session} {p p' : Play} {events : List Event} {line : String} {setup : Setup}
      {archive : Archive} (begins : Begins shelf s p) (saves : s.Saves (s.played p events) line)
      (kept : archive.sheet setup.slot =
        (s.turn (s.played p events) line).2.host.archive.sheet s.setup.slot)
      (opens : Opens setup shelf archive s' p') : Begins shelf s' p'

variable {shelf : Shelf} {b : World} {s : Session} {p : Play} {events : List Event}

theorem played_append (s : Session) (p : Play) (events : List Event) (event : Event) :
    s.played p (events ++ [event]) = s.step (s.played p events) event := by
  unfold played
  rw [List.foldl_append]
  rfl

/-- **What every event preserves holds after all of them.** -/
theorem played_preserves {I : Play → Prop} (start : I p)
    (line : ∀ {q} text, I q → I (s.turn q text).2) (period : ∀ {q}, I q → I (tick.runOn q).2) :
    I (s.played p events) := by
  induction events using List.reverseRecOn with
  | nil => exact start
  | append_singleton events event ih =>
      rw [played_append]
      cases event with
      | line text => exact line text ih
      | period => exact period ih

/-! ## 2. A period that elapses -/

/-- A period that elapses changes the ticker, and something may be said. -/
theorem murmurs_tick : Play.IsMurmur tick := by
  unfold tick
  refine .get fun p => ?_
  split
  · exact .pure
  · refine .bind (.onDesk (fun _ => rfl) (fun _ => rfl) fun _ => rfl) ?_
    split
    · exact .utter _
    · exact .pure

/-- What is said when a period elapses, in a play that has a ticker. -/
theorem tick_run {t : Ticker String} (h : p.host.ticker = some t) : tick.runOn p =
    (.ok (), { p with host := { p.host with
      ticker := some t.tick.1
      spoken := (t.tick.2.toList.map fun w => (.line (.text w), p.world.notes.length)) ++
        p.host.spoken } }) := by
  unfold tick
  rw [Act.runOn_bind_ok (Act.runOn_get p)]
  simp only [h]
  rcases t.tick with ⟨t', warning⟩
  cases warning with
  | none => rfl
  | some w => rfl

/-- Without a ticker nothing happens. -/
theorem tick_run_none (h : p.host.ticker = none) : tick.runOn p = (.ok (), p) := by
  unfold tick
  rw [Act.runOn_bind_ok (Act.runOn_get p)]
  simp only [h]
  rfl

theorem tick_murmurs (p : Play) : p.Murmurs (tick.runOn p).2 := by
  obtain ⟨q, run, murmurs⟩ := murmurs_tick p
  rw [run]
  exact murmurs

/-- **The world stays as it is** when a period elapses. -/
theorem tick_world (p : Play) : (tick.runOn p).2.world = p.world := by
  cases h : p.host.ticker with
  | none => rw [tick_run_none h]
  | some t => rw [tick_run h]

theorem tick_sane (s : Session) (sane : Play.Sane b p) : Play.Sane b (tick.runOn p).2 := by
  have leads : ReflTransGen (Play.Deed s.setup b .idle) p (tick.runOn p).2 :=
    (tick_murmurs p).leads
  exact Play.deeds_preserve Play.sane_deed leads sane

/-! ## 3. What is known of every play -/

theorem played_sane (s : Session) (sane : Play.Sane b p) (events : List Event) :
    Play.Sane b (s.played p events) :=
  played_preserves sane (fun text sane => turn_sane sane text) (tick_sane s)

/-- What every event preserves of a play of the adventure holds after all of them. -/
theorem played_keeps {I : Play → Prop} (sane : Play.Sane b p) (start : I p)
    (line : ∀ {q} text, Play.Sane b q → I q → I (s.turn q text).2)
    (period : ∀ {q}, Play.Sane b q → I q → I (tick.runOn q).2) : I (s.played p events) := by
  have both : Play.Sane b (s.played p events) ∧ I (s.played p events) :=
    played_preserves (I := fun q => Play.Sane b q ∧ I q) ⟨sane, start⟩
      (fun text both => ⟨turn_sane both.1 text, line text both.1 both.2⟩)
      fun both => ⟨tick_sane s both.1, period both.1 both.2⟩
  exact both.2

/-- **What every line preserves of the world** holds after all events, for periods leave it alone. -/
theorem played_world {I : World → Prop} (sane : Play.Sane b p) (start : I p.world)
    (line : ∀ {q} text, Play.Sane b q → I q.world → I (s.turn q text).2.world) :
    I (s.played p events).world :=
  played_keeps (I := fun q => I q.world) sane start line fun _ before => by
    rw [tick_world]
    exact before

theorem played_placed (s : Session) (sane : Play.Sane b p) (placed : p.world.IsPlaced)
    (events : List Event) : (s.played p events).world.IsPlaced :=
  played_world sane placed fun _ sane placed => turn_preserves sane World.isPlaced_deed placed

/-- **What is known of every play with which a session begins.** -/
theorem begins_sane (holds : shelf.Holds b) (h : Begins shelf s p) :
    Play.Sane b p ∧ p.world.IsPlaced := by
  induction h with
  | anew opens new => exact sane_anew holds opens new
  | resumed begins saves kept opens ih =>
      obtain ⟨sane, placed⟩ := ih
      exact sane_saved holds (played_sane _ sane _) (played_placed _ sane placed _) saves kept opens

/-- A session begins without a ticker, and goes on. -/
theorem begins_quiet (h : Begins shelf s p) :
    p.host.ticker = none ∧ p.host.running = true := by
  cases h with
  | anew opens =>
      obtain ⟨_, _, _, -, -, -, -, -, -, -, rfl⟩ := opens_iff.mp opens
      exact ⟨rfl, rfl⟩
  | resumed begins saves kept opens =>
      obtain ⟨_, _, _, -, -, -, -, -, -, -, rfl⟩ := opens_iff.mp opens
      exact ⟨rfl, rfl⟩

/-! ## 4. Periods do not count -/

/-- The lines that were handed in. -/
def linesOf (events : List Event) : List String := events.filterMap Event.line?

/-- **Periods that elapse do not count**: nobody can tell the play apart from one with the same lines
    in which none has elapsed. -/
theorem alike_played (sane : Play.Sane b p) (events : List Event) :
    Play.Alike false (s.after p (linesOf events)) (s.played p events) := by
  induction events using List.reverseRecOn with
  | nil => exact alike_self p
  | append_singleton events event ih =>
      have lines : linesOf (events ++ [event]) = linesOf events ++ event.line?.toList := by
        unfold linesOf
        rw [List.filterMap_append]
        cases event with
        | line text => rfl
        | period => rfl
      rw [played_append, lines]
      cases event with
      | line text =>
          show Play.Alike false (s.after p (linesOf events ++ [text])) _
          rw [after_append]
          exact (keeps_handle (s := s) ih (after_sane sane _) text).alike
      | period =>
          show Play.Alike false (s.after p (linesOf events ++ [])) _
          rw [List.append_nil]
          exact Play.Murmurs.alike ih (.refl _) (tick_murmurs _)

end Adventure.Session
