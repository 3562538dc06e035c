import Adventure.Proofs.Session.Encounter

/-!
# Warnings mark the encounter

* `Session.said`, `Session.rings`, `Session.alarms`: what is said between two plays, when a period
  elapses, and in all the periods of a session;
* `Session.Course`: what a line has to do with the encounter and the ticker;
* `turn_course`: **every line has one of these courses**;
* `Session.Alarmed`: there is a ticker if the antagonist was woken, and it is cancelled as soon as
  the encounter is over;
* `warnings_mark_encounter`: **the antagonist warns in every period of the encounter and in no
  other**, with one warning after the other;
* `quit_alarmed`: a line that is handed in after the end.
-/

namespace Adventure

open Outcome

namespace Session

open World

variable {shelf : Shelf} {b : World} {s : Session} {p q : Play} {a : Antagonist}

/-! ## 1. What is said -/

/-- What was said between two plays. -/
def said (p q : Play) : List Utterance :=
  ((q.host.spoken.take (q.host.spoken.length - p.host.spoken.length)).map Prod.fst).reverse

/-- What is said when a period elapses. -/
def rings (p : Play) : List Utterance := said p (tick.runOn p).2

/-- **What is said in all the periods** among some events. -/
def alarms (s : Session) : Play → List Event → List Utterance
  | _, [] => []
  | p, .line text :: events => s.alarms (s.turn p text).2 events
  | p, .period :: events => rings p ++ s.alarms (tick.runOn p).2 events

/-- No line is handed in when the session is over. -/
def Attended (s : Session) (p : Play) (events : List Event) : Prop :=
  ∀ before text after, events = before ++ .line text :: after →
    (s.played p before).host.running = true

/-- How many warnings there have been. -/
def rung (p : Play) : Nat := (p.host.ticker.map Ticker.count).getD 0

theorem alarms_append (p : Play) (events : List Event) (event : Event) :
    s.alarms p (events ++ [event]) = s.alarms p events ++
      if event = .period then rings (s.played p events) else [] := by
  induction events generalizing p with
  | nil =>
      cases event with
      | line text => rfl
      | period => exact List.append_nil _
  | cons first events ih =>
      cases first with
      | line text => exact ih _
      | period =>
          show rings p ++ s.alarms _ (events ++ [event]) = _
          rw [ih, ← List.append_assoc]
          rfl

theorem rings_none (h : p.host.ticker = none) : rings p = [] := by
  unfold rings said
  rw [tick_run_none h]
  simp

theorem rings_some {t : Ticker String} (h : p.host.ticker = some t) :
    rings p = t.tick.2.toList.map fun w => .line (.text w) := by
  unfold rings said
  rw [tick_run h]
  cases t.tick.2 with
  | none => simp
  | some w => simp

/-! ## 2. One line of the player -/

/-- **What a line has to do with the encounter and the ticker.** -/
inductive Course (a : Antagonist) (s : Session) (p q : Play) : Prop where
  /-- Everything goes on. -/
  | same (flags : ∀ f ∈ antagonistFlags, q.world.flags.get f = p.world.flags.get f)
      (ticker : q.host.ticker = p.host.ticker) (running : q.host.running = p.host.running)
  /-- The antagonist wakes. -/
  | wakes (asleep : p.world.flags.get .antagonistActive = false) (beset : q.world.IsBeset)
      (ticker : p.host.ticker = none → q.host.ticker = some (Ticker.start
        { warnings := a.warnings, period := s.setup.period.getD (.float a.period) }).1)
      (running : q.host.running = p.host.running)
  /-- The antagonist is silenced: the session is over, or the encounter. -/
  | silences (active : q.world.flags.get .antagonistActive = p.world.flags.get .antagonistActive)
      (beset : q.world.IsBeset → p.world.IsBeset)
      (ticker : q.host.ticker = p.silenced)
      (ended : q.host.running = false ∨ ¬ q.world.IsBeset)

/-- Who only has something to tell lets everything go on. -/
theorem course_of_whispers {line : String} (h : Play.whispers.Within (p.heard line) q) :
    Course a s p q := by
  obtain ⟨⟨⟨more, world⟩, -, -, running, -⟩, ticker⟩ := h
  refine .same (fun f _ => ?_) ticker running
  rw [world]
  rfl

/-- Who wakes the antagonist is beset, and warned from then on. -/
theorem course_of_wake {line : String} (antagonist : p.world.scenario.antagonist = some a)
    (asleep : p.world.flags.get .antagonistActive = false)
    (alive : p.world.flags.get .antagonistDefeated = false)
    (h : Play.whispers.Within (s.startTicker.runOn
      { p.heard line with world := (p.heard line).world.woken }).2 q) : Course a s p q := by
  obtain ⟨⟨⟨more, world⟩, -, -, running, -⟩, ticker⟩ := h
  obtain ⟨r, run, ⟨more', world'⟩, -, -, running', -⟩ := murmurs_startTicker s
    { p.heard line with world := (p.heard line).world.woken }
  rw [run] at world running ticker
  refine .wakes asleep ?_ (fun none => ?_) (running.trans running')
  · rw [world, world']
    refine ⟨?_, ?_⟩
    · show (p.world.flags.set .antagonistActive true).get _ = true
      rw [Flags.get_set]
      rfl
    · show (p.world.flags.set .antagonistActive true).get _ = false
      rw [Flags.get_set]
      exact alive
  · obtain ⟨r', run', -, started⟩ := startTicker_run (s := s)
      (p := { p.heard line with world := (p.heard line).world.woken }) antagonist none
    rw [run] at run'
    cases run'
    exact ticker.trans started

/-- **Every line has one of the courses.** -/
theorem turn_course (leaves : b.LeavesAntagonist) (sane : Play.Sane b p)
    (antagonist : p.world.scenario.antagonist = some a) (line : String) :
    Course a s p (s.turn p line).2 := by
  by_cases look : (s.cause p line).verb? = some .examine
  · rcases turn_examine sane look with whispers | ⟨-, sleeps, whispers⟩
    · exact course_of_whispers whispers
    · rw [isAsleep_eq sane.world.clean] at sleeps
      simp only [Except.ok.injEq, Bool.and_eq_true, Bool.not_eq_true'] at sleeps
      exact course_of_wake antagonist sleeps.1 sleeps.2 whispers
  by_cases shot : (s.cause p line).verb? = some .shoot
  · rcases turn_shoot sane shot with whispers | ⟨a', ch, n, -, -, -, -, -, wounded⟩
    · exact course_of_whispers whispers
    · have flags := wounded.flags
      have ticker := wounded.ticker
      by_cases last : n = 1
      · have dead : ¬ (s.turn p line).2.world.IsBeset := fun beset =>
          (wounded.beset_iff.mp beset).1 last
        rw [if_pos last] at flags ticker
        refine .silences ?_ (fun k => absurd k dead) ticker (.inr dead)
        rw [flags, Flags.get_set]
        rfl
      · rw [if_neg last] at flags ticker
        exact .same (fun f _ => by rw [flags]) ticker wounded.running
  have active := turn_active leaves sane look
  have defeated := turn_defeated leaves sane shot
  rcases turn_hushes sane look shot with ⟨ticker, running⟩ | ⟨ticker, running⟩
  · refine .same (fun f hf => ?_) ticker running
    simp only [antagonistFlags, List.mem_cons, List.not_mem_nil, or_false] at hf
    rcases hf with rfl | rfl
    · exact active
    · exact defeated
  · refine .silences active (fun k => ?_) ticker (.inl running)
    exact ⟨active.symm.trans k.1, defeated.symm.trans k.2⟩

/-! ## 3. The state of the ticker -/

/-- **There is a ticker if the antagonist was woken.** While the encounter goes on in a session that
    goes on, it is not cancelled, and as soon as the encounter is over, it is. -/
structure Alarmed (a : Antagonist) (p : Play) : Prop where
  absent : p.host.ticker = none → ¬ p.world.IsBeset
  warnings : ∀ t ∈ p.host.ticker, t.warnings = a.warnings
  started : ∀ t ∈ p.host.ticker, t.started = true
  active : ∀ t ∈ p.host.ticker, p.world.flags.get .antagonistActive = true
  warns : ∀ t ∈ p.host.ticker, p.world.IsBeset → p.host.running = true → t.cancelled = false
  silent : ∀ t ∈ p.host.ticker, ¬ p.world.IsBeset → t.cancelled = true

/-- As long as the antagonist sleeps there is no ticker. -/
theorem Alarmed.none_of_asleep (h : Alarmed a p)
    (asleep : p.world.flags.get .antagonistActive = false) : p.host.ticker = none := by
  cases ht : p.host.ticker with
  | none => rfl
  | some t =>
      have active := h.active t ht
      rw [asleep] at active
      cases active

/-- A session in which nobody has been warned is alarmed as soon as somebody is beset. -/
theorem alarmed_of_calm (calm : ¬ p.world.IsBeset) (none : p.host.ticker = none) :
    Alarmed a p := by
  refine ⟨fun _ => calm, ?_, ?_, ?_, ?_, ?_⟩
  all_goals
    rw [none]
    exact nofun

/-- A ticker that was silenced is one that was there before. -/
theorem mem_silenced {t : Ticker String} (h : t ∈ p.silenced) :
    ∃ t₀ ∈ p.host.ticker, t = t₀.cancel.1 := by
  unfold Play.silenced at h
  obtain ⟨t₀, there, e⟩ := Option.map_eq_some_iff.mp h
  exact ⟨t₀, there, e.symm⟩

/-- **A line leaves the ticker as the encounter has it.** -/
theorem alarmed_course (warns : a.warnings ≠ []) (h : Alarmed a p) (c : Course a s p q) :
    Alarmed a q := by
  cases c with
  | same flags ticker running =>
      have active := flags .antagonistActive (by decide)
      have beset : q.world.IsBeset ↔ p.world.IsBeset := by
        unfold IsBeset
        rw [active, flags .antagonistDefeated (by decide)]
      obtain ⟨absent, warnings, started, awake, warn, silent⟩ := h
      rw [← ticker] at absent warnings started awake warn silent
      refine ⟨fun none k => absent none (beset.mp k), warnings, started, fun t ht => ?_,
        fun t ht k runs => ?_, fun t ht k => ?_⟩
      · exact active.trans (awake t ht)
      · exact warn t ht (beset.mp k) (running.symm.trans runs)
      · exact silent t ht (fun k' => k (beset.mpr k'))
  | wakes asleep beset ticker running =>
      have ticker := ticker (h.none_of_asleep asleep)
      rw [Ticker.start_fst _ warns] at ticker
      refine ⟨fun none => ?_, ?_, ?_, ?_, ?_, fun t _ k => absurd beset k⟩
      · rw [ticker] at none
        cases none
      · intro t ht
        rw [ticker] at ht
        cases ht
        rfl
      · intro t ht
        rw [ticker] at ht
        cases ht
        rfl
      · exact fun _ _ => beset.1
      · intro t ht _ _
        rw [ticker] at ht
        cases ht
        rfl
  | silences active beset ticker ended =>
      refine ⟨fun none k => ?_, fun t ht => ?_, fun t ht => ?_, fun t ht => ?_,
        fun t ht k runs => ?_, fun t ht _ => ?_⟩
      · rw [ticker] at none
        exact h.absent (Option.map_eq_none_iff.mp none) (beset k)
      all_goals
        rw [ticker] at ht
        obtain ⟨t₀, there, rfl⟩ := mem_silenced ht
      · rw [Ticker.warnings_cancel]
        exact h.warnings t₀ there
      · rw [Ticker.started_cancel]
        exact h.started t₀ there
      · exact active.trans (h.active t₀ there)
      · rcases ended with halted | free
        · rw [halted] at runs
          cases runs
        · exact absurd k free
      · exact Ticker.cancelled_cancel t₀

/-- A line does not change how many warnings there have been. -/
theorem rung_course (warns : a.warnings ≠ []) (h : Alarmed a p) (c : Course a s p q) :
    rung q = rung p := by
  unfold rung
  cases c with
  | same flags ticker => rw [ticker]
  | wakes asleep beset ticker =>
      have none : p.host.ticker = none := h.none_of_asleep asleep
      rw [ticker none, Ticker.start_fst _ warns, none]
      rfl
  | silences active beset ticker =>
      rw [ticker]
      unfold Play.silenced
      cases p.host.ticker with
      | none => rfl
      | some t => exact t.count_cancel

/-- Who ends the session silences the antagonist. -/
theorem silent_of_halt (c : Course a s p q) (runs : p.host.running = true)
    (ended : q.host.running = false) : ∀ t ∈ q.host.ticker, t.cancelled = true := by
  cases c with
  | same flags ticker running =>
      rw [running, runs] at ended
      cases ended
  | wakes asleep beset ticker running =>
      rw [running, runs] at ended
      cases ended
  | silences active beset ticker =>
      intro t ht
      rw [ticker] at ht
      obtain ⟨t₀, -, rfl⟩ := mem_silenced ht
      exact Ticker.cancelled_cancel t₀

/-! ## 4. One period -/

theorem tick_running (p : Play) : (tick.runOn p).2.host.running = p.host.running :=
  (tick_murmurs p).running

/-- The ticker after a period. -/
theorem mem_tick {t : Ticker String} (h : t ∈ (tick.runOn p).2.host.ticker) :
    ∃ t₀ ∈ p.host.ticker, ∃ count, t = { t₀ with count } := by
  cases ht : p.host.ticker with
  | none =>
      rw [tick_run_none ht, ht] at h
      cases h
  | some t₀ =>
      rw [tick_run ht] at h
      cases h
      exact ⟨t₀, rfl, t₀.tick_fst⟩

theorem alarmed_tick (h : Alarmed a p) : Alarmed a (tick.runOn p).2 := by
  refine ⟨fun none => ?_, fun t ht => ?_, fun t ht => ?_, fun t ht => ?_, fun t ht => ?_,
    fun t ht => ?_⟩
  · rw [tick_world]
    cases ht : p.host.ticker with
    | none => exact h.absent ht
    | some t =>
        rw [tick_run ht] at none
        cases none
  all_goals
    obtain ⟨t₀, there, count, rfl⟩ := mem_tick ht
  · exact h.warnings t₀ there
  · exact h.started t₀ there
  · rw [tick_world]
    exact h.active t₀ there
  · rw [tick_world, tick_running]
    exact h.warns t₀ there
  · rw [tick_world]
    exact h.silent t₀ there

/-- Nobody warns if there is no ticker that could, or it is cancelled. -/
theorem rings_silent (h : ∀ t ∈ p.host.ticker, t.cancelled = true) : rings p = [] := by
  cases ht : p.host.ticker with
  | none => exact rings_none ht
  | some t => rw [rings_some ht, Ticker.tick_of_cancelled (h t ht)]; rfl

/-- **A period of the encounter brings the next warning.** -/
theorem rings_warning (warns : a.warnings ≠ []) (h : Alarmed a p) {t : Ticker String}
    (there : p.host.ticker = some t) (runs : t.cancelled = false) :
    ∃ w, a.warnings[rung p % a.warnings.length]? = some w ∧ rings p = [.line (.text w)] ∧
      rung (tick.runOn p).2 = rung p + 1 := by
  have warnings := h.warnings t there
  obtain ⟨w, next, ticks⟩ := Ticker.tick_of_running (h.started t there) runs (warnings ▸ warns)
  have count : rung p = t.count := by
    unfold rung
    rw [there]
    rfl
  rw [← warnings, count]
  refine ⟨w, next, ?_, ?_⟩
  · rw [rings_some there, ticks]
    rfl
  · unfold rung
    rw [tick_run there, ticks]
    rfl

/-- **A period brings the next warning, or none.** -/
theorem rings_cases (warns : a.warnings ≠ []) (h : Alarmed a p) :
    (rings p = [] ∧ rung (tick.runOn p).2 = rung p) ∨
      ∃ w, a.warnings[rung p % a.warnings.length]? = some w ∧ rings p = [.line (.text w)] ∧
        rung (tick.runOn p).2 = rung p + 1 := by
  cases ht : p.host.ticker with
  | none =>
      refine .inl ⟨rings_none ht, ?_⟩
      rw [tick_run_none ht]
  | some t =>
      cases runs : t.cancelled with
      | false => exact .inr (rings_warning warns h ht runs)
      | true =>
          refine .inl ⟨rings_silent fun t' ht' => ?_, ?_⟩
          · rw [ht] at ht'
            cases ht'
            exact runs
          · unfold rung
            rw [tick_run ht, Ticker.tick_of_cancelled runs, ht]

/-! ## 5. Every play -/

section

variable (leaves : b.LeavesAntagonist) (antagonist : b.scenario.antagonist = some a)
variable (warns : a.warnings ≠ []) (sane : Play.Sane b p) (alarmed : Alarmed a p)

include leaves antagonist warns sane alarmed

theorem played_alarmed (events : List Event) : Alarmed a (s.played p events) :=
  played_keeps sane alarmed
    (fun text sane alarmed => alarmed_course warns alarmed
      (turn_course (s := s) leaves sane (sane.antagonist antagonist) text))
    fun _ alarmed => alarmed_tick alarmed

/-- **What is said in all the periods** is one warning after the other. -/
theorem alarms_numbered (first : rung p = 0) (events : List Event) :
    (s.alarms p events).length = rung (s.played p events) ∧
      ∀ i < (s.alarms p events).length, ∃ w, a.warnings[i % a.warnings.length]? = some w ∧
        (s.alarms p events)[i]? = some (.line (.text w)) := by
  induction events using List.reverseRecOn with
  | nil => exact ⟨first.symm, nofun⟩
  | append_singleton events event ih =>
      obtain ⟨length, numbered⟩ := ih
      have alarmed := played_alarmed (s := s) leaves antagonist warns sane alarmed events
      have sane := played_sane s sane events
      rw [alarms_append, played_append]
      cases event with
      | line text =>
          have antagonist := sane.antagonist antagonist
          rw [if_neg (by simp), List.append_nil]
          refine ⟨length.trans ?_, numbered⟩
          exact (rung_course warns alarmed (turn_course (s := s) leaves sane antagonist text)).symm
      | period =>
          rw [if_pos rfl]
          rcases rings_cases warns alarmed with ⟨silent, rung⟩ | ⟨w, next, said, rung⟩
          · rw [silent, List.append_nil]
            exact ⟨length.trans rung.symm, numbered⟩
          · rw [said]
            refine ⟨?_, fun i hi => ?_⟩
            · rw [List.length_append, length]
              exact rung.symm
            · rw [List.length_append, List.length_singleton] at hi
              by_cases last : i = (s.alarms p events).length
              · subst last
                refine ⟨w, length ▸ next, ?_⟩
                rw [List.getElem?_append_right (Nat.le_refl _), Nat.sub_self]
                rfl
              · have before : i < (s.alarms p events).length := by omega
                rw [List.getElem?_append_left before]
                exact numbered i before

omit warns alarmed in
/-- **A session that is over is silent**, unless a line is handed in afterwards. -/
theorem silent_of_attended (begun : p.host.running = true) {events : List Event}
    (attended : s.Attended p events) (ended : (s.played p events).host.running = false) :
    ∀ t ∈ (s.played p events).host.ticker, t.cancelled = true := by
  induction events using List.reverseRecOn with
  | nil =>
      have ended : p.host.running = false := ended
      rw [begun] at ended
      cases ended
  | append_singleton events event ih =>
      have sane := played_sane s sane events
      have before : s.Attended p events := by
        intro before text after e
        exact attended before text (after ++ [event]) (by rw [e]; simp)
      rw [played_append] at ended ⊢
      cases event with
      | line text =>
          have antagonist := sane.antagonist antagonist
          exact silent_of_halt (turn_course (s := s) leaves sane antagonist text)
            (attended events text [] rfl) ended
      | period =>
          intro t ht
          obtain ⟨t₀, there, count, rfl⟩ := mem_tick ht
          exact ih before ((tick_running _).symm.trans ended) t₀ there

end

/-- **Warnings mark the encounter.** Periods that elapse do not count for what comes of a line. A
    period of the encounter brings one warning as long as the session goes on; no other period
    brings any, if no line is handed in when the session is over. The warnings come one after the
    other, and from the beginning again after the last. -/
theorem warnings_mark_encounter (holds : shelf.Holds b) (calm : b.IsCalm)
    (leaves : b.LeavesAntagonist) (antagonist : b.scenario.antagonist = some a)
    (warns : a.warnings ≠ []) (h : Begins shelf s p) (events : List Event) :
    let q := s.played p events
    let r := s.after p (linesOf events)
    (∀ line, (s.turn q line).1 = (s.turn r line).1 ∧
      (s.turn r line).2.world.Alike (s.turn q line).2.world) ∧
    (q.world.encounterActive = .ok true → q.host.running = true →
      ∃ w ∈ a.warnings, rings q = [.line (.text w)]) ∧
    (q.world.encounterActive ≠ .ok true → rings q = []) ∧
    (s.Attended p events → q.host.running = false → rings q = []) ∧
    ∀ i < (s.alarms p events).length, ∃ w, a.warnings[i % a.warnings.length]? = some w ∧
      (s.alarms p events)[i]? = some (.line (.text w)) := by
  intro q r
  obtain ⟨sane₀, -⟩ := begins_sane holds h
  obtain ⟨free, -⟩ := begins_calm holds calm leaves h
  obtain ⟨none, begun⟩ := begins_quiet h
  have alarmed₀ : Alarmed a p := alarmed_of_calm free none
  have alarmed : Alarmed a q := played_alarmed leaves antagonist warns sane₀ alarmed₀ events
  have clean : q.world.flags.IsClean := (played_sane s sane₀ events).world.clean
  refine ⟨fun line => ?_, fun active runs => ?_, fun inactive => ?_, fun attended ended => ?_, ?_⟩
  · have keeps := keeps_handle (s := s) (alike_played (s := s) sane₀ events)
      (after_sane sane₀ (linesOf events)) line
    exact ⟨keeps.same, keeps.alike.world⟩
  · have beset := (encounterActive_iff clean).mp active
    obtain ⟨t, there⟩ : ∃ t, q.host.ticker = some t :=
      Option.ne_none_iff_exists'.mp fun none => alarmed.absent none beset
    obtain ⟨w, next, said, -⟩ := rings_warning warns alarmed there (alarmed.warns t there beset runs)
    exact ⟨w, List.mem_of_getElem? next, said⟩
  · have free : ¬ q.world.IsBeset := fun beset => inactive ((encounterActive_iff clean).mpr beset)
    exact rings_silent fun t there => alarmed.silent t there free
  · exact rings_silent (silent_of_attended leaves antagonist sane₀ begun attended ended)
  · have first : rung p = 0 := by
      unfold rung
      rw [none]
      rfl
    exact (alarms_numbered leaves antagonist warns sane₀ alarmed₀ first events).2

/-- Whoever has looked at the bones in the den is warned. -/
theorem warnings_mark_encounter_den : ∃ shelf b s p a, Shelf.Holds shelf b ∧ b.IsCalm ∧
    b.LeavesAntagonist ∧ b.scenario.antagonist = some a ∧ a.warnings ≠ [] ∧ Begins shelf s p ∧
      ∃ w ∈ a.warnings, rings (s.played p [.line "examine bones", .period]) =
        [.line (.text w)] := by
  let s : Session := Cellar.session (.text "closed")
  obtain ⟨b, holds, sound, calm, leaves, ⟨a, antagonist, warns⟩, active, runs⟩ :=
    Cellar.exists_holdsOf (Den.content "hall") (.text "closed")
      (fun b =>
        let q := s.played (Cellar.first b) [.line "examine bones", .period]
        b.inconsistencies = .ok [] ∧ b.IsCalm ∧ b.LeavesAntagonist ∧
          (∃ a ∈ b.scenario.antagonist, a.warnings ≠ []) ∧
          q.world.encounterActive = .ok true ∧ q.host.running = true)
      (by decide +kernel)
  have begins : Begins _ s (Cellar.first b) := .anew (Cellar.opensOf holds sound) rfl
  obtain ⟨-, warned, -⟩ := warnings_mark_encounter holds calm leaves antagonist warns begins
    [.line "examine bones", .period]
  exact ⟨_, b, s, _, a, holds, calm, leaves, antagonist, warns, begins, warned active runs⟩

/-- **A line that is handed in after the end can wake the antagonist**, and it warns although the
    session is over. -/
theorem quit_alarmed : ∃ shelf b s p, Shelf.Holds shelf b ∧ b.inconsistencies = .ok [] ∧
    b.IsCalm ∧ b.LeavesAntagonist ∧ (∃ a ∈ b.scenario.antagonist, a.warnings ≠ []) ∧
      Begins shelf s p ∧
        let q := s.played p [.line "quit", .line "examine bones"]
        q.host.running = false ∧ rings q ≠ [] := by
  let s : Session := Cellar.session (.text "closed")
  obtain ⟨b, holds, sound, calm, leaves, antagonist, ended, warned⟩ :=
    Cellar.exists_holdsOf (Den.content "hall") (.text "closed")
      (fun b =>
        let q := s.played (Cellar.first b) [.line "quit", .line "examine bones"]
        b.inconsistencies = .ok [] ∧ b.IsCalm ∧ b.LeavesAntagonist ∧
          (∃ a ∈ b.scenario.antagonist, a.warnings ≠ []) ∧
          q.host.running = false ∧ rings q ≠ [])
      (by decide +kernel)
  exact ⟨_, b, s, _, holds, sound, calm, leaves, antagonist,
    .anew (Cellar.opensOf holds sound) rfl, ended, warned⟩

end Session

end Adventure
