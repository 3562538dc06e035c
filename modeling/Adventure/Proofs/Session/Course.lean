import Adventure.Proofs.Frame
import Adventure.Proofs.Session.Reached
import Adventure.Proofs.Ticker
import Adventure.Proofs.Turn.Runs

/-!
# What a line does to the warnings and to the session itself

* `Play.whispers`: notes and what was said may have changed, and nothing else;
* `Play.hushes`: everything goes on as it did, or the session is over and the antagonist silent;
* `startTicker_run`, `stopTicker_run`, `stop_run`: the only steps to which the ticker matters;
* `holds_trigger`, `holds_follow`, `holds_quit`, `holds_save`: **what a session does of its own keeps
  within a frame** if its parts do;
* `suits_framed`: **the rules suit hooks that keep within a frame**;
* `Minds`, `turn_minds`: a line keeps within a frame if the rule of its verb does not ask for hooks
  that do not;
* `turn_rule`: **after the rule of its verb a turn has only something to tell**;
* `turn_hushes`: **only a look and a shot have to do with the ticker of a session that goes on**;
* `ShootsAt`: a line that is a shot;
* `turn_examine`, `turn_shoot`: what a look and a shot do.
-/

namespace Adventure

open Outcome Terms

/-! ## 1. Frames -/

namespace Play

/-- **Notes and what was said or announced may have changed**, and nothing else. -/
def whispers : Frame Play where
  Within p q := p.Murmurs q ∧ q.host.ticker = p.host.ticker
  refl p := ⟨.refl p, rfl⟩
  trans h k := ⟨h.1.trans k.1, k.2.trans h.2⟩

/-- The antagonist does not warn any longer. -/
def silenced (p : Play) : Option (Ticker String) := p.host.ticker.map fun t => t.cancel.1

/-- **Everything goes on as it did, or the session is over** and the antagonist silent. -/
def hushes : Frame Play where
  Within p q := (q.host.ticker = p.host.ticker ∧ q.host.running = p.host.running) ∨
    (q.host.ticker = p.silenced ∧ q.host.running = false)
  refl p := .inl ⟨rfl, rfl⟩
  trans := by
    rintro p q r (⟨ticker, running⟩ | ⟨ticker, running⟩) (⟨ticker', running'⟩ | ⟨ticker', running'⟩)
    · exact .inl ⟨ticker'.trans ticker, running'.trans running⟩
    · refine .inr ⟨ticker'.trans ?_, running'⟩
      unfold silenced
      rw [ticker]
    · exact .inr ⟨ticker'.trans ticker, running'.trans running⟩
    · refine .inr ⟨ticker'.trans ?_, running'⟩
      unfold silenced at ticker ⊢
      rw [ticker, Option.map_map]
      congr 1
      funext t
      exact t.cancel_cancel

section

variable {α : Type}

theorem whispers_note (text : String) : whispers.Holds (note text) :=
  fun _ => ⟨⟨⟨[text], rfl⟩, rfl, rfl, rfl, rfl⟩, rfl⟩

theorem whispers_noteAll (texts : List String) : whispers.Holds (noteAll texts) :=
  Frame.holds_forM whispers_note texts

theorem whispers_tell (lines : List Content) : whispers.Holds (tell lines) := by
  refine Frame.holds_bind (Frame.holds_forM (fun _ p => ?_) lines) fun _ => Frame.holds_pure _
  exact ⟨⟨⟨[], rfl⟩, rfl, rfl, rfl, rfl⟩, rfl⟩

theorem whispers_announce (place : Content) : whispers.Holds (Session.announce place) :=
  fun _ => ⟨⟨⟨[], rfl⟩, rfl, rfl, rfl, rfl⟩, rfl⟩

theorem whispers_announceRoom : whispers.Holds (Turn.announceRoom Session.announce) :=
  Frame.holds_get fun _ => Frame.holds_bind (whispers_note _) fun _ => whispers_announce _

/-- Who is told where the turn has led is told no more. -/
theorem whispers_withArrival (before : Content) (lines : List Content) :
    whispers.Holds (Turn.withArrival Session.announce before lines) := by
  unfold Turn.withArrival
  refine Frame.holds_get fun p => ?_
  split
  · exact Frame.holds_pure _
  · refine Frame.holds_bind (Frame.holds_reading _) fun arrival => ?_
    exact Frame.holds_bind whispers_announceRoom fun _ => Frame.holds_pure _

theorem hushes_of_whispers {a : Act Play α} (h : whispers.Holds a) : hushes.Holds a :=
  fun p => .inl ⟨(h p).2, (h p).1.running⟩

theorem hushes_onWorld (a : Act World α) : hushes.Holds (Stage.onWorld a) :=
  fun _ => .inl ⟨rfl, rfl⟩

theorem hushes_onTalk (a : Act Talk α) : hushes.Holds (onTalk a) := fun _ => .inl ⟨rfl, rfl⟩

theorem hushes_redirect (k : Pending) : hushes.Holds (Stage.redirect k : Act Play Unit) :=
  fun _ => .inl ⟨rfl, rfl⟩

end

end Play

namespace Session

open Play Adventure.Frame

variable {s : Session} {b : World} {p : Play} {line : String}

/-! ## 2. The ticker -/

/-- **The antagonist falls silent.** -/
theorem stopTicker_run (p : Play) : ∃ q, stopTicker.runOn p = (.ok (), q) ∧ p.Murmurs q ∧
    q.host.ticker = p.silenced := by
  obtain ⟨q, run, murmurs⟩ := murmurs_stopTicker p
  refine ⟨q, run, murmurs, ?_⟩
  have state : (stopTicker.runOn p).2.host.ticker = p.silenced := by
    unfold stopTicker silenced
    rw [Act.runOn_bind_ok (Act.runOn_get p)]
    cases h : p.host.ticker with
    | none => exact h
    | some t => exact (whispers_noteAll _ _).2
  rw [run] at state
  exact state

/-- **The antagonist begins to warn**, if it does not do so yet. -/
theorem startTicker_run {a : Antagonist} (antagonist : p.world.scenario.antagonist = some a)
    (silent : p.host.ticker = none) : ∃ q, s.startTicker.runOn p = (.ok (), q) ∧ p.Murmurs q ∧
      q.host.ticker = some (Ticker.start
        { warnings := a.warnings, period := s.setup.period.getD (.float a.period) }).1 := by
  obtain ⟨q, run, murmurs⟩ := murmurs_startTicker s p
  refine ⟨q, run, murmurs, ?_⟩
  have state : (s.startTicker.runOn p).2.host.ticker = some (Ticker.start
      { warnings := a.warnings, period := s.setup.period.getD (.float a.period) }).1 := by
    unfold startTicker
    rw [Act.runOn_bind_ok (Act.runOn_get p)]
    simp only [antagonist, silent]
    exact (whispers_noteAll _ _).2
  rw [run] at state
  exact state

/-- **The session ends.** -/
theorem stop_run (p : Play) : ∃ q, stop.runOn p = (.ok (), q) ∧
    (∃ more, q.world = { p.world with notes := more ++ p.world.notes }) ∧ q.router = {} ∧
      q.host.running = false ∧ q.host.ticker = p.silenced ∧
      q.host.conversation = p.host.conversation := by
  obtain ⟨q, run, murmurs, ticker⟩ := stopTicker_run
    { p with router := p.router.clear, host := { p.host with running := false } }
  exact ⟨q, run, murmurs.notes, murmurs.router, murmurs.running, ticker, murmurs.conversation⟩

/-! ## 3. Steps of a session within a frame -/

section

variable {F : Frame Play}

/-- **An event** keeps within a frame within which the session can end. -/
theorem holds_trigger (noted : ∀ text, F.Holds (note text))
    (told : ∀ event, F.Holds (onDesk fun d => { d with events := event :: d.events }))
    (stops : F.Holds stop) (event : Content) : F.Holds (trigger event) := by
  unfold trigger
  refine holds_bind (noted _) fun _ => holds_bind (told event) fun _ => holds_get fun p => ?_
  split
  · exact stops
  · exact holds_pure _

/-- **What follows from a step of a dialogue** keeps within a frame if events do. -/
theorem holds_follow (redirects : F.Holds (Stage.redirect .choice : Act Play Unit))
    (triggers : ∀ event, F.Holds (trigger event)) (r : Reaction) : F.Holds (follow r) := by
  unfold follow
  split
  · exact holds_bind redirects fun _ => holds_pure _
  · exact holds_bind (triggers _) fun _ => holds_pure _
  · exact holds_pure _

/-- Whoever quits keeps within a frame within which the session can end. -/
theorem holds_quit (stops : F.Holds stop) : F.Holds s.quit := by
  unfold quit
  refine holds_bind (holds_reading _) fun active => ?_
  split
  · exact holds_bind (holds_ofExcept _) fun _ => holds_pure _
  · refine holds_bind stops fun _ => ?_
    exact holds_bind (holds_ofExcept _) fun _ => holds_pure _

/-- Whoever saves keeps within a frame that does not speak of files. -/
theorem holds_save (noted : ∀ text, F.Holds (note text))
    (written : ∀ a : Act Archive Unit, F.Holds (trying (onArchive a))) : F.Holds s.save := by
  unfold save
  refine holds_get fun p => holds_bind (holds_ofExcept _) fun game => ?_
  refine holds_bind (written _) fun r => ?_
  split
  · exact holds_bind (noted _) fun _ => holds_pure _
  · split
    · exact holds_pure _
    · exact holds_throw _

end

/-! ## 4. Most lines -/

theorem hushes_stop : hushes.Holds stop := by
  intro p
  obtain ⟨q, run, -, -, running, ticker, -⟩ := stop_run p
  rw [run]
  exact .inr ⟨ticker, running⟩

theorem hushes_follow (r : Reaction) : hushes.Holds (follow r) :=
  holds_follow (hushes_redirect _) (holds_trigger (fun _ => hushes_of_whispers (whispers_note _))
    (fun _ _ => .inl ⟨rfl, rfl⟩) hushes_stop) r

theorem hushes_beginDialogue (character continuation : Content) :
    hushes.Holds (s.beginDialogue character continuation) :=
  holds_bind (hushes_onTalk _) hushes_follow

theorem hushes_choose (line : String) : hushes.Holds (s.choose line) :=
  holds_bind (hushes_onTalk _) hushes_follow

theorem hushes_save : hushes.Holds s.save :=
  holds_save (fun _ => hushes_of_whispers (whispers_note _)) fun _ _ => .inl ⟨rfl, rfl⟩

/-- **The rules suit hooks that keep within a frame**, and that do what those of the session do, or
    something that hardly anyone notices. -/
theorem suits_framed {c : Cause} {F : Frame Play} {h : Hooks Desk} (other : c.verb? ≠ some .quit)
    (talks : c ≠ .choice) (world : ∀ {α : Type} (a : Act World α), F.Holds (Stage.onWorld a))
    (knock : ∀ k, F.Holds (Stage.redirect k))
    (roomChanged : IsMurmur h.roomChanged ∧ F.Holds h.roomChanged)
    (startTicker : IsMurmur h.startTicker ∧ F.Holds h.startTicker)
    (stopTicker : IsMurmur h.stopTicker ∧ F.Holds h.stopTicker)
    (beginDialogue : ∀ id, (s.terms b c false).Meets
      (fun p => p.router.waiting = none ∧ p.world.characters.has id = true) (h.beginDialogue id)
        (fun _ _ => True) ∧ F.Holds (h.beginDialogue id))
    (save : h.save = some s.save ∧ F.Holds s.save) :
    (s.setting.hosted h).Suits b c ((s.terms b c false).framed F) := by
  have suits := setting_suits s b other talks false
  have like (p : Play) : (s.terms b c false).Alike p p := alike_self p
  exact
    { alike := by
        intro p q same
        cases same
        exact ⟨p.world.notes, rfl⟩
      sane := fun sane => sane.world
      fine := False.elim
      faults := suits.faults
      world := fun h => (suits.world h).framed like (world _)
      knock := fun target => (suits.knock target).framed like (knock _)
      roomChanged := (roomChanged.1.meets fun _ _ _ _ => trivial).framed like roomChanged.2
      startTicker := (startTicker.1.meets fun _ _ _ _ => trivial).framed like startTicker.2
      stopTicker := (stopTicker.1.meets fun _ _ _ _ => trivial).framed like stopTicker.2
      beginDialogue := fun id => (beginDialogue id).1.framed like (beginDialogue id).2
      save := by
        intro write e
        have same : some s.save = some write := save.1.symm.trans e
        cases same
        exact (suits.save _ rfl).framed like save.2 }

/-- **Hooks that keep within a frame**, as everything does that hardly anyone notices; and of rooms
    they tell what the session tells. -/
structure Minds (s : Session) (b : World) (c : Cause) (F : Frame Play) (h : Hooks Desk) : Prop where
  whispers : ∀ {p q}, Play.whispers.Within p q → F.Within p q
  world : ∀ {α : Type} (a : Act World α), F.Holds (Stage.onWorld a)
  knock : ∀ k, F.Holds (Stage.redirect k)
  roomChanged : h.roomChanged = Turn.announceRoom announce
  startTicker : IsMurmur h.startTicker ∧ F.Holds h.startTicker
  stopTicker : IsMurmur h.stopTicker ∧ F.Holds h.stopTicker
  beginDialogue : ∀ id, (s.terms b c false).Meets
    (fun p => p.router.waiting = none ∧ p.world.characters.has id = true) (h.beginDialogue id)
      (fun _ _ => True) ∧ F.Holds (h.beginDialogue id)
  save : h.save = some s.save ∧ F.Holds s.save

/-- The rules suit such hooks. -/
theorem Minds.suits {c : Cause} {F : Frame Play} {h : Hooks Desk} (minds : s.Minds b c F h)
    (other : c.verb? ≠ some .quit) (talks : c ≠ .choice) :
    (s.setting.hosted h).Suits b c ((s.terms b c false).framed F) := by
  have announces : IsMurmur h.roomChanged ∧ F.Holds h.roomChanged := by
    rw [minds.roomChanged]
    exact ⟨murmurs_announceRoom, fun p => minds.whispers (whispers_announceRoom p)⟩
  exact suits_framed other talks minds.world minds.knock announces minds.startTicker
    minds.stopTicker minds.beginDialogue minds.save

/-- **A line keeps within a frame** if the rule of its verb does not ask for other hooks. -/
theorem turn_minds {F : Frame Play} {h : Hooks Desk} (sane : Play.Sane b p)
    (minds : s.Minds b (s.cause p line) F h) (other : (s.cause p line).verb? ≠ some .quit)
    (talks : s.cause p line ≠ .choice)
    (same : ∀ verb, (s.cause p line).verb? = some verb →
      (s.setting.hosted h).ruleFor? verb = s.setting.ruleFor? verb) :
    F.Within (p.heard line) (s.turn p line).2 := by
  have sane' : Play.Sane b (p.heard line) := sane_heard sane line
  have told (lines : List Content) : F.Holds (Play.tell lines) :=
    fun q => minds.whispers (whispers_tell lines q)
  have suits := minds.suits other talks
  unfold cause at other talks same suits
  rcases hw : p.router.waiting with - | (target | -)
  · simp only [hw] at other same suits
    cases read : s.intent? p.world line with
    | none =>
        rw [turn_unread hw read]
        exact F.refl _
    | some i =>
        simp only [read] at other same suits
        have other : ¬ i.verb? = some .quit := other
        have hosted : Turn.dispatch s.messages announce s.setting.rules i =
            Turn.dispatch s.messages announce (s.setting.hosted h).rules i :=
          s.setting.dispatch_hosted i h announce same
        rw [turn_reads hw read, if_neg other, hosted]
        have turn := suits.meets_dispatch fun place =>
          ((murmurs_announce place).meets (P := fun _ => True) fun _ _ _ _ => trivial).framed
            alike_self fun q => minds.whispers (whispers_announce place q)
        have begins : Stage.Begins p.world i (p.heard line) :=
          ⟨rfl, ⟨_, rfl⟩, Intent.fitsIn_of_fits (Intent.fits_of_ofLine? read)⟩
        exact (meets_bind turn fun lines => (meets_tell lines).framed alike_self
          (told lines)).within sane' begins
  · simp only [hw] at suits
    have known : (p.heard line).world.rooms.has target = true :=
      (World.has_room_of_plan sane.world.plan target).trans (sane.known target hw)
    have asked : (s.setting.hosted h).tryCode target line = s.setting.tryCode target line := by
      have same : (s.setting.hosted h).hooks.roomChanged = s.setting.hooks.roomChanged :=
        minds.roomChanged
      unfold Setting.tryCode
      rw [same]
      rfl
    rw [turn_resumes hw]
    show F.Within _ ((s.setting.tryCode target line >>= Play.tell).runOn _).2
    rw [← asked]
    exact (meets_bind suits.meets_tryCode fun lines => (meets_tell lines).framed alike_self
      (told lines)).within sane' known
  · simp only [hw] at talks
    exact absurd rfl talks

/-- A line that is an answer to the prompt of a dialogue. -/
theorem waiting_of_choice (h : s.cause p line = .choice) : p.router.waiting = some .choice := by
  unfold cause at h
  split at h
  · cases h
  · assumption
  · split at h
    · cases h
    · cases h

/-- What a turn is with somebody who wants to quit. -/
theorem turn_quit (quits : (s.cause p line).verb? = some .quit) :
    s.turn p line = (s.quit >>= Play.tell).runOn (p.heard line) := by
  obtain ⟨i, free, read, verb⟩ := read_of_verb quits
  rw [turn_reads free read, if_pos verb]

/-- **Only a look and a shot have to do with the ticker of a session that goes on.** -/
theorem turn_hushes (sane : Play.Sane b p) (look : (s.cause p line).verb? ≠ some .examine)
    (shot : (s.cause p line).verb? ≠ some .shoot) : hushes.Within p (s.turn p line).2 := by
  have told (lines : List Content) : hushes.Holds (Play.tell lines) :=
    hushes_of_whispers (whispers_tell lines)
  show hushes.Within (p.heard line) _
  by_cases quits : (s.cause p line).verb? = some .quit
  · rw [turn_quit quits]
    exact holds_bind (holds_quit hushes_stop) told (p.heard line)
  by_cases talks : s.cause p line = .choice
  · rw [turn_resumes (waiting_of_choice talks)]
    exact holds_bind (hushes_choose line) told (p.heard line)
  -- no other verb asks for the ticker, and so none would notice that it is not there
  refine turn_minds (h := { s.setting.hooks with startTicker := pure (), stopTicker := pure () })
    sane ?_ quits talks fun verb hv => s.setting.ruleFor?_hosted _ (fun _ => rfl) (fun _ => rfl)
      (fun e => absurd (e ▸ hv) look) (fun e => absurd (e ▸ hv) shot)
  exact
    { whispers := fun h => .inl ⟨h.2, h.1.running⟩
      world := hushes_onWorld
      knock := hushes_redirect
      roomChanged := rfl
      startTicker := ⟨.pure, holds_pure ()⟩
      stopTicker := ⟨.pure, holds_pure ()⟩
      beginDialogue := fun id => ⟨(setting_suits s b quits talks false).beginDialogue id,
        holds_bind (hushes_beginDialogue _ _) fun _ => holds_ofExcept _⟩
      save := ⟨rfl, hushes_save⟩ }

/-! ## 5. A look and a shot -/

/-- **After the rule of its verb a turn has only something to tell.** -/
theorem turn_rule {i : Intent} {verb : Verb} {rule : Rule Desk} (free : p.router.waiting = none)
    (read : s.intent? p.world line = some i) (hv : i.verb? = some verb)
    (hr : s.setting.ruleFor? verb = some rule) :
    whispers.Within ((rule i).runOn (p.heard line)).2 (s.turn p line).2 := by
  rw [turn_follows free read hv hr, Act.runOn_bind]
  rcases (rule i).runOn (p.heard line) with ⟨r, q⟩
  cases r with
  | error e => exact whispers.refl q
  | ok saying => exact holds_bind (whispers_withArrival _ _) (fun lines => whispers_tell lines) q

/-- **A look changes nothing, or wakes the antagonist**, and the warnings begin. -/
theorem turn_examine (sane : Play.Sane b p) (look : (s.cause p line).verb? = some .examine) :
    whispers.Within (p.heard line) (s.turn p line).2 ∨
      (p.world.inLair = true ∧ p.world.isAsleep = .ok true ∧
        whispers.Within (s.startTicker.runOn
          { p.heard line with world := (p.heard line).world.woken }).2 (s.turn p line).2) := by
  obtain ⟨i, free, read, verb⟩ := read_of_verb look
  have after := turn_rule free read verb
      (rfl : s.setting.ruleFor? .examine = some s.setting.examine)
  rcases s.setting.examine_run i (p := p.heard line) sane.world.clean with e | ⟨lair, sleeps, e⟩
  · rw [e] at after
    exact .inl after
  · rw [e] at after
    exact .inr ⟨lair, sleeps, after⟩

/-- **What a shot leaves behind that takes one of `n` healths.** -/
structure Wounded (a : Antagonist) (n : Int) (p q : Play) : Prop where
  characters : q.world.characters =
    p.world.characters.update a.character (fun c => { c with health := .number (n - 1) })
  flags : q.world.flags =
    if n = 1 then p.world.flags.set .antagonistDefeated true else p.world.flags
  current : q.world.current = p.world.current
  router : q.router = {}
  conversation : q.host.conversation = p.host.conversation
  running : q.host.running = p.host.running
  ticker : q.host.ticker = if n = 1 then p.silenced else p.host.ticker

theorem Wounded.whispers {a : Antagonist} {n : Int} {p q r : Play} (h : Wounded a n p q)
    (k : Play.whispers.Within q r) : Wounded a n p r := by
  obtain ⟨⟨⟨more, world⟩, router, conversation, running, -⟩, ticker⟩ := k
  refine ⟨?_, ?_, ?_, router.trans h.router, conversation.trans h.conversation,
    running.trans h.running, ticker.trans h.ticker⟩
  · rw [world]
    exact h.characters
  · rw [world]
    exact h.flags
  · rw [world]
    exact h.current

/-- **A shot that the antagonist has to count.** -/
theorem turn_hits {i : Intent} {a : Antagonist} {ch : Character} {n : Int}
    (free : p.router.waiting = none) (read : s.intent? p.world line = some i)
    (verb : i.verb? = some .shoot) (clean : p.world.flags.IsClean)
    (hits : Setting.Hits i p.world a ch n) : Wounded a n p (s.turn p line).2 := by
  have hits : Setting.Hits i (p.heard line).world a ch n :=
    ⟨hits.antagonist, hits.aimed, hits.there, hits.exposed, hits.health, hits.alive⟩
  have stops (p : Play) : ∃ q, stopTicker.runOn p = (.ok (), q) := by
    obtain ⟨q, run, -⟩ := stopTicker_run p
    exact ⟨q, run⟩
  have after := turn_rule free read verb
      (rfl : s.setting.ruleFor? .shoot = some s.setting.shoot)
  rcases s.setting.shoot_hits i (p := p.heard line) clean.1 stops hits with
    ⟨more, e⟩ | ⟨rfl, q, r, notes, stopped, e, -⟩
  · rw [e] at after
    have several : ¬ n = 1 := by omega
    refine Wounded.whispers ?_ after
    refine ⟨rfl, ?_, rfl, rfl, rfl, rfl, ?_⟩
    · rw [if_neg several]
      rfl
    · rw [if_neg several]
      rfl
  · rw [e] at after
    obtain ⟨q', run, ⟨⟨more, world⟩, router, conversation, running, -⟩, ticker⟩ :=
      stopTicker_run { p.heard line with world := ((p.heard line).world.struck a 0).vanquished }
    have same : q = q' := by
      have both := stopped.symm.trans run
      cases both
      rfl
    subst same
    refine Wounded.whispers ?_ after
    refine ⟨?_, ?_, ?_, router, conversation, running, ticker⟩
    · rw [world]
      rfl
    · rw [world]
      rfl
    · rw [world]
      rfl

/-- The line is a shot at a character. -/
def ShootsAt (s : Session) (id : String) (p : Play) (line : String) : Prop :=
  p.router.waiting = none ∧
    ∃ i ∈ s.intent? p.world line, i.verb? = some .shoot ∧ i.character = some id

instance (id : String) : Decidable (s.ShootsAt id p line) := by
  unfold ShootsAt
  infer_instance

/-- **A shot changes nothing, or takes one health from the antagonist.** -/
theorem turn_shoot (sane : Play.Sane b p) (shot : (s.cause p line).verb? = some .shoot) :
    whispers.Within (p.heard line) (s.turn p line).2 ∨ ∃ a ch n,
      p.world.scenario.antagonist = some a ∧ s.ShootsAt a.character p line ∧
        p.world.characters.get? a.character = some ch ∧ ch.health = .number n ∧ 0 < n ∧
          Wounded a n p (s.turn p line).2 := by
  obtain ⟨i, free, read, verb⟩ := read_of_verb shot
  rcases s.setting.shoot_misses i (p.heard line) with e | ⟨a, ch, n, hits⟩
  · have after := turn_rule free read verb
      (rfl : s.setting.ruleFor? .shoot = some s.setting.shoot)
    rw [e] at after
    exact .inl after
  · have hits : Setting.Hits i p.world a ch n :=
      ⟨hits.antagonist, hits.aimed, hits.there, hits.exposed, hits.health, hits.alive⟩
    exact .inr ⟨a, ch, n, hits.antagonist, ⟨free, i, read, verb, hits.aimed⟩, hits.there,
      hits.health, hits.alive, turn_hits free read verb sane.world.clean hits⟩

end Session

end Adventure
