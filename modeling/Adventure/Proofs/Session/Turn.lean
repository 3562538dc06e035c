import Adventure.Proofs.Session.Deed
import Adventure.Proofs.World.Saved

/-!
# A line of the player meets the terms of the session

* `Session.cause`: what a line asks for, when it is said in a play;
* `save_run`: what saving comes to; `save_obstacle`: what can stand in its way;
* `meets_beginDialogue`, `meets_choose`: dialogues in a session;
* `setting_suits`: the surroundings of a session suit the rules of the verbs;
* `keeps_handle`: **a line of the player keeps to the terms**, in two plays that are alike.
-/

namespace Adventure

open Relation (ReflTransGen)
open Outcome Terms

/-! ## 1. What a line asks for -/

/-- The play in which a line has been heard, and nothing waits any longer. -/
def Play.heard (line : String) (p : Play) : Play :=
  { p with world := p.world.noted ("input=" ++ line), router := {} }

namespace Session

/-- **What a line asks for** in a play: the continuation that waits takes it, or it is read. -/
def cause (s : Session) (p : Play) (line : String) : Cause :=
  match p.router.waiting with
  | some (.doorCode target) => .code target line
  | some .choice => .choice
  | none =>
    match s.intent? p.world line with
    | some i => .command s.messages p.world i
    | none => .idle

/-- What is done with a line that has been heard. -/
def respond (s : Session) (waiting : Option Pending) (line : String) :
    Act Play (List Content) :=
  match waiting with
  | some k => do Play.tell (← s.resume k line)
  | none => s.obey line

theorem handle_run (s : Session) (line : String) (p : Play) :
    (s.handle line).runOn p = (s.respond p.router.waiting line).runOn (p.heard line) := by
  unfold handle
  rw [Act.runOn_bind_ok (show (Play.note ("input=" ++ line)).runOn p
    = (.ok (), { p with world := p.world.noted ("input=" ++ line) }) from rfl)]
  rw [Act.runOn_bind_ok (Act.runOn_get _)]
  simp only [Router.take]
  rw [Act.runOn_bind_ok (Act.runOn_modify _ _)]
  unfold respond
  cases p.router.waiting with
  | none => rfl
  | some k => rfl

/-! ## 2. Small steps -/

variable {s : Session} {b : World} {c : Cause} {strict : Bool}

theorem murmurs_noteAll (texts : List String) : Play.IsMurmur (Play.noteAll texts) :=
  .forM Play.IsMurmur.note texts

theorem murmurs_startTicker (s : Session) : Play.IsMurmur s.startTicker := by
  unfold startTicker
  refine .get fun p => ?_
  split
  · exact .pure
  · split
    · exact .pure
    · exact .bind (.onDesk (fun _ => rfl) (fun _ => rfl) fun _ => rfl) (murmurs_noteAll _)

theorem murmurs_stopTicker : Play.IsMurmur stopTicker := by
  unfold stopTicker
  refine .get fun p => ?_
  split
  · exact .pure
  · exact .bind (.onDesk (fun _ => rfl) (fun _ => rfl) fun _ => rfl) (murmurs_noteAll _)

theorem murmurs_announce (place : Content) : Play.IsMurmur (announce place) :=
  .onDesk (fun _ => rfl) (fun _ => rfl) fun _ => rfl

/-- **Lines are told**, and come out as they are. -/
theorem meets_tell {P : Play → Prop} (lines : List Content) :
    (s.terms b c strict).Meets P (Play.tell lines) (fun _ _ => True) := by
  unfold Play.tell
  have murmurs : Play.IsMurmur (lines.forM Play.emit) := .forM (fun x => .utter (.line x)) lines
  exact meets_bind (murmurs.meets (P := P) (Q := fun _ => True) fun _ _ _ _ => trivial)
    fun _ => meets_return _

/-- **The session comes to its end.** The antagonist does not let the player quit. -/
theorem meets_stop {P : Play → Prop}
    (allowed : ∀ p, P p → c.verb? = some .quit → p.world.encounterActive = .ok false) :
    (s.terms b c strict).Meets P stop (fun _ _ => True) := by
  unfold stop
  refine meets_bind (Q := fun _ _ => True) (meets_modify ?_ fun p _ pre => ⟨?_, trivial⟩)
    fun _ => ?_
  · exact fun p q like => ⟨like.world, like.router, like.archive, like.conversation⟩
  · exact .single (.halt p (allowed p pre))
  · refine meets_bind (Q := fun _ _ => True) (meets_modify ?_ fun p _ _ => ⟨?_, trivial⟩)
      fun _ => ?_
    · exact fun p q like => ⟨like.world, rfl, like.archive, fun counts => like.conversation
        (counts.elim .inl nofun)⟩
    · exact .single (.hush p)
    · exact murmurs_stopTicker.meets fun _ _ _ _ => trivial

/-! ## 3. Dialogues -/

/-- Complete messages tell texts. -/
def Tells (s : Session) (lines : List Content) : Prop :=
  s.messages.IsComplete → ∀ x ∈ lines, ∃ t, x = .text t

/-- **A step on world and conversation**, while nothing waits for a line. -/
theorem meets_onTalk {α : Type} {P : Talk → Prop} {Q : α → Talk → Prop} {a : Act Talk α}
    (h : (Talk.terms s.messages b c).Meets P a Q) :
    (s.terms b c true).Meets (fun p => P p.talk ∧ p.router.waiting = none) (Play.onTalk a)
      (fun x p => Q x p.talk ∧ p.router.waiting = none) := by
  intro p q like sane pre
  have talks : (Talk.terms s.messages b c).Alike p.talk q.talk :=
    ⟨like.world, like.conversation (.inl rfl)⟩
  have k := h talks sane.world pre.1
  refine ⟨k.same, ⟨k.alike.1, like.router, like.archive, fun _ => k.alike.2⟩, ?_,
    fun x e => ⟨k.post x e, pre.2⟩, fun fine => k.done ⟨fine.world, fine.complete⟩, k.faults⟩
  have leads : ReflTransGen (World.Deed b c) p.world (a.runOn p.talk).2.world := k.leads
  exact .tail (Play.deeds_world (fun e => absurd (pre.2.symm.trans e) nofun) leads)
    (.converse { p with world := (a.runOn p.talk).2.world } _ pre.2)

/-- An event happens. -/
theorem meets_trigger {P : Play → Prop} (other : c.verb? ≠ some .quit) (event : Content) :
    (s.terms b c true).Meets P (trigger event) (fun _ _ => True) := by
  unfold trigger
  refine meets_bind ((Play.IsMurmur.note _).meets (Q := fun _ => True) fun _ _ _ _ => trivial)
    fun _ => ?_
  have announced : Play.IsMurmur (Play.onDesk fun d => { d with events := event :: d.events }) :=
    .onDesk (fun _ => rfl) (fun _ => rfl) fun _ => rfl
  refine meets_bind (announced.meets (Q := fun _ => True) fun _ _ _ _ => trivial) fun _ => ?_
  refine meets_get (fun p q like => by rw [like.router]) fun p _ _ => ?_
  split
  · exact meets_stop fun _ _ quit => absurd quit other
  · exact meets_return _

/-- **What follows from a step of a dialogue.** -/
theorem meets_follow (other : c.verb? ≠ some .quit) (r : Reaction) :
    (s.terms b c true).Meets
      (fun p => Talk.Settles s.messages b r p.talk ∧ p.router.waiting = none) (follow r)
      (fun lines _ => s.Tells lines) := by
  unfold follow
  refine meets_of_state fun p _ pre => ?_
  have told : (s.terms b c true).Meets (fun _ => True) (pure r.lines)
      (fun lines _ => s.Tells lines) := Meets.pre (meets_pure _) fun _ _ _ => pre.1.2
  split
  · next goesOn =>
      refine meets_bind (meets_modify (fun p q like => ?_) fun q _ e => ⟨?_, trivial⟩)
        fun _ => told
      · exact ⟨like.world, rfl, like.archive, fun _ => like.conversation (.inl rfl)⟩
      · subst e
        exact .single (.listen q (pre.1.1 goesOn))
  · exact meets_bind (meets_trigger other _) fun _ => told
  · exact told.pre fun _ _ _ => trivial

/-- Steps that meet the strict terms keep to the others after a change that the others allow. -/
theorem keeps_after {α : Type} {P : Play → Prop} {Q : α → Play → Prop} {a : Act Play α}
    (h : (s.terms b c true).Meets P a Q) {p p' q' : Play} (sane : Play.Sane b p)
    (leads : ReflTransGen (Play.Deed s.setup b c) p p') (like : Play.Alike true p' q') (pre : P p')
    {r r' : Except Fault α × Play} (hr : r = a.runOn p') (hr' : r' = a.runOn q') :
    (s.terms b c strict).Keeps p r r' Q := by
  have sane' : Play.Sane b p' := (s.terms b c true).sane_of_leads sane leads
  have k := h like sane' pre
  subst hr hr'
  exact ⟨k.same, Play.Alike.loosen k.alike, .trans leads k.leads, k.post,
    fun fine => k.done ((s.terms b c true).fine_of_leads sane fine leads), k.faults⟩

/-- The play in which a dialogue with a character has been opened. -/
def opened (name : String) (continuation : Content) (p : Play) : Play :=
  { p with host := { p.host with conversation := Talk.opened name continuation } }

/-- **What a dialogue begins with**: what the conversation was before does not count. -/
theorem beginDialogue_run (s : Session) (name : String) (continuation : Content) (p : Play) :
    (s.beginDialogue (.text name) continuation).runOn p =
      (Play.onTalk (Talk.begun s.messages name) >>= follow).runOn (opened name continuation p) :=
  rfl

/-- **A dialogue with a character begins.** -/
theorem meets_beginDialogue (other : c.verb? ≠ some .quit) {id : String}
    (known : b.characters.has id = true) (continuation : Content) :
    (s.terms b c strict).Meets (fun p => p.router.waiting = none)
      (s.beginDialogue (.text id) continuation)
      (fun lines _ => s.Tells lines) := by
  intro p q like sane free
  have talks := meets_bind (meets_onTalk (s := s) (Talk.meets_begun (m := s.messages) (c := c) known
    continuation)) (meets_follow other)
  have opens : Play.Alike true (opened id continuation p) (opened id continuation q) :=
    ⟨like.world, like.router, like.archive, fun _ => rfl⟩
  exact keeps_after talks sane (.single (.converse p _ free)) opens ⟨rfl, free⟩
    (beginDialogue_run s id continuation p) (beginDialogue_run s id continuation q)

/-- **The player answers the prompt of a dialogue.** -/
theorem meets_choose (line : String) :
    (s.terms b .choice true).Meets
      (fun p => p.talk.Offers b ∧ p.router.waiting = none) (s.choose line)
      (fun lines _ => s.Tells lines) :=
  meets_bind (meets_onTalk (s := s) (Talk.meets_choose (m := s.messages) rfl line))
    (meets_follow nofun)

/-! ## 4. Saving -/

/-- **What saving comes to** in a world that has a saved game. -/
theorem save_run (s : Session) (p : Play) {game : Content}
    (saved : p.world.savedGame (.text s.setup.language) = .ok game) :
    s.save.runOn p =
      (let (r, archive) := (Archive.save s.setup.slot game).runOn p.host.archive
       let q : Play := { p with host := { p.host with archive } }
       match r with
       | .ok () =>
         (.ok (.ok s.setup.slot),
           { q with world := q.world.noted ("saved slot " ++ s.setup.slot.shown) })
       | .error fault =>
         match p.host.archive.obstacle? s.setup.slot fault with
         | some obstacle => (.ok (.error obstacle), q)
         | none => (.error fault, q)) := by
  have tried (a : Act Archive Unit) : (Play.trying (Play.onArchive a)).runOn p =
      (.ok (a.runOn p.host.archive).1,
        { p with host := { p.host with archive := (a.runOn p.host.archive).2 } }) := rfl
  unfold save
  rw [Act.runOn_bind_ok (Act.runOn_get p)]
  simp only [saved]
  rw [Act.runOn_bind_ok (Act.runOn_ofExcept _ p), Act.runOn_bind_ok (tried _)]
  rcases (Archive.save s.setup.slot game).runOn p.host.archive with ⟨r, archive⟩
  cases r with
  | ok => rfl
  | error fault =>
      simp only
      cases p.host.archive.obstacle? s.setup.slot fault with
      | none => rfl
      | some obstacle => rfl

/-- In a fine play only the file can stand in the way of saving. -/
theorem save_obstacle {p : Play} (sane : Play.Sane b p) (fine : Play.Fine s.setup s.messages b p)
    {game : Content} (saved : p.world.savedGame (.text s.setup.language) = .ok game) {e : Fault}
    (h : ((Archive.save s.setup.slot game).runOn p.host.archive).1 = .error e) :
    ∃ o, p.host.archive.obstacle? s.setup.slot e = some o := by
  rw [World.savedGame_eq sane.world.clean] at saved
  cases saved
  rw [Archive.save_run] at h
  cases place : p.host.archive.place s.setup.slot with
  | error fault =>
      rw [place] at h
      cases h
      exact Archive.obstacle_of_hindrance _ _ (Ground.opening_fault _ fine.named place)
  | ok there =>
      rw [place] at h
      simp only [World.isWritable_savedGame sane.world.clean fine.world.placed fine.world.plain,
        if_true] at h
      cases h

/-- **The game is saved**: one deed, of which plays that are alike know the same. -/
theorem meets_save :
    (s.terms b c strict).Meets
      (fun p => c.verb? = some .save ∧ p.world.isCornered = .ok false) s.save
      (fun _ _ => True) := by
  intro p q like sane pre
  obtain ⟨notes, same⟩ := like.world
  obtain ⟨game, saved⟩ : Comes (p.world.savedGame (.text s.setup.language)) :=
    ⟨_, World.savedGame_eq sane.world.clean _⟩
  have saved' : q.world.savedGame (.text s.setup.language) = .ok game := by
    rw [same]
    exact saved
  have kept : Play.Deed s.setup b c p _ := .keep p _ pre.1 pre.2 saved
  have obstacle (fine : Play.Fine s.setup s.messages b p) {e : Fault} :=
    save_obstacle (e := e) sane fine saved
  rw [save_run s p saved, save_run s q saved', like.archive]
  rcases hr : (Archive.save s.setup.slot game).runOn p.host.archive with ⟨r, archive⟩
  rw [hr] at kept obstacle
  cases r with
  | ok =>
      refine ⟨rfl, ⟨⟨("saved slot " ++ s.setup.slot.shown) :: notes, ?_⟩, like.router, rfl,
        like.conversation⟩, .tail (.single kept) (.world _ _ (.note _ _) fun _ => rfl),
        fun _ _ => trivial, fun _ => ⟨_, rfl⟩, nofun⟩
      simp only [same]
      rfl
  | error e =>
      simp only
      cases ho : p.host.archive.obstacle? s.setup.slot e with
      | some o =>
          exact ⟨rfl, ⟨like.world, like.router, rfl, like.conversation⟩, .single kept,
            fun _ _ => trivial, fun _ => ⟨_, rfl⟩, nofun⟩
      | none =>
          refine ⟨rfl, ⟨like.world, like.router, rfl, like.conversation⟩, .single kept,
            fun _ h => ?_, fun fine => ?_, fun _ h => ?_⟩
          · cases h
          · obtain ⟨o, h⟩ := obstacle fine rfl
            rw [ho] at h
            cases h
          · cases h
            exact Archive.mishaps_save p.host.archive s.setup.slot game e (by rw [hr])

/-! ## 5. Turns -/

/-- A step on the world; lines of dialogues are said in talks only. -/
theorem meets_onWorld {α : Type} {P : World → Prop} {Q : α → World → Prop} {a : Act World α}
    (talks : c ≠ .choice) (h : (World.terms b c).Meets P a Q) :
    (s.terms b c strict).Meets (fun p => P p.world) (Stage.onWorld a)
      (fun x p => Q x p.world) := by
  intro p q like sane pre
  have k := h like.world sane.world pre
  exact ⟨k.same, ⟨k.alike, like.router, like.archive, like.conversation⟩,
    Play.deeds_world (fun _ => talks) k.leads, k.post, fun fine => k.done fine.world, k.faults⟩

theorem murmurs_announceRoom : Play.IsMurmur (Turn.announceRoom announce) := by
  unfold Turn.announceRoom
  exact .get fun p => .bind (.note _) (murmurs_announce _)

/-- **The surroundings of a session suit the rules of the verbs**, of which none is for quitting. -/
theorem setting_suits (s : Session) (b : World) {c : Cause} (other : c.verb? ≠ some .quit)
    (talks : c ≠ .choice) (strict : Bool) : s.setting.Suits b c (s.terms b c strict) where
  alike like := like.world
  sane sane := sane.world
  fine fine := ⟨fine.world, fine.complete⟩
  faults mishap := mishap
  world := meets_onWorld talks
  knock target := by
    refine meets_modify (fun p q like => ?_) fun p _ pre => ⟨?_, trivial⟩
    · exact ⟨like.world, rfl, like.archive, fun counts => like.conversation
        (counts.elim .inl nofun)⟩
    · exact .single (.knock p target pre.1 pre.2)
  roomChanged := murmurs_announceRoom.meets fun _ _ _ _ => trivial
  startTicker := (murmurs_startTicker s).meets fun _ _ _ _ => trivial
  stopTicker := murmurs_stopTicker.meets fun _ _ _ _ => trivial
  beginDialogue id := by
    refine meets_of_state fun p sane pre => ?_
    have known : b.characters.has id = true :=
      (World.has_character_of_plan sane.world.plan id).symm.trans pre.2
    refine meets_bind ((meets_beginDialogue other known .null).pre fun q _ e => e ▸ pre.1)
      fun lines => ?_
    refine meets_ofExcept _ (fun _ _ _ _ => trivial) (fun q _ tells fine => ?_)
      (mishaps_map _ (Content.mishaps_joined _ _))
    exact comes_map _ (comes_map _ (allTexts_comes (tells fine.complete)))
  save write e := by
    cases e
    exact meets_save

/-- **The player wants to quit.** -/
theorem meets_quit : (s.terms b c strict).Meets (fun _ => True) s.quit (fun _ _ => True) := by
  have farewell (ph : Phrase) : (s.terms b c strict).Meets (fun _ => True) (s.setting.say ph)
      (fun _ _ => True) := by
    refine meets_ofExcept _ (fun _ _ _ _ => trivial) (fun p _ _ fine => ?_)
      (s.messages.mishaps_plain ph)
    obtain ⟨t, ht, -⟩ := Messages.plain_text fine.complete ph
    exact ⟨_, ht⟩
  unfold quit
  refine meets_bind (Q := fun active p => p.world.encounterActive = .ok active)
    (meets_reading (fun p q like => ?_) (fun p x _ _ e => e) (fun p sane _ _ => ?_)
      fun p => p.world.mishaps_encounterActive) fun active => ?_
  · obtain ⟨notes, e⟩ := like.world
    rw [e]
    rfl
  · exact ⟨_, World.encounterActive_eq sane.world.clean⟩
  · cases active with
    | true =>
        exact meets_bind ((farewell .quitRefused).pre fun _ _ _ => trivial) fun _ => meets_return _
    | false =>
        refine meets_bind (meets_stop fun p e _ => e) fun _ => ?_
        exact meets_bind (farewell .farewell) fun _ => meets_return _

/-- **A line is read as a command**, where nothing waits for it. -/
theorem meets_obey (before : World) (line : String)
    (h : c = match s.intent? before line with
      | some i => .command s.messages before i
      | none => .idle) :
    (s.terms b c strict).Meets
      (fun p => before.Alike p.world ∧ p.router.waiting = none) (s.obey line) (fun _ _ => True) := by
  unfold obey
  refine meets_get (fun p q like => ?_) fun p sane pre => ?_
  · obtain ⟨notes, e⟩ := like.world
    rw [e]
    rfl
  obtain ⟨⟨notes, e⟩, free⟩ := pre
  have read : s.intent? p.world line = s.intent? before line := by
    rw [e]
    rfl
  rw [read]
  cases hi : s.intent? before line with
  | none => exact meets_return _
  | some i =>
      rw [hi] at h read
      subst h
      simp only
      by_cases quits : i.verb? = some .quit
      · rw [if_pos quits]
        exact meets_bind (meets_quit.pre fun _ _ _ => trivial) fun lines => meets_tell lines
      · rw [if_neg quits]
        have suits := setting_suits s b (c := .command s.messages before i) quits nofun strict
        have turn := suits.meets_dispatch (i := i)
          fun place => (murmurs_announce place).meets fun _ _ _ _ => trivial
        refine meets_bind (turn.pre fun q _ hq => ?_) fun lines => meets_tell lines
        subst hq
        exact ⟨free, ⟨notes, e⟩, Intent.fitsIn_of_fits (Intent.fits_of_ofLine? read)⟩

theorem sane_heard {p : Play} (sane : Play.Sane b p) (line : String) :
    Play.Sane b (p.heard line) :=
  ⟨⟨sane.world.clean, sane.world.plan, sane.world.sound⟩, nofun, nofun⟩

theorem fine_heard {p : Play} (fine : Play.Fine s.setup s.messages b p) (line : String) :
    Play.Fine s.setup s.messages b (p.heard line) :=
  ⟨⟨fine.world.documented, fine.world.placed, fine.world.whole, fine.world.plain⟩, fine.complete,
    fine.named⟩

theorem alike_heard {p q : Play} (like : Play.Alike strict p q) (line : String) :
    Play.Alike strict (p.heard line) (q.heard line) := by
  obtain ⟨notes, e⟩ := like.world
  refine ⟨⟨("input=" ++ line) :: notes, ?_⟩, rfl, like.archive, fun counts => like.conversation
    (counts.elim .inl nofun)⟩
  show q.world.noted _ = _
  rw [e]
  rfl

/-- **A line of the player keeps to the terms** once it is heard, and plays that are alike do not
    differ in what comes of it. -/
theorem keeps_handle {p q : Play} (like : Play.Alike false p q) (sane : Play.Sane b p)
    (line : String) :
    (s.terms b (s.cause p line) false).Keeps (p.heard line) ((s.handle line).runOn p)
      ((s.handle line).runOn q) (fun _ _ => True) := by
  rw [handle_run, handle_run, like.router]
  have sane' : Play.Sane b (p.heard line) := sane_heard sane line
  unfold cause
  rcases hw : p.router.waiting with - | (target | -)
  · exact meets_obey p.world line rfl (alike_heard like line) sane'
      ⟨⟨_, rfl⟩, rfl⟩
  · have suits := setting_suits s b (c := .code target line) nofun nofun false
    refine meets_bind suits.meets_tryCode (fun lines => meets_tell lines) (alike_heard like line)
      sane' ?_
    exact (World.has_room_of_plan sane.world.plan target).trans (sane.known target hw)
  · have strictly : Play.Alike true p q :=
      ⟨like.world, like.router, like.archive, fun _ => like.conversation (.inr hw)⟩
    have offers : (p.heard line).talk.Offers b := (sane.offers hw).congr rfl rfl
    have k := meets_bind (meets_choose (s := s) line) (fun lines => meets_tell lines)
      (alike_heard strictly line) sane' ⟨offers, rfl⟩
    exact ⟨k.same, Play.Alike.loosen k.alike, k.leads, k.post, k.done, k.faults⟩

end Session

end Adventure
