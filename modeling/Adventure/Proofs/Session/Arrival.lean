import Adventure.Proofs.Session.Departure
import Adventure.Proofs.Session.Ending
import Adventure.Proofs.World.Backdrop

/-!
# Whoever comes into another room is told so

* `Play.secretive`: no room is announced;
* `rule_secretive`: **no rule announces a room**, whatever it does else;
* `Messages.Herald`: messages that have something to say about an unlocked door, and of the torch no
  more than a text;
* `setOff_lands`, `move_lands`: with such messages a move that comes to a fault leads nowhere;
* `Session.Arrives`: what a line has to do with announcements;
* `turn_arrives`: **a line announces the room into which it leads, once, and describes it last**;
* `walk_announced`: so does every line of a session;
* `walk_unannounced`: messages with which it is not so.
-/

namespace Adventure

open Outcome

/-! ## 1. Steps that announce no room -/

namespace Play

/-- **No room is announced.** -/
def secretive : Frame Play where
  Within p q := q.host.rooms = p.host.rooms
  refl _ := rfl
  trans h k := k.trans h

variable {α : Type}

theorem secretive_onWorld (a : Act World α) : secretive.Holds (Stage.onWorld a) := fun _ => rfl

theorem secretive_onTalk (a : Act Talk α) : secretive.Holds (onTalk a) := fun _ => rfl

theorem secretive_onDesk {f : Desk → Desk} (h : ∀ d, (f d).rooms = d.rooms) :
    secretive.Holds (onDesk f) := fun p => h p.host

theorem secretive_redirect (k : Pending) : secretive.Holds (Stage.redirect k : Act Play Unit) :=
  fun _ => rfl

theorem secretive_noteAll (texts : List String) : secretive.Holds (noteAll texts) :=
  Frame.holds_forM (fun _ _ => rfl) texts

theorem secretive_tell (lines : List Content) : secretive.Holds (tell lines) :=
  Frame.holds_bind (Frame.holds_forM (fun _ _ => rfl) lines) fun _ => Frame.holds_pure _

end Play

namespace Session

open Play Adventure.Frame

variable {s : Session}

theorem secretive_startTicker : secretive.Holds s.startTicker := by
  unfold startTicker
  refine holds_get fun p => ?_
  split
  · exact holds_pure _
  · split
    · exact holds_pure _
    · exact holds_bind (secretive_onDesk fun _ => rfl) fun _ => secretive_noteAll _

theorem secretive_stopTicker : secretive.Holds stopTicker := by
  unfold stopTicker
  refine holds_get fun p => ?_
  split
  · exact holds_pure _
  · exact holds_bind (secretive_onDesk fun _ => rfl) fun _ => secretive_noteAll _

theorem secretive_stop : secretive.Holds stop :=
  holds_bind (secretive_onDesk fun _ => rfl) fun _ =>
    holds_bind (fun _ => rfl) fun _ => secretive_stopTicker

theorem secretive_follow (r : Reaction) : secretive.Holds (follow r) :=
  holds_follow (secretive_redirect _)
    (holds_trigger (fun _ => secretive_onWorld _) (fun _ => secretive_onDesk fun _ => rfl)
      secretive_stop) r

theorem secretive_beginDialogue (character continuation : Content) :
    secretive.Holds (s.beginDialogue character continuation) :=
  holds_bind (secretive_onTalk _) secretive_follow

theorem secretive_choose (line : String) : secretive.Holds (s.choose line) :=
  holds_bind (secretive_onTalk _) secretive_follow

theorem secretive_save : secretive.Holds s.save :=
  holds_save (fun _ => secretive_onWorld _) fun _ _ => rfl

variable {b : World} {p : Play} {line : String} {i : Intent}

/-- The rules of the verbs suit a host that announces no room where a code opens a door. -/
theorem secretive_suits (s : Session) (b : World) {c : Cause} (other : c.verb? ≠ some .quit)
    (talks : c ≠ .choice) :
    (s.setting.hosted { s.setting.hooks with roomChanged := pure () }).Suits b c
      ((s.terms b c false).framed secretive) := by
  have suits := setting_suits s b other talks false
  exact suits_framed other talks secretive_onWorld secretive_redirect ⟨.pure, holds_pure ()⟩
    ⟨murmurs_startTicker s, secretive_startTicker⟩ ⟨murmurs_stopTicker, secretive_stopTicker⟩
    (fun id => ⟨suits.beginDialogue id,
      holds_bind (secretive_beginDialogue _ _) fun _ => holds_ofExcept _⟩)
    ⟨rfl, secretive_save⟩

/-- **No rule announces a room.** -/
theorem rule_secretive (sane : Play.Sane b p)
    (read : s.intent? p.world line = some i) {verb : Verb} (hv : i.verb? = some verb)
    {rule : Rule Desk} (hr : s.setting.ruleFor? verb = some rule) :
    secretive.Within p ((rule i).runOn (p.heard line)).2 := by
  have other : (Cause.command s.messages p.world i).verb? ≠ some .quit := by
    intro quits
    have quits : i.verb? = some .quit := quits
    rw [hv] at quits
    cases quits
    cases hr
  have suits := secretive_suits s b other nofun
  have hosted := (s.setting.ruleFor?_hosted { s.setting.hooks with roomChanged := pure () }
    (fun _ => rfl) (fun _ => rfl) (fun _ => rfl) (fun _ => rfl)).trans hr
  have begins : Stage.Begins p.world i (p.heard line) :=
    ⟨rfl, ⟨_, rfl⟩, Intent.fitsIn_of_fits (Intent.fits_of_ofLine? read)⟩
  exact (suits.meets_rule hv hosted).within (sane_heard sane line) begins

end Session

/-! ## 2. Moves that come to a fault -/

/-- **Messages that let the player arrive**: they have something to say about a door that has been
    unlocked, and what they say about the torch is a text, if they say anything. -/
structure Messages.Herald (m : Messages) : Prop where
  unlocked : Comes (m.plain .doorUnlocked)
  torch : ∀ x, m.plain .torchSwitchedOff = .ok x → ∃ t, x = .text t

/-- Complete messages do so. -/
theorem Messages.herald_of_complete {m : Messages} (complete : m.IsComplete) : m.Herald where
  unlocked := by
    obtain ⟨t, said, -⟩ := plain_text complete .doorUnlocked
    exact ⟨_, said⟩
  torch x said := by
    obtain ⟨t, said', -⟩ := plain_text complete .torchSwitchedOff
    rw [said] at said'
    exact ⟨t, Except.ok.inj said'⟩

namespace Setting

variable {σ : Type} {s : Setting σ} {i : Intent} {p : Stage σ}

/-- What is said about the torch are texts. -/
theorem darken_texts (herald : s.messages.Herald) {sayings : List Content} {q : Stage σ}
    (run : s.darken.runOn p = (.ok sayings, q)) : ∀ x ∈ sayings, ∃ t, x = .text t := by
  unfold darken at run
  obtain ⟨lit, t, -, next⟩ := Act.runOn_bind_eq_ok.mp run
  cases lit with
  | false =>
      cases congrArg Prod.fst next
      exact fun _ hm => absurd hm List.not_mem_nil
  | true =>
      obtain ⟨_, u, -, told⟩ := Act.runOn_bind_eq_ok.mp next
      obtain ⟨x, v, said, gathered⟩ := Act.runOn_bind_eq_ok.mp told
      cases congrArg Prod.fst gathered
      intro y hm
      rw [List.mem_singleton.mp hm]
      exact herald.torch x (congrArg Prod.fst said)

/-- Texts can be joined. -/
theorem joined_run {sayings : List Content} (texts : ∀ x ∈ sayings, ∃ t, x = .text t)
    (between : String) (p : Stage σ) : ∃ x, ((joined between sayings).runOn p).1 = .ok x :=
  comes_map _ (comes_map _ (allTexts_comes texts))

/-- Who steps into a room is told nothing. -/
theorem step_lands (target : String) (p : Stage σ) :
    ((s.step target).runOn p).2.world.current = p.world.current ∨
      ((s.step target).runOn p).1 = .ok (.text "") := by
  have demanded : (Stage.ask fun w => w.rooms.demand (.text target)).runOn p =
      (p.world.rooms.demand (.text target), p) := rfl
  unfold step
  cases found : p.world.rooms.demand (.text target) with
  | error e =>
      rw [Act.runOn_bind_error (demanded.trans (by rw [found]))]
      exact .inl rfl
  | ok room =>
      rw [Act.runOn_bind_ok (demanded.trans (by rw [found]))]
      cases room.locked with
      | true => exact .inl rfl
      | false => exact .inr rfl

/-- **A player who sets off stays, or comes into the room without a fault.** -/
theorem setOff_lands (herald : s.messages.Herald) (plain : p.world.flags.IsPlain)
    (target : String) : ((s.setOff target).runOn p).2.world.current = p.world.current ∨
      ∃ x, ((s.setOff target).runOn p).1 = .ok x := by
  obtain ⟨r, notes, darkened⟩ := s.darken_run plain
  have dim : (p.world.dimmed World.withTorch).current = p.world.current := by
    unfold World.dimmed
    split
    · rfl
    · rfl
  unfold setOff
  cases r with
  | error e =>
      rw [Act.runOn_bind_error darkened]
      exact .inl dim
  | ok sayings =>
      have texts := darken_texts herald darkened
      rw [Act.runOn_bind_ok darkened]
      obtain ⟨q, hq⟩ : ∃ q : Stage σ,
        q = { p with world := { p.world.dimmed World.withTorch with notes } } := ⟨_, rfl⟩
      have here : q.world.current = p.world.current := by rw [hq]; exact dim
      rw [← hq, ← here]
      have gate : ((s.entryRefusal target).runOn q).2.world.current = q.world.current := by
        rcases s.entryRefusal_run target q with e | ⟨gate, -, e⟩
        · rw [e]
        · rw [e]
          exact (World.sameScene_apply gate.effect q.world).current
      -- neither the torch nor the gate moves the player: only the step does, and it says nothing
      rcases run : (s.entryRefusal target).runOn q with ⟨r, t⟩
      rw [run] at gate
      rw [← gate]
      cases r with
      | error e =>
          rw [Act.runOn_bind_error run]
          exact .inl rfl
      | ok x =>
          rw [Act.runOn_bind_ok run]
          simp only
          split
          · rcases step_lands (s := s) target t with stays | silent
            · refine .inl ?_
              rw [Act.runOn_bind_snd fun _ _ => rfl]
              exact stays
            · refine .inr ?_
              rw [Act.runOn_bind_ok (Prod.ext silent rfl)]
              exact joined_run texts _ _
          · exact .inl rfl

/-- **A move that comes to a fault leads nowhere.** -/
theorem move_lands (herald : s.messages.Herald) (plain : p.world.flags.IsPlain)
    (verb : i.verb? = some .move) :
    ((s.move i).runOn p).2.world.current = p.world.current ∨
      ∃ x, ((s.move i).runOn p).1 = .ok x := by
  by_cases sets : ∃ target, i.SetsOff p.world target
  · obtain ⟨target, sets⟩ := sets
    rw [move_of_setsOff sets]
    exact setOff_lands herald plain target
  · refine .inl ?_
    rw [move_stays verb fun target h => sets ⟨target, h⟩]

end Setting

/-! ## 3. Steps into a room -/

namespace World

/-- The world in which a door has been unlocked. -/
def opened (target : String) (w : World) : World :=
  (w.updateRoom target (fun r => { r with locked := false })).noted
    ("room " ++ target ++ " unlocked")

/-- The world in which the player has come into a room. -/
def entered (target : String) (w : World) : World :=
  { w with current := .text target }.noted ("location " ++ (Content.text target).shown)

variable {w : World} {target : String} {r : Room}

theorem unlock_run (there : w.rooms.get? target = some r) :
    (unlock (.text target)).runOn w = (.ok (), w.opened target) := by
  unfold unlock
  rw [Act.runOn_bind_ok (known_run there)]
  rfl

/-- The room where the player is has a description. -/
theorem description_at (here : w.current = .text target) (there : w.rooms.get? target = some r) :
    w.description = .ok r.presentation := by
  unfold description room
  rw [here, Roster.demand_text there]
  rfl

/-- **No room has an exit to itself.** -/
def IsLoopless (b : World) : Prop :=
  ∀ e ∈ b.rooms.entries, ∀ exit ∈ e.2.exits, exit.2 ≠ e.1

instance (b : World) : Decidable b.IsLoopless := by
  unfold IsLoopless
  infer_instance

/-- The exits of a room lead elsewhere. -/
theorem IsLoopless.elsewhere {b : World} (loopless : b.IsLoopless) (plan : w.plan = b.plan)
    (exit : w.HasExit target) : w.current ≠ .text target := by
  intro here
  obtain ⟨d, r, -, found, leads, -⟩ := exit
  obtain ⟨name, current, there⟩ := room_eq_ok found
  rw [here] at current
  cases current
  obtain ⟨r', there', bare⟩ := room_of_plan plan there
  have leads' : r'.bare.neighbour? d = some target := by
    rw [bare]
    exact leads
  exact loopless (target, r') (b.rooms.mem_entries_iff.mpr there') (d, target)
    (mem_of_lookup leads') rfl

end World

/-- The play in which the room where the player is has been announced. -/
def Play.announced (p : Play) : Play :=
  { p with
    world := p.world.noted ("room_changed " ++ p.world.current.shown)
    host := { p.host with rooms := p.world.current :: p.host.rooms } }

namespace Session

open Play Adventure.Frame

variable {s : Session} {b : World} {p q : Play} {line : String} {i : Intent}

/-! ## 4. One line -/

/-- **What a line has to do with announcements**, if `r` is said in the end. -/
structure Arrives (p : Play) (r : Except Fault (List Content)) (q : Play) : Prop where
  /-- As long as the player stays, no room is announced. -/
  stays : q.world.current = p.world.current → q.host.rooms = p.host.rooms
  /-- The room into which the player comes is announced once, and described in the last line. -/
  comes : q.world.current ≠ p.world.current → q.host.rooms = q.world.current :: p.host.rooms ∧
    ∃ lines d, r = .ok (lines ++ [.text d]) ∧ q.world.description = .ok d

namespace Arrives

theorem of_stays {r : Except Fault (List Content)} (here : q.world.current = p.world.current)
    (rooms : secretive.Within p q) : Arrives p r q :=
  ⟨fun _ => rooms, fun moved => absurd here moved⟩

/-- A line that has been heard brings the player nowhere yet. -/
theorem of_heard {r : Except Fault (List Content)} (h : Arrives (p.heard line) r q) :
    Arrives p r q := ⟨h.stays, h.comes⟩

/-- Telling what is to be said makes no difference. -/
theorem told {a : Act Play (List Content)}
    (h : Arrives p (a.runOn q).1 (a.runOn q).2) :
    Arrives p ((a >>= Play.tell).runOn q).1 ((a >>= Play.tell).runOn q).2 := by
  rcases run : a.runOn q with ⟨r, t⟩
  rw [run] at h
  cases r with
  | error e =>
      rw [Act.runOn_bind_error run]
      exact h
  | ok lines =>
      rw [Act.runOn_bind_ok run, tell_run]
      exact ⟨h.stays, h.comes⟩

end Arrives

/-- A saying changes nothing. -/
theorem say_stays (s : Session) (ph : Phrase) (p : Play) :
    ((do return [← s.setting.say ph] : Act Play (List Content)).runOn p).2 = p :=
  Act.runOn_bind_snd fun _ _ => rfl

/-- A room is described where a player is in it. -/
theorem describe_run {target : String} {r : Room} (here : q.world.current = .text target)
    (there : q.world.rooms.get? target = some r) :
    (Stage.ask World.description).runOn q = (.ok r.presentation, q) := by
  show (q.world.description, q) = _
  rw [World.description_at here there]

/-- **Who comes into another room** hears it announced and described. -/
theorem withArrival_comes {before : Content} {target : String} {r : Room}
    (here : q.world.current = .text target) (moved : before ≠ .text target)
    (there : q.world.rooms.get? target = some r) (lines : List Content) :
    (Turn.withArrival announce before lines).runOn q =
      (.ok (lines ++ [.text r.presentation]), q.announced) := by
  have elsewhere : ¬ q.world.current.same before = true := by
    rw [here, Content.same_text]
    exact moved
  unfold Turn.withArrival
  rw [Act.runOn_bind_ok (Act.runOn_get q), if_neg elsewhere,
    Act.runOn_bind_ok (describe_run here there)]
  rfl

/-- **A code at a door** leaves the player outside, or brings the player into the room, which is
    announced and described. -/
theorem tryCode_arrives (herald : s.messages.Herald) {target : String}
    (there : p.world.rooms.has target = true) (outside : p.world.current ≠ .text target)
    (line : String) : Arrives p ((s.setting.tryCode target line).runOn p).1
      ((s.setting.tryCode target line).runOn p).2 := by
  obtain ⟨r, there⟩ := (Roster.has_iff _).mp there
  have demanded : (Stage.ask fun w => w.rooms.demand (.text target)).runOn p = (.ok r, p) := by
    show (p.world.rooms.demand (.text target), p) = _
    rw [Roster.demand_text there]
  unfold Setting.tryCode
  rw [Act.runOn_bind_ok demanded]
  by_cases wrong : Text.strip line ≠ r.code.getD ""
  · rw [if_pos wrong]
    have state := Act.runOn_bind_snd (s := p)
      (a := Stage.onWorld (World.note ("room " ++ target ++ " wrong code")))
      (fun _ => s.say_stays .doorWrongCode)
    refine .of_stays ?_ ?_
    · rw [state]
      rfl
    · rw [state]
      rfl
  · rw [if_neg wrong]
    let inside : Play := { p with world := (p.world.opened target).entered target }
    have opened := Stage.onWorld_run (p := p) (World.unlock_run there)
    have entered : (Stage.onWorld (World.moveTo (.text target))).runOn
        { p with world := p.world.opened target } = (.ok (), inside) := rfl
    have announced : s.setting.hooks.roomChanged.runOn inside = (.ok (), inside.announced) := rfl
    obtain ⟨x, said⟩ := herald.unlocked
    have told : (s.setting.say .doorUnlocked).runOn inside.announced =
        (.ok x, inside.announced) := by
      show (s.messages.plain .doorUnlocked, _) = _
      rw [said]
    have after : inside.announced.world.rooms.get? target = some { r with locked := false } :=
      Roster.get?_update_self there _
    rw [Act.runOn_bind_ok opened, Act.runOn_bind_ok entered, Act.runOn_bind_ok announced,
      Act.runOn_bind_ok told, Act.runOn_bind_ok (describe_run rfl after)]
    exact ⟨fun same => absurd same.symm outside, fun _ => ⟨rfl, [x], _, rfl,
      World.description_at rfl after⟩⟩

/-- **Where a rule leads**: into a room, if anywhere, and only the rule for moving does. -/
theorem rule_leads (sane : Play.Sane b p) (free : p.router.waiting = none)
    (read : s.intent? p.world line = some i) {verb : Verb} (hv : i.verb? = some verb)
    {rule : Rule Desk} (hr : s.setting.ruleFor? verb = some rule) :
    let q := ((rule i).runOn (p.heard line)).2
    q.world.current = p.world.current ∨ (verb = .move ∧ ∃ target r,
      q.world.current = .text target ∧ q.world.rooms.get? target = some r) := by
  intro q
  obtain ⟨more, world⟩ := (turn_rule free read hv hr).1.notes
  have current : (s.turn p line).2.world.current = q.world.current := by rw [world]
  have cause : s.cause p line = .command s.messages p.world i := by
    unfold cause
    rw [free, read]
  by_cases moves : verb = .move
  · rcases (strides_turn (s := s) sane line).moved with same | ⟨v, target, here, -, unlocked, -⟩
    · exact .inl (current.symm.trans same)
    · obtain ⟨r, there, -⟩ := Option.map_eq_some_iff.mp unlocked
      rw [world] at there
      exact .inr ⟨moves, target, r, current.symm.trans here, there⟩
  · refine .inl (current.symm.trans (turn_here sane ?_ fun target => ?_))
    · rw [cause]
      show i.verb? ≠ some .move
      rw [hv]
      exact fun e => moves (Option.some.inj e)
    · rw [free]
      exact nofun

/-- **What a rule says is followed by the description of the room** into which it has brought the
    player. -/
theorem route_arrives (herald : s.messages.Herald) (sane : Play.Sane b p)
    (free : p.router.waiting = none) (read : s.intent? p.world line = some i)
    (other : i.verb? ≠ some .quit) :
    Arrives p ((s.setting.route announce i).runOn (p.heard line)).1
      ((s.setting.route announce i).runOn (p.heard line)).2 := by
  unfold Setting.route
  cases hv : i.verb? with
  | none =>
      have state := s.say_stays .notUnderstood (p.heard line)
      refine .of_stays ?_ ?_
      · exact congrArg (fun q => q.world.current) state
      · exact congrArg (fun q => q.host.rooms) state
  | some verb =>
      have ruled : ∃ rule, s.setting.ruleFor? verb = some rule := by
        cases verb
        case quit => exact absurd hv other
        all_goals exact ⟨_, rfl⟩
      obtain ⟨rule, hr⟩ := ruled
      have silent := rule_secretive sane read hv hr
      have leads := rule_leads sane free read hv hr
      have faultless : verb = .move → ((rule i).runOn (p.heard line)).2.world.current =
          p.world.current ∨ ∃ x, ((rule i).runOn (p.heard line)).1 = .ok x := by
        rintro rfl
        cases hr
        exact Setting.move_lands (p := p.heard line) herald sane.world.clean.1 hv
      simp only [hr]
      rw [Act.runOn_bind_ok (Act.runOn_get _)]
      rcases run : (rule i).runOn (p.heard line) with ⟨r, q⟩
      rw [run] at silent leads faultless
      -- a rule that has led nowhere leaves nothing to announce, whether it comes to a fault or not
      by_cases here : q.world.current = p.world.current
      · have before : (p.heard line).world.current = q.world.current := here.symm
        cases r with
        | error e =>
            rw [Act.runOn_bind_error run]
            exact .of_stays here silent
        | ok saying =>
            rw [Act.runOn_bind_ok run, before]
            refine .of_stays ?_ ?_
            · rw [(withArrival_stays _ _ q).1]
              exact here
            · rw [(withArrival_stays _ _ q).1]
              exact silent
      · obtain ⟨moves, target, room, inside, there⟩ := leads.resolve_left here
        obtain ⟨saying, rfl⟩ := (faultless moves).resolve_left here
        have moved : (p.heard line).world.current ≠ .text target := fun e => here (inside.trans e.symm)
        rw [Act.runOn_bind_ok run, withArrival_comes (q := q) inside moved there]
        refine ⟨fun same => absurd same here, fun _ => ⟨?_, _, _, rfl, ?_⟩⟩
        · exact congrArg (q.world.current :: ·) silent
        · exact World.description_at inside there

/-- **A line announces the room into which it leads**, once, and describes it last. -/
theorem turn_arrives (herald : s.messages.Herald) (sane : Play.Sane b p)
    (outside : ∀ target, p.router.waiting = some (.doorCode target) →
      p.world.current ≠ .text target) (line : String) :
    Arrives p (s.turn p line).1 (s.turn p line).2 := by
  -- the player moves by a move or by a code: every other line has to be silent, and no more
  have here (move : (s.cause p line).verb? ≠ some .move)
      (free : ∀ target, p.router.waiting ≠ some (.doorCode target)) := turn_here sane move free
  unfold cause at here
  rcases waits : p.router.waiting with - | (target | -)
  · cases read : s.intent? p.world line with
    | none =>
        rw [turn_unread waits read]
        exact .of_stays rfl rfl
    | some i =>
        by_cases quits : i.verb? = some .quit
        · simp only [waits, read] at here
          refine .of_stays (here ?_ nofun) ?_
          · show i.verb? ≠ some .move
            rw [quits]
            exact nofun
          · rw [turn_reads waits read, if_pos quits]
            exact holds_bind (holds_quit secretive_stop) secretive_tell (p.heard line)
        · rw [turn_routes waits read quits]
          exact (route_arrives herald sane waits read quits).told
  · have known : (p.heard line).world.rooms.has target = true :=
      (World.has_room_of_plan sane.world.plan target).trans (sane.known target waits)
    rw [turn_resumes waits]
    exact (tryCode_arrives (p := p.heard line) herald known (outside target waits) line).told.of_heard
  · simp only [waits] at here
    refine .of_stays (here nofun nofun) ?_
    rw [turn_resumes waits]
    exact holds_bind (secretive_choose line) secretive_tell (p.heard line)

/-! ## 5. Line after line -/

variable {shelf : Shelf} {setup : Setup} {archive : Archive} {p₀ : Play}

/-- A command that brings the player to a door goes through an exit that leads there. -/
theorem hasExit_of_approaches {v : World} {target : String}
    (h : (s.cause p line).Approaches v target) : p.world.HasExit target := by
  unfold cause at h
  split at h
  · exact h.elim
  · exact h.elim
  · split at h
    · obtain ⟨⟨-, d, r, -, valid, found, exit, inside⟩, -⟩ := h
      exact ⟨d, r, valid, found, exit, inside⟩
    · exact h.elim

/-- **At a door the player is outside**: the room whose code is asked for is another one. -/
theorem outside_turn (sane : Play.Sane b p) (loopless : b.IsLoopless) (line : String)
    {target : String} (waits : (s.turn p line).2.router.waiting = some (.doorCode target)) :
    (s.turn p line).2.world.current ≠ .text target := by
  have strides := strides_turn (s := s) sane line
  obtain ⟨⟨v, approaches⟩, locked⟩ := strides.asked target waits
  rcases strides.moved with same | ⟨-, other, here, -, unlocked, -⟩
  · rw [same]
    exact loopless.elsewhere sane.world.plan (hasExit_of_approaches approaches)
  · intro there
    rw [here] at there
    cases there
    rw [locked] at unlocked
    cases unlocked

/-- **Every line announces the room into which it leads**, once, and describes it last, through
    doors that are open and doors that a code opens; and no line announces a room into which it does
    not lead. -/
theorem walk_announced (holds : shelf.Holds b) (opens : Opens setup shelf archive s p₀)
    (herald : s.messages.Herald) (loopless : b.IsLoopless) (lines : List String) (line : String) :
    let p := s.after p₀ lines
    let q := (s.turn p line).2
    (q.world.current = p.world.current → q.host.rooms = p.host.rooms) ∧
    (q.world.current ≠ p.world.current → q.host.rooms = q.world.current :: p.host.rooms ∧
      ∃ before d, (s.turn p line).1 = .ok (before ++ [.text d]) ∧ q.world.description = .ok d) := by
  have sane₀ := sane_opens holds opens
  have outside : ∀ target, (s.after p₀ lines).router.waiting = some (.doorCode target) →
      (s.after p₀ lines).world.current ≠ .text target := by
    intro target waits
    rcases List.eq_nil_or_concat lines with rfl | ⟨before, last, rfl⟩
    · obtain ⟨_, _, _, -, -, -, -, -, -, -, rfl⟩ := opens_iff.mp opens
      cases waits
    · rw [List.concat_eq_append, after_append] at waits ⊢
      exact outside_turn (after_sane sane₀ before) loopless last waits
  have arrives := turn_arrives herald (after_sane sane₀ lines) outside line
  exact ⟨arrives.stays, arrives.comes⟩

/-- A code opens the cellar, which is announced. -/
theorem walk_announced_cellar : ∃ shelf b archive s p₀, Shelf.Holds shelf b ∧
    Opens s.setup shelf archive s p₀ ∧ s.messages.Herald ∧ b.IsLoopless ∧
      let p := s.after p₀ ["move nord"]
      let q := (s.turn p "1234").2
      q.world.current ≠ p.world.current ∧ q.host.rooms = q.world.current :: p.host.rooms := by
  let s : Session := Cellar.session (.text "closed")
  obtain ⟨b, holds, sound, loopless, moved⟩ := Cellar.exists_holds (.int 2) (.text "closed")
    (fun b => b.inconsistencies = .ok [] ∧ b.IsLoopless ∧
      (s.turn (s.after (Cellar.first b) ["move nord"]) "1234").2.world.current ≠
        (s.after (Cellar.first b) ["move nord"]).world.current) (by decide +kernel)
  have opens := Cellar.opens holds sound
  have herald : s.messages.Herald := Messages.herald_of_complete (Messages.bare_complete "closed")
  have announced := walk_announced holds opens herald loopless ["move nord"] "1234"
  exact ⟨_, b, _, s, _, holds, opens, herald, loopless, moved, (announced.2 moved).1⟩

end Session

/-! ## 6. Messages that fail -/

/-- Messages in which a phrase says something else, or nothing. -/
def Messages.twisted (phrase : Phrase) (saying : Option Content) : Messages where
  content := .mapping (Phrase.all.filterMap fun p =>
    if p = phrase then saying.map (p.word, ·) else some (p.word, .text (Messages.bare.sentence p)))

namespace Cellar

/-- A session with such messages. -/
def twisted (phrase : Phrase) (saying : Option Content) : Session :=
  { session .null with messages := .twisted phrase saying }

/-- The shelf of an adventure with such messages. -/
def twistedShelf (content : Content) (phrase : Phrase) (saying : Option Content) : Shelf where
  sheet
    | .world => .written content
    | .messages => .written (Messages.twisted phrase saying).content
    | .commands => .written words
    | .stopwords => .written .null

/-- What is told of the adventure has nothing to do with its messages. -/
theorem twisted_holds {content refusal : Content} {b : World}
    (holds : (shelfOf content refusal).Holds b) (phrase : Phrase) (saying : Option Content) :
    (twistedShelf content phrase saying).Holds b := holds

theorem twisted_opens {content : Content} {b : World} {phrase : Phrase} {saying : Option Content}
    (holds : (twistedShelf content phrase saying).Holds b) (sound : b.inconsistencies = .ok [])
    (filled : (Messages.twisted phrase saying).content.isFilled = true) :
    Session.Opens setup (twistedShelf content phrase saying) archive (twisted phrase saying)
      (first b) := by
  refine Session.opens_new (s := twisted phrase saying) holds ?_ sound vacant rfl
  exact
    { messages := ⟨(Messages.twisted phrase saying).content, ⟨_, rfl, by rw [if_pos filled]⟩, rfl⟩
      commands := (offersOf content .null).commands
      stopwords := (offersOf content .null).stopwords }

end Cellar

namespace Gallery

/-- **A gallery**, from which an open way leads into the yard, and a lamp that is lit. -/
def content : Content :=
  .mapping
    [("start", .text "hall"),
     ("rooms", .mapping
       [("hall", Cellar.room "Hall" [("exits", .mapping [("sud", .text "yard")])]),
        ("yard", Cellar.room "Yard" [])]),
     ("items", .mapping
       [("lamp", .mapping
          [("name", .text "lamp"), ("location", .text Content.inventoryWord),
           ("activation", .mapping [("active", .bool true)])])]),
     ("flags", .mapping [("torch_lit", .bool true)]),
     ("scenario", .mapping [("torch", .text "lamp")])]

end Gallery

namespace Session

/-- **Messages with which arrivals fail.** Without a sentence about an unlocked door the line that
    opens it comes to a fault, though the room has been announced; with a number in the place of the
    sentence about the torch the player comes into a room that is not announced. -/
theorem walk_unannounced :
    (∃ shelf b archive s p₀, Shelf.Holds shelf b ∧ Opens s.setup shelf archive s p₀ ∧
      b.IsLoopless ∧
      let p := s.after p₀ ["move nord"]
      let q := (s.turn p "1234").2
      q.world.current ≠ p.world.current ∧ q.host.rooms = q.world.current :: p.host.rooms ∧
        (s.turn p "1234").1 = .error (.unknownKey (.text "door_unlocked"))) ∧
    ∃ shelf b archive s p₀, Shelf.Holds shelf b ∧ Opens s.setup shelf archive s p₀ ∧
      b.IsLoopless ∧
      let q := (s.turn p₀ "move sud").2
      q.world.current ≠ p₀.world.current ∧ q.host.rooms = p₀.host.rooms ∧
        (s.turn p₀ "move sud").1 = .error .wrongKind := by
  constructor
  · let s : Session := Cellar.twisted .doorUnlocked none
    obtain ⟨b, holds, sound, loopless, moved, rooms, fault⟩ :=
      Cellar.exists_holdsOf (Cellar.content (.int 2)) .null
        (fun b =>
          let p := s.after (Cellar.first b) ["move nord"]
          let q := (s.turn p "1234").2
          b.inconsistencies = .ok [] ∧ b.IsLoopless ∧ q.world.current ≠ p.world.current ∧
            q.host.rooms = q.world.current :: p.host.rooms ∧
            (s.turn p "1234").1 = .error (.unknownKey (.text "door_unlocked"))) (by decide +kernel)
    have holds := Cellar.twisted_holds holds .doorUnlocked none
    exact ⟨_, b, _, s, _, holds, Cellar.twisted_opens holds sound (by decide +kernel), loopless,
      moved, rooms, fault⟩
  · let s : Session := Cellar.twisted .torchSwitchedOff (some (.int 5))
    obtain ⟨b, holds, sound, loopless, moved, rooms, fault⟩ :=
      Cellar.exists_holdsOf Gallery.content .null
        (fun b =>
          let p := Cellar.first b
          let q := (s.turn p "move sud").2
          b.inconsistencies = .ok [] ∧ b.IsLoopless ∧ q.world.current ≠ p.world.current ∧
            q.host.rooms = p.host.rooms ∧ (s.turn p "move sud").1 = .error .wrongKind)
        (by decide +kernel)
    have holds := Cellar.twisted_holds holds .torchSwitchedOff (some (.int 5))
    exact ⟨_, b, _, s, _, holds, Cellar.twisted_opens holds sound (by decide +kernel), loopless,
      moved, rooms, fault⟩

end Session

end Adventure
