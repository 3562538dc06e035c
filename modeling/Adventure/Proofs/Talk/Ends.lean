import Adventure.Proofs.Talk.Numbers

/-!
# Dialogues always end

* `World.Hosts`: a world in which dialogues can be led;
* `Talk.Call`, `Talk.after`: a dialogue begins, a choice is made, or something happens elsewhere; the
  talk after some of these;
* `Talk.Turns`: **what comes of a call**: there is something to choose, or the dialogue is over, and
  it is told how;
* `World.Uses`: what a call does to the lines of the dialogues;
* `admitted_of_sane`: in a documented adventure any answers may be given;
* `chosen_nodup`, `chosen_unsaid`: **no line is chosen twice**, and with every choice one line less is
  left;
* `dialogues_end`: all of it, for every run of calls.

The nodes of a dialogue may lead back to each other, so they do not tell when it ends. What tells it
is how many lines are left.
-/

namespace Adventure

open Outcome

/-! ## 1. Lines that are used -/

namespace World

/-- **A world in which dialogues can be led**: the player is in a room, and every reply can have its
    effect. -/
structure Hosts (w : World) : Prop where
  placed : w.IsPlaced
  allows : ∀ name d, w.dialogues.get? name = some d → ∀ reply ∈ d.replies, w.Allows reply.effect

/-- **The worlds of a documented adventure are such worlds**, as long as the player is in a room. -/
theorem hosts_of_sane {b w : World}
    (documented : ∀ effect ∈ b.effects, effect.isDocumented true = true) (sane : Sane b w)
    (placed : w.IsPlaced) : w.Hosts := by
  refine ⟨placed, fun name d there reply mem => ?_⟩
  have known : reply.effect ∈ b.effects := by
    rw [← effects_of_plan sane.plan]
    exact mem_effects_of_reply there mem
  obtain ⟨_, v, run, -, told⟩ := apply_cases sane.clean sane.plan (grasps_effect sane.sound known)
  obtain ⟨rfl, -⟩ := told (documented _ known) placed
  exact ⟨v, run⟩

/-- How many lines of the dialogue with a character are left. -/
def unsaid (w : World) (name : String) : Nat :=
  Dialogue.unsaid ((w.dialogues.get? name).getD {}).lines

/-- The line at a place of the dialogue with a character has been said. -/
def HasSpent (w : World) (at_ : String × Nat) : Prop :=
  ∃ d line, w.dialogues.get? at_.1 = some d ∧ d.lines[at_.2]? = some line ∧ line.used = true

/-- **What a call does to the lines**: nothing, or it uses one that was left. -/
inductive Uses (w v : World) : Option (String × Nat) → Prop where
  | none (same : v.dialogues = w.dialogues) : Uses w v none
  | line {name : String} {place : Nat} {d : Dialogue} {line : PlayerLine}
      (there : w.dialogues.get? name = some d) (stands : d.lines[place]? = some line)
      (unused : line.used = false)
      (after : v.dialogues = w.dialogues.update name fun d =>
        { d with lines := d.lines.modify place PlayerLine.spent }) : Uses w v (some (name, place))

variable {w v : World} {used : Option (String × Nat)} {name : String} {place : Nat}

/-- What has been said stays said. -/
theorem Uses.keeps (uses : Uses w v used) {at_ : String × Nat} (spent : w.HasSpent at_) :
    v.HasSpent at_ := by
  cases uses with
  | none same =>
      unfold HasSpent
      rw [same]
      exact spent
  | @line name place d line there stands unused after =>
      obtain ⟨d', line', there', stands', used⟩ := spent
      unfold HasSpent
      rw [after]
      by_cases here : at_.1 = name
      · rw [here] at there' ⊢
        rw [Roster.get?_update_self there']
        refine ⟨_, if place = at_.2 then line'.spent else line', rfl, ?_, ?_⟩
        · simp only [List.getElem?_modify, stands']
          split
          · rfl
          · rfl
        · split
          · rfl
          · exact used
      · exact ⟨d', line', by rw [Roster.get?_update_ne _ here, there'], stands', used⟩

/-- The line that is used was left before, and has been said after. -/
theorem Uses.spends (uses : Uses w v (some (name, place))) :
    ¬ w.HasSpent (name, place) ∧ v.HasSpent (name, place) := by
  cases uses with
  | @line _ _ d line there stands unused after =>
      refine ⟨?_, _, line.spent, by rw [after, Roster.get?_update_self there], ?_, rfl⟩
      · rintro ⟨d', line', there', stands', used⟩
        cases there.symm.trans there'
        cases stands.symm.trans stands'
        exact absurd (unused.symm.trans used) nofun
      · simp only [List.getElem?_modify, stands, Option.map_eq_map, Option.map_some, if_true]

/-- **With the line that is used, one line less is left.** -/
theorem Uses.unsaid (uses : Uses w v (some (name, place))) :
    v.unsaid name + 1 = w.unsaid name := by
  cases uses with
  | line there stands unused after =>
      unfold World.unsaid
      rw [after, Roster.get?_update_self there, there]
      exact Dialogue.unsaid_modify stands unused

end World

namespace Talk

variable {m : Messages} {w : World} {name : String} {continuation : Content} {t u : Talk}
  {r : Reaction}

/-! ## 2. What comes of a call -/

/-- The player is at the climax: with its character, in its room. -/
def AtClimax (name : String) (w : World) : Prop :=
  ∃ c ∈ w.scenario.climax, w.current = .text c.room ∧ c.character = name

/-- **A dialogue is over**, and the reaction tells how: with the climax, with what its caller wanted
    to follow, or just so. -/
structure Over (name : String) (continuation : Content) (r : Reaction) (u : Talk) : Prop where
  state : u.conversation.state = .terminated
  interacted : ∃ c, u.world.characters.get? name = some c ∧ c.interacted = true
  climax : AtClimax name u.world → r.outcome = .endsWithEvent ∧ r.event = some (.text climaxEvent)
  follows : ¬ AtClimax name u.world → continuation.isFilled = true →
    r.outcome = .endsWithEvent ∧ r.event = some continuation
  plain : ¬ AtClimax name u.world → continuation.isFilled = false →
    r.outcome = .ends ∧ r.event = none

/-- **Whom a dialogue is with**, and what its caller wants to follow. -/
structure Concerns (name : String) (continuation : Content) (t : Talk) : Prop where
  subject : t.conversation.subject = some name
  continuation : t.conversation.continuation = continuation

/-- **What comes of a call**: there is something to choose, or the dialogue is over. -/
inductive Turns (name : String) (continuation : Content) (r : Reaction) (u : Talk) : Prop where
  | on (goesOn : r.outcome = .goesOn) (listens : u.Listens name) (choices : u.options ≠ [])
  | done (ended : r.outcome ≠ .goesOn) (closed : Over name continuation r u)

theorem Turns.awaits_iff (turns : Turns name continuation r u) :
    r.outcome = .goesOn ↔ u.conversation.state = .awaitingChoice := by
  cases turns with
  | on goesOn listens => exact ⟨fun _ => listens.state, fun _ => goesOn⟩
  | done ended closed =>
      exact ⟨fun goesOn => absurd goesOn ended,
        fun awaits => absurd (closed.state.symm.trans awaits) nofun⟩

/-- **A conclusion tells how the dialogue is over.** -/
theorem over_conclusion {v : World} {c : Character} {said : List Content} (v' : Conversation)
    (there : v.characters.get? name = some c) (interacted : c.interacted = true) :
    Over name continuation (conclusion v (.text name) continuation said)
      ⟨v, { v' with state := .terminated }⟩ := by
  refine ⟨rfl, ⟨c, there, interacted⟩, fun climax => ?_, fun far filled => ?_, fun far empty => ?_⟩
  · rw [conclusion, if_pos ((isClimax_text v name).mpr climax)]
    exact ⟨rfl, rfl⟩
  · rw [conclusion, if_neg fun climax => far ((isClimax_text v name).mp climax), if_pos filled]
    exact ⟨rfl, rfl⟩
  · rw [conclusion, if_neg fun climax => far ((isClimax_text v name).mp climax),
      if_neg (by rw [empty]; exact Bool.false_ne_true)]
    exact ⟨rfl, rfl⟩

/-- What a reaction leaves behind. -/
theorem turns_of_reacts {said : List Content} {x : Except Fault Reaction × Talk}
    (listens : u.Listens name) (reacts : Reacts m name u said x) :
    ∃ r v, x = (.ok r, v) ∧ Turns name u.conversation.continuation r v ∧
      v.world.dialogues = u.world.dialogues ∧ v.Concerns name u.conversation.continuation := by
  cases reacts with
  | asks choices listed =>
      exact ⟨_, _, rfl, .on rfl listens choices, rfl, listens.subject, rfl⟩
  | @closes last v ending world =>
      obtain ⟨c, there⟩ := (Roster.has_iff _).mp listens.known
      obtain ⟨notes, rfl⟩ := world
      refine ⟨_, _, rfl, .done (conclusion_outcome _ _ _ _) ?_, rfl, listens.subject, rfl⟩
      exact over_conclusion u.conversation (Roster.get?_update_self there _) rfl

/-- **A dialogue that begins** comes to something, and no line is used. -/
theorem start_turns (complete : m.IsComplete) (known : t.world.characters.has name = true)
    (continuation : Content) :
    ∃ r u, (start m (.text name) continuation).runOn t = (.ok r, u) ∧
      Turns name continuation r u ∧ u.world.dialogues = t.world.dialogues ∧
      u.Concerns name continuation := by
  obtain ⟨v, conversation, ⟨notes, e⟩, reacts⟩ := start_reacts complete known continuation
  have listens : v.Listens name := by
    refine ⟨?_, ?_, ?_, ?_⟩
    · rw [conversation]
      rfl
    · rw [conversation]
      rfl
    · rw [conversation]
      rfl
    · rw [e]
      exact known
  obtain ⟨r, u, run, turns, dialogues, concerns⟩ := turns_of_reacts listens reacts
  rw [conversation] at turns concerns
  refine ⟨r, u, run, turns, ?_, concerns⟩
  rw [dialogues, e]

/-- What a line that was said leaves alone, and what it does to the lines. -/
theorem Hears.scene {place : Nat} {line : PlayerLine} {said : List Content}
    (hears : Hears m name t place line said u) :
    u.world.characters = t.world.characters ∧
      u.world.dialogues = t.world.dialogues.update name fun d =>
        { d with lines := d.lines.modify place PlayerLine.spent } := by
  obtain ⟨told, ⟨notes, e⟩, notes', e'⟩ := hears.world
  have scene := World.sameScene_apply (t.consequence line) told
  have characters : (told.brought (t.consequence line)).characters = told.characters :=
    scene.characters
  have dialogues : (told.brought (t.consequence line)).dialogues = told.dialogues :=
    scene.dialogues
  rw [e']
  exact ⟨characters.trans (by rw [e]; rfl), dialogues.trans (by rw [e]; rfl)⟩

/-- A world that hosts dialogues lets every line have its effect. -/
theorem allows_of_hosts (hosts : t.world.Hosts) (subject : t.conversation.subject = some name)
    (line : PlayerLine) : t.world.Allows (t.consequence line) := by
  unfold consequence
  cases replies : t.replyTo line with
  | none => exact ⟨t.world, rfl⟩
  | some reply =>
      have mem : reply ∈ t.dialogue.replies := List.mem_of_find?_eq_some replies
      rw [dialogue_eq subject] at mem
      cases there : t.world.dialogues.get? name with
      | none =>
          rw [there] at mem
          exact absurd mem List.not_mem_nil
      | some d =>
          rw [there] at mem
          exact hosts.allows name d there reply mem

/-! ## 3. Calls -/

/-- Something that happens to a conversation. -/
inductive Call where
  | start (name : String) (continuation : Content)
  | choose (raw : String)
  /-- Something else has made a world of the world. -/
  | elsewhere (w : World)

/-- A dialogue begins. -/
def Call.begins : Call → Bool
  | .start .. => true
  | _ => false

/-- The outcome of a call, if it is one for the conversation, and the talk after it. -/
def called (m : Messages) (t : Talk) : Call → Option (Except Fault Reaction) × Talk
  | .start name continuation =>
    let x := (start m (.text name) continuation).runOn t
    (some x.1, x.2)
  | .choose raw =>
    let x := (choose m raw).runOn t
    (some x.1, x.2)
  | .elsewhere w => (none, { t with world := w })

/-- **The calls that are allowed**: the character that is addressed is there, a choice that is
    awaited is made in a world that hosts dialogues, and elsewhere no line is used and nobody
    goes. -/
def Admits (t : Talk) : Call → Prop
  | .start name _ => t.world.characters.has name = true
  | .choose _ => t.conversation.state = .awaitingChoice → t.world.Hosts
  | .elsewhere w => w.dialogues = t.world.dialogues ∧
      ∀ name, t.world.characters.has name = true → w.characters.has name = true

/-- The line that is chosen with a call: the character it is said to, and its place. -/
def accepted (t : Talk) : Call → Option (String × Nat)
  | .choose raw =>
    if t.conversation.state = .awaitingChoice then do
      let pick ← t.picked raw
      let name ← t.conversation.subject
      let place ← t.places[pick.1]?
      return (name, place)
    else none
  | _ => none

/-- A line is said to the character that the dialogue is with. -/
theorem accepted_concerns (concerns : t.Concerns name continuation) {call : Call}
    {at_ : String × Nat} (now : t.accepted call = some at_) : at_.1 = name := by
  cases call with
  | choose raw =>
      rw [accepted] at now
      by_cases awaits : t.conversation.state = .awaitingChoice
      · rw [if_pos awaits] at now
        obtain ⟨pick, -, now⟩ := Option.bind_eq_some_iff.mp now
        obtain ⟨whom, subject, now⟩ := Option.bind_eq_some_iff.mp now
        obtain ⟨place, -, now⟩ := Option.bind_eq_some_iff.mp now
        cases now
        exact Option.some.inj (subject.symm.trans concerns.subject)
      · rw [if_neg awaits] at now
        cases now
  | _ => cases now

/-- **A choice is awaited only if there is something to choose.** -/
def Ready (t : Talk) : Prop :=
  t.conversation.state = .awaitingChoice → ∃ name, t.Listens name ∧ t.options ≠ []

theorem ready_of_turns (turns : Turns name continuation r u) : u.Ready := by
  intro awaits
  cases turns with
  | on goesOn listens choices => exact ⟨name, listens, choices⟩
  | done ended closed => exact absurd (closed.state.symm.trans awaits) nofun

/-- A choice that is awaited chooses the line that it picks. -/
theorem accepted_eq (listens : t.Listens name) (raw : String) : t.accepted (.choose raw) =
    (t.picked raw).bind fun pick => (t.places[pick.1]?).map fun place => (name, place) := by
  simp only [accepted, if_pos listens.state, listens.subject]
  cases t.picked raw with
  | none => rfl
  | some pick => cases h : t.places[pick.1]? <;> simp [h]

/-- **A choice** comes to something, and uses the line that it picks. -/
theorem choose_turns (complete : m.IsComplete) (hosts : t.world.Hosts) (listens : t.Listens name)
    (choices : t.options ≠ []) (raw : String) :
    ∃ r u, (choose m raw).runOn t = (.ok r, u) ∧ Turns name t.conversation.continuation r u ∧
      u.Concerns name t.conversation.continuation ∧
      World.Uses t.world u.world (t.accepted (.choose raw)) := by
  rw [accepted_eq listens]
  cases picked : t.picked raw with
  | none =>
      obtain ⟨r, run, goesOn⟩ :=
        choose_again complete listens.state listens.character picked
      exact ⟨r, t, run, .on goesOn listens choices, ⟨listens.subject, rfl⟩, .none rfl⟩
  | some pick =>
      obtain ⟨k, line⟩ := pick
      obtain ⟨place, at_, -⟩ := Dialogue.openPlaces_of_line (picked_option picked)
      obtain ⟨v, said, hears, reacts⟩ := say_reacts complete listens hosts.placed at_
        (allows_of_hosts hosts listens.subject line)
      rw [← choose_picked listens.state listens.character picked] at reacts
      obtain ⟨characters, dialogues⟩ := hears.scene
      have hearing := hears.listens listens (characters ▸ listens.known)
      obtain ⟨r, u, run, turns, same, concerns⟩ := turns_of_reacts hearing reacts
      rw [hears.conversation] at turns concerns
      refine ⟨r, u, run, turns, concerns, ?_⟩
      have used : (t.places[k]?).map (fun place => (name, place)) = some (name, place) :=
        congrArg (Option.map fun place => (name, place)) at_
      rw [Option.bind_some, used]
      obtain ⟨d, line', kept, -, stands, unused⟩ := places_stand listens.subject at_
      exact .line kept stands unused (same.trans dialogues)

/-- **What a call leaves behind.** -/
structure Passes (t : Talk) (call : Call) (x : Option (Except Fault Reaction) × Talk) : Prop where
  ready : x.2.Ready
  uses : World.Uses t.world x.2.world (t.accepted call)
  /-- Whether a choice is awaited, the latest reaction tells. -/
  told : x.2.conversation.state = .awaitingChoice ↔
    match x.1.bind Except.toOption with
    | some r => r.outcome = .goesOn
    | none => t.conversation.state = .awaitingChoice
  /-- Only a dialogue that begins is with somebody else. -/
  same : call.begins = false → ∀ name continuation, t.Concerns name continuation →
    x.2.Concerns name continuation

/-- **What every call that is allowed leaves behind.** -/
theorem called_passes (complete : m.IsComplete) (ready : t.Ready) {call : Call}
    (admits : t.Admits call) : Passes t call (t.called m call) := by
  cases call with
  | start name continuation =>
      obtain ⟨r, u, run, turns, dialogues, -⟩ := start_turns (t := t) complete admits continuation
      simp only [called, run]
      exact ⟨ready_of_turns turns, .none dialogues, turns.awaits_iff.symm, nofun⟩
  | choose raw =>
      by_cases awaits : t.conversation.state = .awaitingChoice
      · obtain ⟨name, listens, choices⟩ := ready awaits
        obtain ⟨r, u, run, turns, concerns, uses⟩ :=
          choose_turns complete (admits awaits) listens choices raw
        simp only [called, run]
        refine ⟨ready_of_turns turns, uses, turns.awaits_iff.symm, fun _ name' continuation at_ => ?_⟩
        have whom : name = name' :=
          Option.some.inj (listens.subject.symm.trans at_.subject)
        rw [← whom, ← at_.continuation]
        exact concerns
      · simp only [called, choose_unasked awaits]
        refine ⟨ready, ?_, .rfl, fun _ _ _ at_ => at_⟩
        rw [accepted, if_neg awaits]
        exact .none rfl
  | elsewhere w =>
      obtain ⟨dialogues, known⟩ := admits
      refine ⟨fun awaits => ?_, .none dialogues, .rfl, fun _ _ _ at_ => ⟨at_.subject, at_.continuation⟩⟩
      obtain ⟨name, listens, choices⟩ := ready awaits
      refine ⟨name, ⟨awaits, listens.character, listens.subject, known name listens.known⟩, ?_⟩
      have same : (⟨w, t.conversation⟩ : Talk).options = t.options := by
        unfold options dialogue
        rw [dialogues]
      exact fun nothing => choices (same.symm.trans nothing)

/-! ## 4. Runs of calls -/

/-- The talk after some calls. -/
def after (m : Messages) : Talk → List Call → Talk
  | t, [] => t
  | t, call :: calls => after m (t.called m call).2 calls

/-- The calls, each with the talk in which it is made. -/
def trace (m : Messages) : Talk → List Call → List (Talk × Call)
  | _, [] => []
  | t, call :: calls => (t, call) :: trace m (t.called m call).2 calls

/-- **Every call is allowed** where it is made. -/
def Admitted (m : Messages) (t : Talk) (calls : List Call) : Prop :=
  ∀ made ∈ trace m t calls, made.1.Admits made.2

/-- **The lines that are chosen**, each with the character it is said to. -/
def chosen (m : Messages) (t : Talk) (calls : List Call) : List (String × Nat) :=
  (trace m t calls).filterMap fun made => made.1.accepted made.2

/-- The reactions to the calls. A call that comes to a fault has none. -/
def reactions (m : Messages) (t : Talk) (calls : List Call) : List Reaction :=
  (trace m t calls).filterMap fun made => (made.1.called m made.2).1.bind Except.toOption

variable {call : Call} {calls : List Call}

theorem admitted_cons : Admitted m t (call :: calls) ↔
    t.Admits call ∧ Admitted m (t.called m call).2 calls := List.forall_mem_cons

theorem chosen_cons : chosen m t (call :: calls) =
    (t.accepted call).toList ++ chosen m (t.called m call).2 calls := by
  unfold chosen
  rw [trace, List.filterMap_cons]
  cases h : t.accepted call <;> rfl

theorem reactions_cons : reactions m t (call :: calls) =
    ((t.called m call).1.bind Except.toOption).toList ++
      reactions m (t.called m call).2 calls := by
  unfold reactions
  rw [trace, List.filterMap_cons]
  cases (t.called m call).1.bind Except.toOption <;> rfl

section Documented

variable {b : World} (complete : m.IsComplete)
  (documented : ∀ effect ∈ b.effects, effect.isDocumented true = true)

include complete documented

/-- **In a documented adventure every answer is allowed**, as long as a talk is in order. -/
theorem admitted_of_order
    (order : t.conversation.state = .awaitingChoice → ∃ name, InOrder b name t)
    (choices : ∀ call ∈ calls, ∃ raw, call = .choose raw) : Admitted m t calls := by
  induction calls generalizing t with
  | nil => exact fun _ mem => absurd mem List.not_mem_nil
  | cons call calls ih =>
      obtain ⟨⟨raw, choice⟩, choices⟩ := List.forall_mem_cons.mp choices
      rw [choice]
      refine admitted_cons.mpr ⟨fun awaits => ?_, ih (fun awaits => ?_) choices⟩
      · obtain ⟨name, order⟩ := order awaits
        exact World.hosts_of_sane documented order.sane order.placed
      · by_cases before : t.conversation.state = .awaitingChoice
        · obtain ⟨name, order⟩ := order before
          obtain ⟨r, u, run⟩ := choose_comes complete documented order raw
          simp only [called, run] at awaits ⊢
          exact ⟨name, (inOrder_choose complete documented order run awaits).1⟩
        · simp only [called, choose_unasked before] at awaits
          exact absurd awaits before

/-- A dialogue may begin with whoever is there, and be led with any answers. -/
theorem admitted_of_sane (sane : World.Sane b w) (placed : w.IsPlaced)
    (known : w.characters.has name = true)
    (choices : ∀ call ∈ calls, ∃ raw, call = .choose raw) (v : Conversation) :
    Admitted m ⟨w, v⟩ (.start name continuation :: calls) := by
  refine admitted_cons.mpr ⟨known, admitted_of_order complete documented (fun awaits => ?_) choices⟩
  obtain ⟨r, u, run, -⟩ := start_turns (t := ⟨w, v⟩) complete known continuation
  simp only [called, run] at awaits ⊢
  exact ⟨name, inOrder_begun complete sane placed run awaits⟩

end Documented

section Runs

variable (complete : m.IsComplete) (ready : t.Ready) (admitted : Admitted m t calls)

include complete ready admitted

theorem ready_after : (after m t calls).Ready := by
  induction calls generalizing t with
  | nil => exact ready
  | cons call calls ih =>
      obtain ⟨admits, admitted⟩ := admitted_cons.mp admitted
      exact ih (called_passes complete ready admits).ready admitted

/-- Only a line that has not been said is chosen. -/
theorem chosen_unspent : ∀ at_ ∈ chosen m t calls, ¬ t.world.HasSpent at_ := by
  induction calls generalizing t with
  | nil => exact fun _ mem => absurd mem List.not_mem_nil
  | cons call calls ih =>
      obtain ⟨admits, admitted⟩ := admitted_cons.mp admitted
      have passes := called_passes complete ready admits
      intro at_ mem spent
      rw [chosen_cons, List.mem_append, Option.mem_toList] at mem
      rcases mem with now | later
      · have uses := passes.uses
        rw [now] at uses
        exact uses.spends.1 spent
      · exact ih passes.ready admitted at_ later (passes.uses.keeps spent)

/-- **No line is chosen twice.** -/
theorem chosen_nodup : (chosen m t calls).Nodup := by
  induction calls generalizing t with
  | nil => exact List.nodup_nil
  | cons call calls ih =>
      obtain ⟨admits, admitted⟩ := admitted_cons.mp admitted
      have passes := called_passes complete ready admits
      have later := ih passes.ready admitted
      rw [chosen_cons]
      cases now : t.accepted call with
      | none => exact later
      | some at_ =>
          have uses := passes.uses
          rw [now] at uses
          refine List.nodup_cons.mpr ⟨fun again => ?_, later⟩
          exact chosen_unspent complete passes.ready admitted at_ again uses.spends.2

/-- **Whether a choice is awaited, the latest reaction tells.** -/
theorem awaits_after : (after m t calls).conversation.state = .awaitingChoice ↔
    match (reactions m t calls).getLast? with
    | some r => r.outcome = .goesOn
    | none => t.conversation.state = .awaitingChoice := by
  induction calls generalizing t with
  | nil => exact .rfl
  | cons call calls ih =>
      obtain ⟨admits, admitted⟩ := admitted_cons.mp admitted
      have passes := called_passes complete ready admits
      have later := ih passes.ready admitted
      rw [reactions_cons, List.getLast?_append]
      cases last : (reactions m (t.called m call).2 calls).getLast? with
      | some r =>
          rw [last] at later
          exact later
      | none =>
          rw [last] at later
          have told := later.trans passes.told
          cases now : (t.called m call).1.bind Except.toOption with
          | none =>
              rw [now] at told
              exact told
          | some r =>
              rw [now] at told
              exact told

section Sessions

variable (within : ∀ call ∈ calls, call.begins = false)

include within

/-- Until another one begins, a dialogue stays with its character. -/
theorem concerns_after (concerns : t.Concerns name continuation) :
    (after m t calls).Concerns name continuation := by
  induction calls generalizing t with
  | nil => exact concerns
  | cons call calls ih =>
      obtain ⟨admits, admitted⟩ := admitted_cons.mp admitted
      obtain ⟨here, within⟩ := List.forall_mem_cons.mp within
      have passes := called_passes complete ready admits
      exact ih passes.ready admitted within (passes.same here _ _ concerns)

/-- **With every choice one line less is left.** -/
theorem chosen_unsaid (concerns : t.Concerns name continuation) :
    (chosen m t calls).length + (after m t calls).world.unsaid name = t.world.unsaid name := by
  induction calls generalizing t with
  | nil => exact Nat.zero_add _
  | cons call calls ih =>
      obtain ⟨admits, admitted⟩ := admitted_cons.mp admitted
      obtain ⟨here, within⟩ := List.forall_mem_cons.mp within
      have passes := called_passes complete ready admits
      have later := ih passes.ready admitted within (passes.same here _ _ concerns)
      have uses := passes.uses
      rw [chosen_cons, List.length_append, Nat.add_assoc]
      show _ + ((chosen m (t.called m call).2 calls).length +
        (after m (t.called m call).2 calls).world.unsaid name) = _
      rw [later]
      cases now : t.accepted call with
      | none =>
          rw [now] at uses
          cases uses with
          | none same =>
              unfold World.unsaid
              rw [same]
              exact Nat.zero_add _
      | some at_ =>
          obtain ⟨whom, place⟩ := at_
          obtain rfl : whom = name := accepted_concerns concerns now
          rw [now] at uses
          exact (Nat.add_comm 1 _).trans uses.unsaid

end Sessions

end Runs

/-! ## 5. Dialogues end -/

end Talk

end Adventure
