import Adventure.Proofs.Turn.Dispatch
import Adventure.Proofs.World.Consequence

/-!
# What the rules come to that need their host

* `World.woken`, `World.struck`, `World.vanquished`: the worlds that a look and a shot lead to;
* `examine_run`: **looking at something changes nothing, or wakes the antagonist**;
* `Setting.Hits`: a shot that the antagonist has to count;
* `shoot_misses`, `shoot_hits`: **a shot changes nothing, or takes one health from it**, and the last
  one is its end;
* `ruleFor?_hosted`: what each rule asks of its host.
-/

namespace Adventure

open Outcome

/-! ## 1. Worlds -/

namespace World

/-- The world in which the antagonist has woken. -/
def woken (w : World) : World :=
  { w with flags := w.flags.set .antagonistActive true }.noted
    ("flag " ++ Flag.antagonistActive.word ++ " " ++ (Content.bool true).shown)

/-- The world in which the antagonist is left with some health. -/
def struck (a : Antagonist) (health : Int) (w : World) : World :=
  (w.updateCharacter a.character (fun c => { c with health := .number health })).noted
    ("character " ++ a.character ++ " health " ++ (Figure.number health).shown)

/-- The world in which the antagonist is dead. -/
def vanquished (w : World) : World :=
  { w with flags := w.flags.set .antagonistDefeated true }.noted
    ("flag " ++ Flag.antagonistDefeated.word ++ " " ++ (Content.bool true).shown)

theorem setHealth_run {w : World} {a : Antagonist} {ch : Character} (health : Int)
    (there : w.characters.get? a.character = some ch) :
    (setHealth (.text a.character) (.number health)).runOn w = (.ok (), w.struck a health) := by
  unfold setHealth
  rw [Act.runOn_bind_ok (known_run there)]
  rfl

end World

/-! ## 2. Steps on a stage -/

namespace Stage

variable {σ α β : Type}

/-- Asking changes nothing. -/
theorem ask_elim {f : World → Except Fault α} {k : α → Act (Stage σ) β} {p : Stage σ}
    {C : Stage σ → Prop} (stop : C p)
    (goesOn : ∀ x, f p.world = .ok x → C ((k x).runOn p).2) :
    C ((ask f >>= k).runOn p).2 := by
  have asked : (ask f).runOn p = (f p.world, p) := rfl
  rw [Act.runOn_bind, asked]
  cases h : f p.world with
  | error e => exact stop
  | ok x => exact goesOn x h

/-- What the world has an answer to is answered, and nothing changes. -/
theorem ask_run {f : World → Except Fault α} {p : Stage σ} {x : α} (h : f p.world = .ok x) :
    (ask f).runOn p = (.ok x, p) :=
  Prod.ext h rfl

theorem onWorld_run {a : Act World α} {p : Stage σ} {r : Except Fault α} {v : World}
    (h : a.runOn p.world = (r, v)) : (onWorld a).runOn p = (r, { p with world := v }) := by
  show ((a.runOn p.world).1, ({ p with world := (a.runOn p.world).2 } : Stage σ)) = _
  rw [h]

end Stage

namespace Setting

variable {σ : Type} (s : Setting σ) (i : Intent) {p : Stage σ}

/-! ## 3. Examine -/

/-- **Looking at something changes nothing, or wakes the antagonist**: then the warnings begin. -/
theorem examine_run (clean : p.world.flags.IsClean) :
    ((s.examine i).runOn p).2 = p ∨
      (p.world.inLair = true ∧ p.world.isAsleep = .ok true ∧
        ((s.examine i).runOn p).2 =
          (s.hooks.startTicker.runOn { p with world := p.world.woken }).2) := by
  let C (q : Stage σ) : Prop := q = p ∨ (p.world.inLair = true ∧ p.world.isAsleep = .ok true ∧
    q = (s.hooks.startTicker.runOn { p with world := p.world.woken }).2)
  show C _
  have same : C p := .inl rfl
  unfold examine
  split
  · refine Stage.ask_elim same fun dark _ => ?_
    split
    · exact same
    · rw [Act.runOn_bind_ok (Act.runOn_get p)]
      split
      · next a lair =>
          have inLair := (Option.filter_eq_some_iff.mp lair).2
          simp only [decide_eq_true_eq] at inLair
          unfold examineLair
          refine Stage.ask_elim same fun asleep sleeps => ?_
          split
          · next wakes =>
              subst wakes
              refine .inr ⟨inLair.2, sleeps, ?_⟩
              have woken := Stage.onWorld_run (p := p)
                (World.setFlag_run clean.1 .antagonistActive true)
              rw [Act.runOn_bind_ok woken]
              exact Act.runOn_bind_snd fun _ _ => rfl
          · rw [Act.runOn_bind_ok (Act.runOn_get p)]
            split
            · exact same
            · exact same
      · unfold describeItem
        refine Stage.ask_elim same fun item _ => ?_
        simp only
        split
        · exact same
        · exact same
  · exact same

/-! ## 4. Shoot -/

/-- **A shot that the antagonist has to count**: it is aimed at its character, which has some health
    left, in the lair of an antagonist that has been woken. -/
structure Hits (i : Intent) (w : World) (a : Antagonist) (ch : Character) (n : Int) : Prop where
  antagonist : w.scenario.antagonist = some a
  aimed : i.character = some a.character
  there : w.characters.get? a.character = some ch
  exposed : w.isExposed = .ok true
  health : ch.health = .number n
  alive : 0 < n

/-- **A shot that does not count changes nothing.** -/
theorem shoot_misses (p : Stage σ) :
    ((s.shoot i).runOn p).2 = p ∨ ∃ a ch n, Hits i p.world a ch n := by
  let C (q : Stage σ) : Prop := q = p ∨ ∃ a ch n, Hits i p.world a ch n
  show C _
  have same : C p := .inl rfl
  unfold shoot
  split
  · exact same
  · next id aimed =>
      refine Stage.ask_elim same fun ch there => ?_
      obtain ⟨_, e, there⟩ := Roster.demand_eq_ok there
      cases e
      rw [Act.runOn_bind_ok (Act.runOn_get p)]
      simp only
      split
      · unfold spare
        rw [Act.runOn_bind_ok (Act.runOn_get p)]
        split
        · exact same
        · exact same
      · next a target =>
          obtain ⟨antagonist, name⟩ := Option.filter_eq_some_iff.mp target
          simp only [decide_eq_true_eq] at name
          subst name
          refine Stage.ask_elim same fun exposed isExposed => ?_
          split
          · next shown =>
              subst shown
              cases health : ch.health with
              | word => exact same
              | number n =>
                  by_cases alive : 0 < n
                  · exact .inr ⟨a, ch, n, antagonist, aimed, there, isExposed, health, alive⟩
                  · simp only [hit]
                    rw [if_pos (by omega)]
                    exact same
          · exact same

/-- What is said when the antagonist dies: about the last hit, and about its end, as far as there is
    something to say. -/
def epitaph (a : Antagonist) : String :=
  "\n\n".intercalate ([hitText a 1, a.defeat].filter (· ≠ ""))

/-- A shot at the antagonist, where it is to be seen, is one that it may have to count. -/
theorem shoot_exposed {a : Antagonist} {ch : Character}
    (antagonist : p.world.scenario.antagonist = some a) (aimed : i.character = some a.character)
    (there : p.world.characters.get? a.character = some ch)
    (exposed : p.world.isExposed = .ok true) :
    (s.shoot i).runOn p = (s.hit a ch.health).runOn p := by
  have demanded : (Stage.ask (fun w => w.characters.demand (.text a.character))).runOn p =
      (.ok ch, p) := by
    show (p.world.characters.demand (.text a.character), p) = _
    rw [Roster.demand_text there]
  have asked : (Stage.ask World.isExposed).runOn p = (.ok true, p) := by
    show (p.world.isExposed, p) = _
    rw [exposed]
  have target : p.world.scenario.antagonist.filter (fun a' => a'.character = a.character) =
      some a := by
    rw [antagonist, Option.filter_some, if_pos (by simp)]
  unfold shoot
  simp only [aimed]
  rw [Act.runOn_bind_ok demanded, Act.runOn_bind_ok (Act.runOn_get p)]
  simp only [target]
  rw [Act.runOn_bind_ok asked, if_pos rfl]

/-- **What a shot takes from the antagonist.** Its last health is its end: the warnings end too. -/
theorem shoot_hits {a : Antagonist} {ch : Character} {n : Int} (plain : p.world.flags.IsPlain)
    (stops : ∀ p, ∃ q, s.hooks.stopTicker.runOn p = (.ok (), q)) (h : Hits i p.world a ch n) :
    (1 < n ∧ (s.shoot i).runOn p =
        (.ok (.text (hitText a n)), { p with world := p.world.struck a (n - 1) })) ∨
      (n = 1 ∧ ∃ q r notes, s.hooks.stopTicker.runOn
          { p with world := (p.world.struck a 0).vanquished } = (.ok (), q) ∧
        (s.shoot i).runOn p = (r, { q with world := { q.world.refreshed true with notes } }) ∧
        (q.world.IsPlaced → r = .ok (.text (epitaph a)))) := by
  obtain ⟨antagonist, aimed, there, exposed, health, alive⟩ := h
  have hits : (s.shoot i).runOn p = (s.hit a (.number n)).runOn p := by
    rw [shoot_exposed s i antagonist aimed there exposed, health]
  rw [hits]
  simp only [hit]
  rw [if_neg (by omega), Act.runOn_bind_ok (Stage.onWorld_run (World.setHealth_run _ there))]
  by_cases more : 0 < n - 1
  · rw [if_pos more]
    exact .inl ⟨by omega, rfl⟩
  · have last : n = 1 := by omega
    subst last
    rw [if_neg more]
    unfold defeat
    obtain ⟨q, hq⟩ := stops { p with world := (p.world.struck a 0).vanquished }
    have plain' : (p.world.struck a 0).flags.IsPlain := plain
    have ended : (Stage.onWorld (World.setFlag Flag.antagonistDefeated.word (.bool true))).runOn
        { p with world := p.world.struck a 0 } =
          (.ok (), { p with world := (p.world.struck a 0).vanquished }) :=
      Stage.onWorld_run (World.setFlag_run plain' .antagonistDefeated true)
    obtain ⟨r, notes, seen, comes⟩ := World.refreshObservation_run true q.world
    rw [Int.sub_self, Act.runOn_bind_ok ended, Act.runOn_bind_ok hq]
    cases r with
    | error e =>
        refine .inr ⟨rfl, q, _, notes, hq, Act.runOn_bind_error (Stage.onWorld_run seen),
          fun placed => ?_⟩
        cases comes.mpr placed
    | ok =>
        refine .inr ⟨rfl, q, _, notes, hq, ?_, fun _ => rfl⟩
        rw [Act.runOn_bind_ok (Stage.onWorld_run seen)]
        rfl

/-! ## 5. Hosts -/

variable (h : Hooks σ)

/-- The same surroundings with another host. -/
def hosted : Setting σ := { s with hooks := h }

theorem inventoryRows_hosted (items : List (String × Item)) :
    (s.hosted h).inventoryRows items = s.inventoryRows items := by
  induction items with
  | nil => rfl
  | cons e items ih =>
      unfold inventoryRows
      rw [ih]
      rfl

theorem firstRefusal_hosted (gates : List Gate) :
    (s.hosted h).firstRefusal gates = s.firstRefusal gates := by
  induction gates with
  | nil => rfl
  | cons gate gates ih =>
      unfold firstRefusal
      rw [ih]
      rfl

theorem inventory_hosted : (s.hosted h).inventory i = s.inventory i := by
  unfold inventory
  simp only [inventoryRows_hosted]
  rfl

theorem move_hosted : (s.hosted h).move i = s.move i := by
  unfold move setOff entryRefusal
  simp only [firstRefusal_hosted]
  rfl

/-- **What the rules ask of their host**: to begin a dialogue, to save, to start and to stop the
    ticker, each of them one thing, and most of them nothing. -/
theorem ruleFor?_hosted {verb : Verb}
    (talk : verb = .talk → h.beginDialogue = s.hooks.beginDialogue)
    (save : verb = .save → h.save = s.hooks.save)
    (examine : verb = .examine → h.startTicker = s.hooks.startTicker)
    (shoot : verb = .shoot → h.stopTicker = s.hooks.stopTicker) :
    (s.hosted h).ruleFor? verb = s.ruleFor? verb := by
  cases verb
  case inventory => exact congrArg some (funext fun i => s.inventory_hosted i h)
  case move => exact congrArg some (funext fun i => s.move_hosted i h)
  case talk =>
    have talk := talk rfl
    cases h
    subst talk
    rfl
  case save =>
    have save := save rfl
    cases h
    subst save
    rfl
  case examine =>
    have examine := examine rfl
    cases h
    subst examine
    rfl
  case shoot =>
    have shoot := shoot rfl
    cases h
    subst shoot
    rfl
  all_goals rfl

/-- A turn with a host that does what the rule of the verb asks of it. -/
theorem dispatch_hosted (hear : Content → Act (Stage σ) Unit)
    (same : ∀ verb, i.verb? = some verb → (s.hosted h).ruleFor? verb = s.ruleFor? verb) :
    Turn.dispatch s.messages hear s.rules i =
      Turn.dispatch (s.hosted h).messages hear (s.hosted h).rules i := by
  rw [dispatch_rules s, dispatch_rules (s.hosted h)]
  unfold route
  cases hv : i.verb? with
  | none => rfl
  | some verb =>
      simp only [same verb hv]

end Setting

end Adventure
