import Adventure.Proofs.Turn.Handle
import Adventure.Proofs.Turn.Look
import Adventure.Proofs.Turn.Meet
import Adventure.Proofs.Turn.Move
import Adventure.Turn.Dispatch

/-!
# A turn meets the terms

* `askAll_rules`: of all rules the one that the verb belongs to says something;
* `dispatch_rules`: **a turn that asks all rules is a turn that asks the one rule of the verb**;
* `silent_quit`: nobody answers who wants to quit;
* `dispatch_routes`: what a turn is for every intent, for those too that no line asks for;
* `meets_dispatch`: a turn meets the terms of its stage.
-/

namespace Adventure

/-! ## 1. One rule for each verb -/

section Rules

variable {σ : Type}

/-- **Of all rules the one that the verb belongs to says something.** -/
theorem askAll_rules (s : Setting σ) {i : Intent} {verb : Verb} (h : i.verb? = some verb) :
    (do
      let sayings ← Turn.askAll i s.rules
      pure (sayings.filter Content.isFilled)) =
    (do
      let saying ← match s.ruleFor? verb with
        | some rule => rule i
        | none => pure (.text "")
      pure ([saying].filter Content.isFilled)) := by
  have silent : Content.isFilled (.text "") = false := rfl
  cases verb
  all_goals
    simp only [Setting.rules, Turn.askAll, Rule.onlyFor, h, Option.some.injEq, reduceCtorEq,
      if_true, if_false, pure_bind, bind_assoc, Setting.ruleFor?, List.filter_cons,
      List.filter_nil, silent, Bool.false_eq_true]

/-- **A turn that asks all rules is a turn that asks the one rule of the verb.** -/
theorem dispatch_rules (s : Setting σ) (hear : Content → Act (Stage σ) Unit) (i : Intent) :
    Turn.dispatch s.messages hear s.rules i = s.route hear i := by
  unfold Turn.dispatch Setting.route
  cases hc : i.command with
  | none =>
      have hv : i.verb? = none := by simp [Intent.verb?, hc]
      simp only [hv]
      rfl
  | some command =>
      have hv : i.verb? = some command.verb := by simp [Intent.verb?, hc]
      simp only [hv]
      congr 1
      funext p
      have asked := congrArg
        (fun said => said >>= Turn.withArrival hear p.world.current) (askAll_rules s hv)
      cases hr : s.ruleFor? command.verb with
      | none => simpa only [hr, bind_assoc, pure_bind] using asked
      | some rule => simpa only [hr, bind_assoc, pure_bind] using asked

/-- The rule has nothing to do with an intent: it says the empty text and does nothing. -/
def Rule.IsSilent (rule : Rule σ) (i : Intent) : Prop := rule i = pure (.text "")

/-- No rule answers who wants to quit. -/
theorem silent_quit (s : Setting σ) {i : Intent} (h : i.verb? = some .quit) :
    ∀ rule ∈ s.rules, rule.IsSilent i := by
  simp [Setting.rules, Rule.IsSilent, Rule.onlyFor, h]

/-- Nobody has come into another room who is where they were. A place that is not even the same as
    itself is none that can be described. -/
theorem withArrival_stays (hear : Content → Act (Stage σ) Unit) (lines : List Content)
    (p : Stage σ) :
    ((Turn.withArrival hear p.world.current lines).runOn p).2 = p ∧
      (p.world.current.same p.world.current = true →
        (Turn.withArrival hear p.world.current lines).runOn p = (.ok lines, p)) := by
  unfold Turn.withArrival
  rw [Act.runOn_bind_ok (Act.runOn_get p)]
  by_cases here : p.world.current.same p.world.current = true
  · rw [if_pos here]
    exact ⟨rfl, fun _ => rfl⟩
  · rw [if_neg here]
    refine ⟨?_, fun same => absurd same here⟩
    have asked : (Stage.ask World.description).runOn p = (p.world.description, p) := rfl
    cases described : p.world.description with
    | error e => rw [Act.runOn_bind_error (asked.trans (by rw [described]))]
    | ok text =>
        obtain ⟨room, found, -⟩ := Outcome.map_eq_ok.mp described
        obtain ⟨name, e, -⟩ := Roster.demand_eq_ok found
        rw [e] at here
        exact absurd (by simp) here

/-- What a turn comes to with somebody who wants to quit: nothing but the place is looked at. -/
theorem dispatch_quit (s : Setting σ) (hear : Content → Act (Stage σ) Unit) {i : Intent}
    (h : i.verb? = some .quit) (p : Stage σ) :
    (Turn.dispatch s.messages hear s.rules i).runOn p =
      (Turn.withArrival hear p.world.current []).runOn p := by
  rw [dispatch_rules]
  unfold Setting.route
  simp only [h, Setting.ruleFor?, pure_bind]
  rw [Act.runOn_bind_ok (Act.runOn_get p)]
  rfl

/-- **What a turn is, whatever the intent, the state and the host.** It is the rule of the verb, and
    the arrival if the room is another one; nobody answers who wants to quit, and nothing changes;
    and no rule is asked about a verb that was not understood. -/
theorem dispatch_routes (s : Setting σ) (hear : Content → Act (Stage σ) Unit) (i : Intent) :
    Turn.dispatch s.messages hear s.rules i = s.route hear i ∧
      (i.verb? = some .quit → (∀ rule ∈ s.rules, rule.IsSilent i) ∧
        ∀ p, ((Turn.dispatch s.messages hear s.rules i).runOn p).2 = p ∧
          (p.world.current.same p.world.current = true →
            (Turn.dispatch s.messages hear s.rules i).runOn p = (.ok [], p))) ∧
      (i.command = none → ∀ rules, Turn.dispatch s.messages hear rules i = do
        return [← s.say .notUnderstood]) := by
  refine ⟨dispatch_rules s hear i, fun quits => ⟨silent_quit s quits, fun p => ?_⟩,
    fun none rules => ?_⟩
  · rw [dispatch_quit s hear quits]
    exact withArrival_stays hear [] p
  · unfold Turn.dispatch
    simp only [none]
    rfl

/-- Who goes from the hall to the yard arrives there, and the host hears of it once; who wants to
    quit in the hall stays there without an answer, and so does who says something else. -/
theorem dispatch_routes_hall : ∃ (s : Setting (List Content))
    (hear : Content → Act (Stage (List Content)) Unit) (p : Stage (List Content))
    (north quit other : Intent),
    north.verb? = some .move ∧ quit.verb? = some .quit ∧ other.command = none ∧
      p.world.current.same p.world.current = true ∧
      (∃ q, (Turn.dispatch s.messages hear s.rules north).runOn p =
          (.ok [.text "Yard\n\nNothing but sky."], q) ∧
        q.world.current = .text "yard" ∧ q.host = [.text "yard"]) ∧
      (Turn.dispatch s.messages hear s.rules quit).runOn p = (.ok [], p) ∧
      (Turn.dispatch s.messages hear s.rules other).runOn p = (.ok [.text "What?"], p) := by
  let s : Setting (List Content) :=
    { messages := ⟨.mapping [(Phrase.notUnderstood.word, .text "What?")]⟩, catalogue := []
      hooks := ⟨fun _ => pure .null, pure (), pure (), pure (), none⟩ }
  let hear (place : Content) : Act (Stage (List Content)) Unit :=
    modify fun p => { p with host := place :: p.host }
  let north : Intent := { command := some ⟨⟨"go", []⟩, .move⟩, direction := some .north }
  let quit : Intent := { command := some ⟨⟨"quit", []⟩, .quit⟩ }
  let other : Intent := { command := none }
  let world : World :=
    { rooms := ⟨[("hall", { name := "Hall", description := "", exits := [(.north, "yard")] }),
        ("yard", { name := "Yard", description := "Nothing but sky." })], by decide⟩
      items := .empty, characters := .empty, dialogues := .empty, actions := []
      scenario := {}, flags := {}, current := .text "hall", intro := .null
      origin := ⟨[], [], [], {}⟩, notes := [] }
  let p : Stage (List Content) := ⟨world, {}, []⟩
  have goes := (dispatch_routes s hear north).1
  have quits := (dispatch_routes s hear quit).2.1 rfl
  have unknown := (dispatch_routes s hear other).2.2 rfl s.rules
  refine ⟨s, hear, p, north, quit, other, rfl, rfl, rfl, rfl, ?_, (quits.2 p).2 rfl, ?_⟩
  · rw [goes]
    exact ⟨((s.route hear north).runOn p).2, rfl, rfl, rfl⟩
  · rw [unknown]
    rfl

end Rules

/-! ## 2. Turns -/

namespace Setting.Suits

open Outcome Terms

variable {σ : Type} {s : Setting σ} {b before : World} {i : Intent} {T : Terms (Stage σ)}

/-- The player has come into another room. -/
theorem meets_announceRoom {c : Cause} {P : Stage σ → Prop} (S : s.Suits b c T)
    {hear : Content → Act (Stage σ) Unit}
    (hears : ∀ place, T.Meets (fun _ => True) (hear place) (fun _ _ => True)) :
    T.Meets P (Turn.announceRoom hear) (fun _ _ => True) := by
  unfold Turn.announceRoom
  refine S.meets_look (fun p q notes e => ?_) fun p _ _ => ?_
  · simp only [e]
  · refine meets_bind (S.meets_world (World.meets_note (P := fun _ => True) _ fun _ _ => trivial)
      fun _ _ _ => trivial) fun _ => ?_
    exact hears _

variable (S : s.Suits b (.command s.messages before i) T)
variable {hear : Content → Act (Stage σ) Unit}
variable (hears : ∀ place, T.Meets (fun _ => True) (hear place) (fun _ _ => True))

include S

theorem meets_rule {verb : Verb} (h : i.verb? = some verb) {rule : Rule σ}
    (hr : s.ruleFor? verb = some rule) :
    T.Meets (Stage.Begins before i) (rule i) (fun _ _ => True) := by
  cases verb
  case quit => cases hr
  all_goals
    simp only [ruleFor?, Option.some.injEq] at hr
    subst hr
  · exact S.meets_inventory
  · exact S.meets_talk
  · exact S.meets_take h
  · exact S.meets_move h
  · exact S.meets_observe
  · exact S.meets_use
  · exact s.activate_eq i ▸ S.meets_turnTo true h
  · exact s.deactivate_eq i ▸ S.meets_turnTo false h
  · exact S.meets_help
  · exact S.meets_read
  · exact S.meets_examine h
  · exact S.meets_shoot h
  · exact S.meets_save h

include hears

/-- The player is told where the turn has led. -/
theorem meets_withArrival {P : Stage σ → Prop} (place : Content) (lines : List Content) :
    T.Meets P (Turn.withArrival hear place lines) (fun _ _ => True) := by
  unfold Turn.withArrival
  refine S.meets_look (fun p q notes e => ?_) fun p _ _ => ?_
  · simp only [e]
  · split
    · exact meets_return _
    · refine meets_bind (S.meets_ask (fun _ _ => rfl)
        (fun p _ _ fine => World.description_comes fine.placed) fun w => w.mishaps_description)
        fun arrival => ?_
      exact meets_bind (S.meets_announceRoom hears) fun _ => meets_return _

/-- **A turn meets the terms of its stage.** -/
theorem meets_dispatch :
    T.Meets (Stage.Begins before i) (Turn.dispatch s.messages hear s.rules i)
      (fun _ _ => True) := by
  rw [dispatch_rules]
  unfold route
  cases hv : i.verb? with
  | none =>
      simp only
      exact meets_bind (S.meets_saying .notUnderstood) fun _ => meets_return _
  | some verb =>
      simp only
      refine S.meets_look (fun p q notes e => ?_) fun p _ begins => ?_
      · simp only [e]
      · cases hr : s.ruleFor? verb with
        | none => exact S.meets_withArrival hears _ _
        | some rule =>
            refine meets_bind ((S.meets_rule hv hr).pre fun q _ e => e ▸ begins) fun _ => ?_
            exact S.meets_withArrival hears _ _

end Setting.Suits

end Adventure
