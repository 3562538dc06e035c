import Adventure.Proofs.Turn.Ground
import Adventure.Turn.Meet

/-!
# Meeting characters, and saving, meet the terms

* `meets_talk`: a dialogue begins with a character that is there;
* `meets_shoot`: the antagonist loses one health a shot, which has to be a number;
* `meets_save`: the game is saved, but not while the antagonist holds the player.
-/

namespace Adventure.Setting.Suits

open Outcome Terms

variable {σ : Type} {s : Setting σ} {b before : World} {i : Intent} {T : Terms (Stage σ)}
variable (S : s.Suits b (.command s.messages before i) T)

include S

/-! ## 1. Talk -/

/-- **The player talks to a character.** -/
theorem meets_talk : T.Meets (Stage.Begins before i) (s.talk i) (fun _ _ => True) := by
  unfold talk
  split
  · split
    · exact S.meets_saying _
    · exact S.meets_saying _
  · next id aimed =>
      refine meets_bind (S.meets_demand id (fun _ _ => rfl) fun p _ begins => ?_) fun ch => ?_
      · obtain ⟨c, hc⟩ := World.get?_of_charactersHere (begins.fits.character _ aimed)
        exact Roster.has_of_get? hc
      · refine meets_bind (S.meets_ask (fun w notes => World.holds_notes w notes _)
          (fun p sane pre fine => ?_) fun w => w.mishaps_holds _) fun holds => ?_
        · exact World.holds_comes_of_fine sane fine (World.mem_preconditions_of_talk pre.2)
        · split
          · split
            · exact S.meets_saying _
            · exact (S.beginDialogue id).pre fun p _ pre =>
                ⟨pre.1.1.waiting, Roster.has_of_get? pre.1.2⟩
          · exact S.meets_saying _

/-! ## 2. Shoot -/

/-- **The antagonist is dead.** -/
theorem meets_defeat {P : Stage σ → Prop} (verb : i.verb? = some .shoot) (a : Antagonist)
    (text : String) : T.Meets P (s.defeat a text) (fun _ _ => True) := by
  unfold defeat
  refine meets_bind (S.meets_world (I := fun _ => True)
    (World.meets_setFlag_bool .antagonistDefeated true fun w _ _ => .defeat w verb)
    fun _ _ _ => trivial) fun _ => ?_
  refine meets_bind S.stopTicker fun _ => ?_
  refine meets_bind (S.meets_world (World.meets_refreshObservation (P := fun _ => True) true)
    fun _ _ _ => trivial) fun _ => ?_
  exact meets_return _

/-- **A shot hits the antagonist.** -/
theorem meets_hit (verb : i.verb? = some .shoot) (a : Antagonist) (ch : Character) :
    T.Meets (fun p => p.world.scenario.antagonist = some a ∧
        p.world.characters.get? a.character = some ch) (s.hit a ch.health) (fun _ _ => True) := by
  cases health : ch.health with
  | word =>
      refine meets_throw _ (fun p sane pre fine => ?_) (S.faults nofun)
      obtain ⟨n, hn⟩ := (S.fine fine).1.whole a ch pre.1 pre.2
      rw [health] at hn
      cases hn
  | number n =>
      simp only [hit]
      split
      · exact meets_return _
      · next alive =>
          refine meets_bind (S.meets_world (I := fun w => w.scenario.antagonist = some a ∧
              w.characters.get? a.character = some ch)
            (World.meets_setHealth a n fun w _ pre => ?_) fun _ _ pre => pre) fun _ => ?_
          · exact ⟨verb, pre.1, ⟨ch, pre.2, health⟩, by omega⟩
          · split
            · exact meets_return _
            · exact S.meets_defeat verb a _

/-- A shot at someone who is not to be shot. -/
theorem meets_spare {P : Stage σ → Prop} (ch : Character) :
    T.Meets P (s.spare ch) (fun _ _ => True) := by
  unfold spare
  refine S.meets_look (fun p q notes e => ?_) fun p _ _ => ?_
  · simp only [e]
    rfl
  · split
    · exact S.meets_sayingWith rfl (by simp [Phrase.fields])
    · exact S.meets_saying _

/-- **The player shoots at a character.** -/
theorem meets_shoot (verb : i.verb? = some .shoot) :
    T.Meets (Stage.Begins before i) (s.shoot i) (fun _ _ => True) := by
  unfold shoot
  split
  · exact S.meets_saying _
  · next id aimed =>
      refine meets_bind (S.meets_demand id (fun _ _ => rfl) fun p _ begins => ?_) fun ch => ?_
      · obtain ⟨c, hc⟩ := World.get?_of_charactersHere (begins.fits.character _ aimed)
        exact Roster.has_of_get? hc
      · refine S.meets_look (fun p q notes e => ?_) fun p _ pre => ?_
        · simp only [e]
        · simp only
          split
          · exact S.meets_spare ch
          · next a target =>
              obtain ⟨antagonist, same⟩ := Option.filter_eq_some_iff.mp target
              have same : a.character = id := by simpa using same
              refine meets_bind (S.meets_ask (fun _ _ => rfl)
                (fun q sane _ _ => ⟨_, World.isExposed_eq sane.clean⟩)
                fun w => w.mishaps_isExposed) fun exposed => ?_
              split
              · refine (S.meets_hit verb a ch).pre fun q _ post => ?_
                rw [post.1, same]
                exact ⟨antagonist, pre.2⟩
              · exact S.meets_saying _

/-! ## 3. Save -/

/-- **The player saves the game.** -/
theorem meets_save (verb : i.verb? = some .save) :
    T.Meets (Stage.Begins before i) (s.save i) (fun _ _ => True) := by
  unfold Setting.save
  split
  · exact S.meets_saying _
  · refine meets_bind (S.meets_ask (fun _ _ => rfl)
      (fun p sane _ _ => ⟨_, World.isCornered_eq sane.clean⟩)
      fun w => w.mishaps_isCornered) fun cornered => ?_
    split
    · exact S.meets_saying _
    · next free =>
        split
        · exact S.meets_saying _
        · next write hook =>
            refine meets_bind ((S.save write hook).pre fun p _ pre => ⟨verb, ?_⟩) fun outcome => ?_
            · rw [pre.2]
              simpa using free
            · split
              · exact S.meets_sayingWith rfl (by simp [Phrase.fields])
              · exact S.meets_sayingWith rfl (by simp [Phrase.fields])

end Adventure.Setting.Suits
