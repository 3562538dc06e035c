import Adventure.Proofs.World.Plan
import Adventure.Proofs.Terms
import Adventure.World.Condition

/-!
# What a consequence looks at, in any world

* `World.LooksLike`: worlds that a consequence cannot tell apart;
* `World.SameScene`: what no consequence changes;
* `World.backdrop`: both, as the terms of any world;
* `backs_apply`: **every consequence meets them**, whether the world is consistent or not;
* `World.Allows`: a consequence can be brought about in a world, without a fault;
* `allows_of_looksLike`: if it can be in one world, it can be in all that look like it;
* `sameScene_apply`: what it leaves alone, even if it comes to a fault halfway.
-/

namespace Adventure

namespace World

/-! ## 1. Worlds that look alike -/

/-- **A consequence cannot tell the worlds apart**: dialogues, characters and notes may differ, and
    which rooms are locked or have been seen anew. -/
structure LooksLike (w v : World) : Prop where
  flags : v.flags = w.flags
  items : v.items = w.items
  current : v.current = w.current
  rooms : v.rooms.map Room.bare = w.rooms.map Room.bare

/-- **What no consequence changes.** -/
structure SameScene (w v : World) : Prop where
  plan : v.plan = w.plan
  dialogues : v.dialogues = w.dialogues
  characters : v.characters = w.characters
  current : v.current = w.current

/-- What a consequence looks at, and what it leaves alone. -/
def backdrop : Terms World where
  Alike := LooksLike
  Leads := SameScene
  Sane _ := True
  Fine _ := False
  Faults _ := True
  refl _ := ⟨rfl, rfl, rfl, rfl⟩
  trans h k := ⟨k.plan.trans h.plan, k.dialogues.trans h.dialogues,
    k.characters.trans h.characters, k.current.trans h.current⟩
  sane_of_leads _ _ := trivial
  fine_of_leads _ fine _ := fine

/-- A step that meets the terms of any world. -/
def Backs {α : Type} (a : Act World α) : Prop :=
  backdrop.Meets (fun _ => True) a (fun _ _ => True)

/-! ## 2. Steps -/

section Steps

variable {α β : Type} {w v : World}

theorem backs_bind {a : Act World α} {f : α → Act World β} (ha : Backs a)
    (hf : ∀ x, Backs (f x)) : Backs (a >>= f) :=
  Terms.meets_bind ha hf

theorem backs_pure (x : α) : Backs (pure x) := Terms.meets_return x

theorem backs_ofExcept (r : Except Fault α) : Backs (Act.ofExcept r) :=
  Terms.meets_ofExcept r (fun _ _ _ _ => trivial) (fun _ _ _ => False.elim) fun _ _ => trivial

theorem backs_reading {f : World → Except Fault α} (same : ∀ w v, LooksLike w v → f v = f w) :
    Backs (Act.reading f) :=
  Terms.meets_reading same (fun _ _ _ _ _ => trivial) (fun _ _ _ => False.elim)
    fun _ _ _ => trivial

theorem backs_modify {f : World → World} (like : ∀ w v, LooksLike w v → LooksLike (f w) (f v))
    (scene : ∀ w, SameScene w (f w)) : Backs (modify f) :=
  Terms.meets_modify like fun w _ _ => ⟨scene w, trivial⟩

theorem backs_get {k : World → Act World α} (same : ∀ w v, LooksLike w v → k v = k w)
    (h : ∀ w, Backs (k w)) : Backs (get >>= k) :=
  Terms.meets_get same fun w _ _ => (h w).pre fun _ _ _ => trivial

theorem backs_note (text : String) : Backs (note text) :=
  backs_modify (fun _ _ like => ⟨like.flags, like.items, like.current, like.rooms⟩)
    fun _ => ⟨rfl, rfl, rfl, rfl⟩

/-- Whether a name is known does not depend on more than the names. -/
theorem backs_known {roster : World → Roster β}
    (same : ∀ w v, LooksLike w v → ∀ name, (roster v).has name = (roster w).has name)
    (key : Content) : Backs (known roster key) := by
  refine backs_reading fun w v like => ?_
  cases key with
  | text name =>
      have known := same w v like name
      unfold Roster.has at known
      unfold Roster.demand
      simp only [Roster.find_text]
      cases hv : (roster v).get? name with
      | some =>
          rw [hv] at known
          obtain ⟨a, hw⟩ := Option.isSome_iff_exists.mp known.symm
          rw [hw]
      | none =>
          rw [hv] at known
          have unknown : (roster w).get? name = none := by simpa using known.symm
          rw [unknown]
  | _ => rfl

theorem LooksLike.has_room (like : LooksLike w v) (name : String) :
    v.rooms.has name = w.rooms.has name := by
  rw [← Roster.has_map v.rooms Room.bare, like.rooms, Roster.has_map]

theorem backs_assignFlag (name : String) (value : Content) : Backs (assignFlag name value) := by
  refine backs_bind (backs_reading fun _ _ like => by rw [like.flags]) fun flags => ?_
  exact backs_modify (fun _ _ like => ⟨rfl, like.items, like.current, like.rooms⟩)
    fun _ => ⟨rfl, rfl, rfl, rfl⟩

theorem backs_setFlag (name : String) (value : Content) : Backs (setFlag name value) :=
  backs_bind (backs_assignFlag name value) fun _ => backs_note _

theorem backs_moveItem (item location : Content) : Backs (moveItem item location) := by
  refine backs_bind (backs_known (fun _ _ like name => by rw [like.items]) item) fun name => ?_
  refine backs_bind (backs_modify (fun _ _ like => ?_) fun w => ?_) fun _ => ?_
  · refine ⟨like.flags, ?_, like.current, like.rooms⟩
    simp only [updateItem, like.items]
  · exact ⟨plan_updateItem fun _ _ => rfl, rfl, rfl, rfl⟩
  · refine backs_bind (backs_note _) fun _ => ?_
    split
    · refine backs_get (fun w v like => ?_) fun w => backs_note _
      have carried : v.carriedNote = w.carriedNote := by
        unfold carriedNote carried
        rw [like.items]
      rw [carried]
    · exact backs_pure ()

/-- To see a room anew depends on what the room waits for, which stays. -/
theorem backs_refreshObservation (force : Bool) : Backs (refreshObservation .null force) := by
  refine backs_get (fun w v like => ?_) fun w => ?_
  · have place : v.placeOr .null = w.placeOr .null := like.current
    rw [place]
  · refine backs_bind (backs_known (fun _ _ like => like.has_room) _) fun name => ?_
    refine backs_get (fun w v like => ?_) fun w => ?_
    · have bare := congrArg (fun rooms => rooms.get? name) like.rooms
      simp only [Roster.get?_map] at bare
      cases hw : w.rooms.get? name with
      | none =>
          rw [hw, Option.map_none, Option.map_eq_none_iff] at bare
          rw [bare]
      | some r =>
          rw [hw, Option.map_some, Option.map_eq_some_iff] at bare
          obtain ⟨r', hv, e⟩ := bare
          have reason : r'.reason = r.reason := by
            show r'.bare.reason = r.bare.reason
            rw [e]
          rw [hv]
          simp only [reason]
    · split
      · exact backs_pure ()
      · split
        · refine backs_bind (backs_modify (fun w v like => ?_) fun w => ?_) fun _ => backs_note _
          · refine ⟨like.flags, like.items, like.current, ?_⟩
            have bare (u : World) : (u.updateRoom name fun r => { r with updated := true }).rooms.map
                Room.bare = u.rooms.map Room.bare := Roster.map_update_of fun _ _ => rfl
            rw [bare, bare, like.rooms]
          · exact ⟨plan_updateRoom fun _ => rfl, rfl, rfl, rfl⟩
        · exact backs_pure ()

/-! ## 3. Consequences -/

theorem backs_setFlags (es : List (String × Content)) : Backs (setFlags es) := by
  induction es with
  | nil => exact backs_pure ()
  | cons e es ih => exact backs_bind (backs_setFlag e.1 e.2) fun _ => ih

theorem backs_moveItems (conds : List Content) : Backs (moveItems conds) := by
  induction conds with
  | nil => exact backs_pure ()
  | cons cond conds ih =>
      refine backs_bind (backs_ofExcept _) fun item => backs_bind (backs_ofExcept _)
        fun location => ?_
      exact backs_bind (backs_moveItem item location) fun _ => ih

/-- **Every consequence** looks at no more, and leaves the scene alone. -/
theorem backs_apply (effect : Content) : Backs (apply effect) := by
  unfold apply
  split
  · exact backs_pure ()
  · refine backs_bind (backs_ofExcept _) fun es => backs_bind (backs_ofExcept _) fun flags => ?_
    refine backs_bind (backs_setFlags flags) fun _ => backs_bind (backs_ofExcept _) fun conds => ?_
    refine backs_bind (backs_moveItems conds) fun _ => ?_
    split
    · exact backs_refreshObservation false
    · exact backs_pure ()

end Steps

/-- **A consequence can be brought about** in a world, without a fault. -/
def Allows (w : World) (effect : Content) : Prop := ∃ v, (apply effect).runOn w = (.ok (), v)

variable {w v : World} {effect : Content}

/-- What can be brought about in one world can be in all that look like it. -/
theorem allows_of_looksLike (like : LooksLike w v) (allows : w.Allows effect) :
    v.Allows effect := by
  obtain ⟨u, run⟩ := allows
  have same := (backs_apply effect like trivial trivial).same
  rw [run] at same
  exact ⟨((apply effect).runOn v).2, Prod.ext same rfl⟩

/-- **What a consequence leaves alone**, even if it comes to a fault halfway. -/
theorem sameScene_apply (effect : Content) (w : World) :
    SameScene w ((apply effect).runOn w).2 :=
  (backs_apply effect (⟨rfl, rfl, rfl, rfl⟩ : LooksLike w w) trivial trivial).leads

end World

end Adventure
