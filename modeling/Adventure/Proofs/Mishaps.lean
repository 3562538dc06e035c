import Adventure.Phrase
import Adventure.World.Condition

/-!
# Mishaps: the faults that content and files are to blame for

* `Fault.IsMishap`: any fault but that of a choice that nobody waits for;
* `Outcome.Mishaps`: a reading comes to no other fault;
* `mishaps_bind`, `mishaps_map`: readings that are put together from such readings are such readings;
* `mishaps_demand`, `mishaps_holds`, `mishaps_filled` and the lemmas beside them: **whatever a turn
  reads of world and messages comes to a mishap at worst**.
-/

namespace Adventure

/-- **A fault that content or files are to blame for**, and not the order of the lines. -/
def Fault.IsMishap (e : Fault) : Prop := e ≠ .noChoiceAwaited

namespace Outcome

variable {α β : Type}

/-- The reading comes to a mishap at worst. -/
def Mishaps (r : Except Fault α) : Prop := ∀ e, r = .error e → e.IsMishap

theorem mishaps_ok (x : α) : Mishaps (.ok x : Except Fault α) := nofun

theorem mishaps_error {e : Fault} (h : e.IsMishap) : Mishaps (.error e : Except Fault α) := by
  rintro _ ⟨⟩
  exact h

theorem mishaps_bind {r : Except Fault α} {f : α → Except Fault β} (hr : Mishaps r)
    (hf : ∀ x, Mishaps (f x)) : Mishaps (r >>= f) := by
  cases r with
  | ok x => exact hf x
  | error e => exact mishaps_error (hr e rfl)

theorem mishaps_map {r : Except Fault α} (f : α → β) (hr : Mishaps r) : Mishaps (r.map f) := by
  cases r with
  | ok x => exact mishaps_ok _
  | error e => exact mishaps_error (hr e rfl)

end Outcome

open Outcome

/-! ## 1. Content -/

namespace Content

theorem mishaps_entries (c : Content) : Mishaps c.entries := by
  cases c
  case mapping => exact mishaps_ok _
  all_goals exact mishaps_error nofun

theorem mishaps_demand (k : String) (c : Content) : Mishaps (c.demand k) := by
  unfold demand
  split
  · split
    · exact mishaps_ok _
    · exact mishaps_error nofun
  · exact mishaps_error nofun

theorem mishaps_filledEntries (c : Content) : Mishaps c.filledEntries := by
  unfold filledEntries
  split
  · exact mishaps_entries c
  · exact mishaps_ok _

theorem mishaps_filledElements (c : Content) : Mishaps c.filledElements := by
  unfold filledElements elements
  split
  · split
    · exact mishaps_ok _
    · exact mishaps_error nofun
  · exact mishaps_ok _

theorem mishaps_asName (c : Content) : Mishaps c.asName := by
  cases c
  case list => exact mishaps_error nofun
  case mapping => exact mishaps_error nofun
  all_goals exact mishaps_ok _

theorem mishaps_joined (between : String) (cs : List Content) : Mishaps (joined between cs) := by
  refine mishaps_map _ ?_
  induction cs with
  | nil => exact mishaps_ok _
  | cons c cs ih =>
      cases c
      case text => exact mishaps_map _ ih
      all_goals exact mishaps_error nofun

end Content

namespace Roster

variable {α : Type} (r : Roster α) (key : Content)

theorem mishaps_find : Mishaps (r.find key) := mishaps_map _ (Content.mishaps_asName key)

theorem mishaps_demand : Mishaps (r.demand key) := by
  unfold demand
  split
  · next e h =>
      have found := r.mishaps_find key e h
      exact mishaps_error found
  · exact mishaps_ok _
  · exact mishaps_error nofun

end Roster

/-! ## 2. Flags -/

namespace Flags

variable (fs : Flags)

theorem mishaps_beyond (name : String) : Mishaps (fs.beyond name) := by
  unfold beyond
  simp only
  split
  · exact mishaps_error nofun
  · split
    · split
      · exact mishaps_ok _
      · exact mishaps_error nofun
    · exact mishaps_error nofun

theorem mishaps_look (f : Flag) : Mishaps (fs.look f) := by
  unfold look
  split
  · exact mishaps_ok _
  · split
    · exact mishaps_ok _
    · exact fs.mishaps_beyond _

theorem mishaps_isSet (f : Flag) : Mishaps (fs.isSet f) := mishaps_map _ (fs.mishaps_look f)

theorem mishaps_holding (name : String) : Mishaps (fs.holding name) := by
  unfold holding
  split
  · exact mishaps_map _ (fs.mishaps_look _)
  · unfold holdingOther
    split
    · exact mishaps_ok _
    · split
      · exact mishaps_ok _
      · exact mishaps_ok _
      · exact mishaps_ok _
      · split
        · exact mishaps_ok _
        · split
          · exact mishaps_ok _
          · exact mishaps_map _ (fs.mishaps_beyond name)

theorem mishaps_gathered : Mishaps fs.gathered := by
  unfold gathered
  split
  · exact mishaps_ok _
  · exact mishaps_ok _
  · exact mishaps_ok _
  · exact mishaps_error nofun

theorem mishaps_assignFlag (f : Flag) (value : Content) : Mishaps (fs.assignFlag f value) := by
  unfold assignFlag
  simp only
  split
  · exact mishaps_error nofun
  · refine mishaps_bind fs.mishaps_gathered fun all => mishaps_bind ?_ fun b => ?_
    · unfold Checked.orInvalid
      split
      · exact mishaps_ok _
      · exact mishaps_error nofun
    · split
      · exact mishaps_error nofun
      · exact mishaps_ok _

theorem mishaps_assignOther (name : String) (value : Content) :
    Mishaps (fs.assignOther name value) := by
  unfold assignOther
  split
  · exact mishaps_error nofun
  · exact mishaps_error nofun
  · exact mishaps_ok _
  · split
    · split
      · exact mishaps_ok _
      · exact mishaps_error nofun
    · split
      · exact mishaps_ok _
      · split
        · exact mishaps_error nofun
        · exact mishaps_bind fs.mishaps_gathered fun _ => mishaps_error nofun

theorem mishaps_assign (name : String) (value : Content) : Mishaps (fs.assign name value) := by
  unfold assign
  split
  · next fault h =>
      refine mishaps_error ?_
      unfold assigningFault? at h
      simp only at h
      rintro rfl
      split at h
      · split at h
        · cases h
        · cases h
      · cases h
      · split at h
        · cases h
        · cases h
  · split
    · exact fs.mishaps_assignFlag _ value
    · exact fs.mishaps_assignOther name value

end Flags

/-! ## 3. Worlds -/

namespace World

variable (w : World)

theorem mishaps_room : Mishaps w.room := w.rooms.mishaps_demand _

theorem mishaps_description : Mishaps w.description := mishaps_map _ w.mishaps_room

theorem mishaps_isDark : Mishaps w.isDark := by
  refine mishaps_bind w.mishaps_room fun r => ?_
  split
  · exact mishaps_ok _
  · exact mishaps_bind (w.flags.mishaps_isSet _) fun _ => mishaps_ok _

theorem mishaps_encounterActive : Mishaps w.encounterActive := by
  refine mishaps_map _ (mishaps_bind (w.flags.mishaps_look _) fun awake => ?_)
  split
  · exact mishaps_bind (w.flags.mishaps_isSet _) fun _ => mishaps_ok _
  · exact mishaps_ok _

theorem mishaps_isCornered : Mishaps w.isCornered := by
  unfold isCornered
  split
  · exact w.mishaps_encounterActive
  · exact mishaps_ok _

theorem mishaps_isExposed : Mishaps w.isExposed := by
  unfold isExposed
  split
  · exact w.flags.mishaps_isSet _
  · exact mishaps_ok _

theorem mishaps_isAsleep : Mishaps w.isAsleep := by
  refine mishaps_bind (w.flags.mishaps_isSet _) fun awake => ?_
  split
  · exact mishaps_ok _
  · exact mishaps_bind (w.flags.mishaps_isSet _) fun _ => mishaps_ok _

theorem mishaps_itemConditionsHold (conds : List Content) :
    Mishaps (w.itemConditionsHold conds) := by
  induction conds with
  | nil => exact mishaps_ok _
  | cons cond conds ih =>
      refine mishaps_bind ?_ fun holds => ?_
      · unfold itemConditionHolds
        refine mishaps_bind cond.mishaps_entries fun es =>
          mishaps_bind (w.items.mishaps_find _) fun item => ?_
        split
        · exact mishaps_ok _
        · exact mishaps_ok _
      · split
        · exact ih
        · exact mishaps_ok _

theorem mishaps_flagsHold (es : List (String × Content)) : Mishaps (w.flagsHold es) := by
  induction es with
  | nil => exact mishaps_ok _
  | cons e es ih =>
      obtain ⟨name, value⟩ := e
      refine mishaps_bind (mishaps_map _ (w.flags.mishaps_holding name)) fun holds => ?_
      split
      · exact ih
      · exact mishaps_ok _

/-- **A condition is told, or comes to a mishap.** -/
theorem mishaps_holds (pre : Content) : Mishaps (w.holds pre) := by
  unfold holds
  split
  · exact mishaps_ok _
  · refine mishaps_bind pre.mishaps_entries fun es => ?_
    split
    · exact mishaps_ok _
    · refine mishaps_bind (Content.mishaps_filledElements _) fun conds =>
        mishaps_bind (w.mishaps_itemConditionsHold conds) fun holds => ?_
      split
      · exact mishaps_ok _
      · exact mishaps_bind (Content.mishaps_filledEntries _) fun flags => w.mishaps_flagsHold flags

end World

/-! ## 4. Messages -/

namespace Messages

variable (m : Messages) (ph : Phrase)

theorem mishaps_plain : Mishaps (m.plain ph) := Content.mishaps_demand _ _

theorem mishaps_filled (values : List (String × Filling)) : Mishaps (m.filled ph values) := by
  refine mishaps_bind (Content.mishaps_demand _ _) fun c => ?_
  split
  · split
    · exact mishaps_ok _
    · next e h =>
        refine mishaps_error ?_
        cases e
        all_goals exact nofun
  · exact mishaps_error nofun

end Messages

end Adventure
