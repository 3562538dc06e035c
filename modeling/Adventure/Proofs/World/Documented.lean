import Adventure.Proofs.World.Sound
import Adventure.World.Condition

/-!
# Conditions and consequences as they are documented

* `Content.isDocumented`: the documented shape of a condition or a consequence;
* `World.IsDocumented`: a world in which all of them have it;
* `Content.namesFlag`, `Content.Moves`: what a consequence says;
* `holds_comes`: in such a world whether a condition holds can always be told.
-/

namespace Adventure

open Outcome

/-! ## 1. The documented shape -/

namespace Content

/-- Flags under their names, with truth values; or nothing. -/
def isFlagTable : Content → Bool
  | .null => true
  | .mapping es => es.all (fun e => e.2 == .bool true || e.2 == .bool false)
  | _ => false

/-- A place as a consequence names it: the mark of the inventory, or a text that is not empty. -/
def isPlace : Content → Bool
  | .text s => s != ""
  | .inventory => true
  | _ => false

/-- An item condition is a mapping with an item. One that moves the item has a place too. -/
def isItemCondition (moving : Bool) : Content → Bool
  | .mapping es => (es.lookup "item").isSome && (!moving || (es.lookup "location").any isPlace)
  | _ => false

/-- Item conditions, or nothing. -/
def areItemConditions (moving : Bool) : Content → Bool
  | .null => true
  | .list conds => conds.all (isItemCondition moving)
  | _ => false

/-- **The documented shape** of a condition, and of a consequence (which moves items). -/
def isDocumented (moving : Bool) : Content → Bool
  | .null => true
  | .mapping es =>
    isFlagTable ((es.lookup "flags").getD .null) &&
      areItemConditions moving ((es.lookup "item_conditions").getD .null)
  | _ => false

/-- A consequence sets the flag. -/
def namesFlag (effect : Content) (f : Flag) : Bool :=
  match effect.get? "flags" with
  | some (.mapping es) => es.any (fun e => e.1 == f.word)
  | _ => false

/-- A consequence moves the item to the place. -/
def Moves (effect : Content) (item : String) (place : Content) : Prop :=
  ∃ es conds cond, effect = .mapping es ∧
    ((es.lookup "item_conditions").getD .null).filledElements = .ok conds ∧ cond ∈ conds ∧
    cond.demand "item" = .ok (.text item) ∧ cond.demand "location" = .ok place

theorem isPlace_iff {c : Content} :
    c.isPlace = true ↔ c = .inventory ∨ ∃ s, c = .text s ∧ s ≠ "" := by
  cases c <;> simp [isPlace]

/-- What documented item conditions are walked through by is what they are. -/
theorem areItemConditions_elements {moving : Bool} {c : Content} {conds : List Content}
    (h : areItemConditions moving c = true) (hc : c.filledElements = .ok conds) :
    ∀ cond ∈ conds, isItemCondition moving cond = true := by
  unfold filledElements at hc
  cases c with
  | null =>
      cases hc
      exact fun _ hm => absurd hm List.not_mem_nil
  | list xs =>
      have e : conds = xs := by
        split at hc
        · cases hc
          rfl
        · next empty =>
            cases hc
            cases xs with
            | nil => rfl
            | cons x xs => simp [isFilled] at empty
      subst e
      exact List.all_eq_true.mp h
  | bool | int | float | text | inventory | mapping => cases h

/-- The entries of documented flags are those of a mapping. -/
theorem isFlagTable_entries {c : Content} (h : isFlagTable c = true) :
    ∃ es, c.filledEntries = .ok es ∧ (c = .mapping es ∨ es = []) ∧
      ∀ e ∈ es, ∃ b, e.2 = .bool b := by
  cases c with
  | null => exact ⟨[], rfl, .inr rfl, fun _ hm => absurd hm List.not_mem_nil⟩
  | mapping es =>
      refine ⟨es, ?_, .inl rfl, fun e he => ?_⟩
      · cases es <;> rfl
      · have k := List.all_eq_true.mp h e he
        simp only [Bool.or_eq_true, beq_iff_eq] at k
        exact k.elim (fun k => ⟨true, k⟩) (fun k => ⟨false, k⟩)
  | bool | int | float | text | inventory | list => cases h

/-- Names and entries of filled flags are those of one mapping. -/
theorem names_of_filledEntries {c : Content} {es : List (String × Content)} {names : List Content}
    (he : c.filledEntries = .ok es) (hn : c.filledElements = .ok names) :
    ∀ e ∈ es, .text e.1 ∈ names := by
  unfold filledEntries at he
  unfold filledElements at hn
  split at he
  · next filled =>
      rw [entries_eq_ok] at he
      subst he
      rw [if_pos filled] at hn
      cases hn
      exact fun e hm => List.mem_map_of_mem (f := fun e => Content.text e.1) hm
  · cases he
    exact fun _ hm => absurd hm List.not_mem_nil

end Content

namespace World

/-- **A world with documented conditions and consequences.** -/
def IsDocumented (b : World) : Prop :=
  (∀ c ∈ b.preconditions, c.isDocumented false = true) ∧
    ∀ c ∈ b.effects, c.isDocumented true = true

instance (b : World) : Decidable b.IsDocumented := by
  unfold IsDocumented
  infer_instance

end World

/-! ## 2. Flags that are as they were read -/

/-- Nothing but flags has been touched. -/
def Flags.IsClean (fs : Flags) : Prop := fs.IsPlain ∧ fs.remarks = []

namespace Flags

theorem IsClean.set {fs : Flags} (h : fs.IsClean) (f : Flag) (v : Bool) : (fs.set f v).IsClean :=
  ⟨h.1.set f v, by rw [remarks_set, h.2]⟩

theorem IsClean.isSet {fs : Flags} (h : fs.IsClean) (f : Flag) : fs.isSet f = .ok (fs.get f) :=
  isSet_eq h.1.1 f

theorem IsPlain.holding {fs : Flags} (h : fs.IsPlain) (f : Flag) :
    fs.holding f.word = .ok (.content (.bool (fs.get f))) := by
  simp [Flags.holding, Flag.ofWord?_word, look_eq h.1, Except.map]

/-- **A flag is assigned what reads as a truth value.** -/
theorem IsPlain.assign_eq {fs : Flags} (h : fs.IsPlain) (f : Flag) (value : Content) :
    fs.assign f.word value =
      (((Reader.bool value).within f.word).orInvalid .flags).map fun v => fs.set f v := by
  have free : fs.assigningFault? f.word = none := by
    simp [assigningFault?, hiding?, h.1, Flag.ofWord?_word]
  unfold Flags.assign assignFlag
  simp only [free, Flag.ofWord?_word, hiding?, h.1, gathered, drawer?, h.2, List.lookup_nil,
    Option.bind_none, Option.isSome_none, Bool.false_eq_true, if_false]
  cases ((Reader.bool value).within f.word).orInvalid .flags <;> rfl

/-- A value is put under the name of a flag: it reads as a truth value, or nothing is put. -/
theorem IsPlain.assign {fs gs : Flags} (h : fs.IsPlain) {f : Flag} {value : Content}
    (e : fs.assign f.word value = .ok gs) : ∃ v, gs = fs.set f v := by
  rw [h.assign_eq] at e
  cases read : ((Reader.bool value).within f.word).orInvalid .flags with
  | error fault =>
      rw [read] at e
      cases e
  | ok v =>
      rw [read] at e
      exact ⟨v, (Except.ok.inj e).symm⟩

end Flags

/-! ## 3. Whether a condition holds can be told -/

namespace World

theorem itemConditionHolds_comes {b : World} (w : World) {cond : Content} (h : b.GraspsItem cond) :
    Comes (w.itemConditionHolds cond) := by
  obtain ⟨es, name, rfl, item, -, -⟩ := h
  unfold itemConditionHolds
  refine comes_bind ⟨es, rfl⟩ fun es' he => ?_
  cases he
  rw [item]
  refine comes_bind ⟨_, rfl⟩ fun found hf => ?_
  cases hf
  simp only [Option.bind_some]
  cases w.items.get? name with
  | none => exact comes_pure _
  | some i => exact comes_pure _

theorem itemConditionsHold_comes {b : World} (w : World) :
    ∀ {conds : List Content}, (∀ cond ∈ conds, b.GraspsItem cond) →
      Comes (w.itemConditionsHold conds)
  | [], _ => comes_ok true
  | cond :: conds, h => by
      unfold itemConditionsHold
      refine comes_bind (itemConditionHolds_comes w (h cond (List.mem_cons_self ..))) fun holds _ => ?_
      cases holds with
      | true =>
          exact itemConditionsHold_comes w fun c hc => h c (List.mem_cons_of_mem _ hc)
      | false => exact comes_pure _

theorem flagsHold_comes {w : World} (clean : w.flags.IsClean) :
    ∀ {es : List (String × Content)}, (∀ e ∈ es, ∃ f : Flag, e.1 = f.word) →
      Comes (w.flagsHold es)
  | [], _ => comes_ok true
  | (name, value) :: es, h => by
      obtain ⟨f, hf⟩ := h (name, value) (List.mem_cons_self ..)
      simp only at hf
      subst hf
      unfold flagsHold
      refine comes_bind ?_ fun holds _ => ?_
      · unfold flagHolds
        rw [clean.1.holding f]
        exact comes_map _ (comes_ok _)
      · cases holds with
        | true => exact flagsHold_comes clean fun e he => h e (List.mem_cons_of_mem _ he)
        | false => exact comes_pure _

/-- **Whether a documented condition holds can be told** where all it refers to is known. -/
theorem holds_comes {b w : World} (clean : w.flags.IsClean) {pre : Content}
    (grasps : b.Grasps pre) (documented : pre.isDocumented false = true) : Comes (w.holds pre) := by
  unfold holds
  split
  · exact comes_ok true
  · next filled =>
      rcases grasps with empty | ⟨es, conds, names, rfl, hc, items, hn, flags⟩
      · rw [empty] at filled
        exact absurd rfl filled
      · simp only [Content.isDocumented, Bool.and_eq_true] at documented
        obtain ⟨fs, hfs, -, -⟩ := Content.isFlagTable_entries documented.1
        refine comes_bind ⟨es, rfl⟩ fun es' he => ?_
        cases he
        split
        · exact comes_pure _
        · refine comes_bind ⟨conds, hc⟩ fun conds' hc' => ?_
          rw [hc] at hc'
          cases hc'
          refine comes_bind (itemConditionsHold_comes w items) fun holds _ => ?_
          cases holds with
          | false => exact comes_pure _
          | true =>
              refine comes_bind ⟨fs, hfs⟩ fun fs' hf' => ?_
              rw [hfs] at hf'
              cases hf'
              refine flagsHold_comes clean fun e he => ?_
              obtain ⟨f, hf⟩ := flags _ (Content.names_of_filledEntries hfs hn e he)
              exact ⟨f, by simpa using hf⟩

end World

end Adventure
