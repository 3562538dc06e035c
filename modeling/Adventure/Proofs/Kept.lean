import Adventure.Proofs.Roster
import Adventure.Sheet
import Mathlib.Data.List.Nodup

/-!
# Content as sheets keep it

* `Text.kept_eq_empty`: only the empty text is kept as the empty text;
* `Content.keptEntries`, `lookup_keptEntries`: the entries of a mapping after they were kept, and
  look-ups among them;
* `keptEntries_perm`, `keptEntries_of_perm`: they are the entries from before, in the order of their
  keys.
-/

namespace Adventure

/-! ## 1. Texts -/

namespace Text

theorem keptBreaks_ne_nil {run : List Char} (h : run ≠ []) : keptBreaks run ≠ [] := by
  unfold keptBreaks
  simp only
  split
  · split
    · simp
    · next more =>
        have long : 2 ≤ run.length := by
          have pos : 0 < run.length := List.length_pos_iff.mpr h
          omega
        intro empty
        have size := congrArg List.length empty
        simp only [List.length_drop, List.length_map, List.length_nil] at size
        omega
  · simpa using h

theorem keptFrom_ne_nil {run : List Char} :
    ∀ {s : List Char}, (run ≠ [] ∨ s ≠ []) → keptFrom run s ≠ []
  | [], h => by
      unfold keptFrom
      have filled : run ≠ [] := h.elim id fun e => absurd rfl e
      exact keptBreaks_ne_nil (by simpa using filled)
  | c :: cs, _ => by
      unfold keptFrom
      split
      · exact keptFrom_ne_nil (.inl (List.cons_ne_nil _ _))
      · simp

/-- **Only the empty text is kept as the empty text.** -/
theorem kept_eq_empty {s : String} (h : kept s = "") : s = "" := by
  unfold kept at h
  split at h
  · by_cases empty : s.toList = []
    · exact String.toList_eq_nil_iff.mp empty
    · have filled : keptFrom [] s.toList ≠ [] := keptFrom_ne_nil (.inr empty)
      exact absurd (by simpa using congrArg String.toList h) filled
  · exact h

end Text

/-! ## 2. Mappings -/

namespace Content

theorem entriesAsKept_eq (es : List (String × Content)) :
    entriesAsKept es = es.map (fun e => (e.1, e.2.asKept)) := by
  induction es with
  | nil => rfl
  | cons e es ih =>
      unfold entriesAsKept
      rw [ih]
      rfl

theorem listAsKept_eq (xs : List Content) : listAsKept xs = xs.map asKept := by
  induction xs with
  | nil => rfl
  | cons x xs ih =>
      unfold listAsKept
      rw [ih]
      rfl

/-- The entries of a mapping after they were kept. -/
def keptEntries (es : List (String × Content)) : List (String × Content) :=
  ((entriesAsKept es).mergeSort (fun a b => a.1 ≤ b.1)).map (fun e => (Text.kept e.1, e.2))

@[simp] theorem keptEntries_nil : keptEntries [] = [] := by
  simp [keptEntries, entriesAsKept]

theorem asKept_mapping (es : List (String × Content)) :
    asKept (.mapping es) = .mapping (keptEntries es) := by
  unfold asKept
  rfl

/-- **Kept entries are the entries from before**, in another order. -/
theorem keptEntries_perm (es : List (String × Content)) :
    (keptEntries es).Perm (es.map (fun e => (Text.kept e.1, e.2.asKept))) := by
  have sorted := ((List.mergeSort_perm (entriesAsKept es) (fun a b => a.1 ≤ b.1)).map
    (fun e => (Text.kept e.1, e.2)))
  rw [entriesAsKept_eq, List.map_map] at sorted
  unfold keptEntries
  rw [entriesAsKept_eq]
  exact sorted

/-- Entries that are sorted stay in their order. -/
theorem keptEntries_of_sorted {es : List (String × Content)}
    (sorted : es.Pairwise (fun a b => a.1 ≤ b.1)) :
    keptEntries es = es.map (fun e => (Text.kept e.1, e.2.asKept)) := by
  have kept : (es.map (fun e => (e.1, e.2.asKept))).Pairwise
      (fun a b => decide (a.1 ≤ b.1) = true) :=
    List.pairwise_map.mpr (sorted.imp fun h => decide_eq_true h)
  rw [keptEntries, entriesAsKept_eq, List.mergeSort_of_pairwise kept, List.map_map]
  rfl

theorem asKept_single (k : String) (x : Content) :
    (Content.mapping [(k, x)]).asKept = .mapping [(Text.kept k, x.asKept)] := by
  rw [asKept_mapping, keptEntries_of_sorted (List.pairwise_singleton ..)]
  rfl

/-- Entries whose keys are all different are kept in the order of their keys. -/
theorem keptEntries_of_perm {es l : List (String × Content)} (perm : es.Perm l)
    (distinct : (l.map Prod.fst).Nodup) (sorted : l.Pairwise (fun a b => a.1 ≤ b.1)) :
    keptEntries es = l.map (fun e => (Text.kept e.1, e.2.asKept)) := by
  let keep (e : String × Content) : String × Content := (e.1, e.2.asKept)
  let merged := (es.map keep).mergeSort fun a b => a.1 ≤ b.1
  have keys : ((l.map keep).map Prod.fst).Nodup := by
    rw [List.map_map]
    exact distinct
  have same : merged.Perm (l.map keep) := (List.mergeSort_perm ..).trans (perm.map keep)
  have ordered : merged.Pairwise fun a b => decide (a.1 ≤ b.1) = true := by
    refine List.pairwise_mergeSort (fun a b c h k => ?_) (fun a b => ?_) _
    · exact decide_eq_true (String.le_trans (of_decide_eq_true h) (of_decide_eq_true k))
    · simpa using String.le_total a.1 b.1
  have ordered' : (l.map keep).Pairwise fun a b => decide (a.1 ≤ b.1) = true :=
    List.pairwise_map.mpr (sorted.imp fun h => decide_eq_true h)
  have apart (a c : String × Content) (ha : a ∈ merged) (hc : c ∈ l.map keep)
      (h : decide (a.1 ≤ c.1) = true) (k : decide (c.1 ≤ a.1) = true) : a = c := by
    have key : a.1 = c.1 := String.le_antisymm (of_decide_eq_true h) (of_decide_eq_true k)
    exact List.inj_on_of_nodup_map keys (same.mem_iff.mp ha) hc key
  rw [keptEntries, entriesAsKept_eq]
  show merged.map _ = _
  rw [same.eq_of_pairwise apart ordered ordered', List.map_map]
  rfl

theorem mem_keptEntries {es : List (String × Content)} {k : String} {x : Content} :
    (k, x) ∈ keptEntries es ↔ ∃ e ∈ es, Text.kept e.1 = k ∧ e.2.asKept = x := by
  rw [(keptEntries_perm es).mem_iff, List.mem_map]
  simp only [Prod.mk.injEq]

section Lookup

variable {es : List (String × Content)} (distinct : (es.map Prod.fst).Nodup)
variable (kept : ∀ e ∈ es, Text.kept e.1 = e.1)

include distinct kept

/-- The keys stay distinct if they are kept as they are. -/
theorem distinct_keptEntries : ((keptEntries es).map Prod.fst).Nodup := by
  have keys : (es.map (fun e => (Text.kept e.1, e.2.asKept))).map Prod.fst = es.map Prod.fst := by
    rw [List.map_map]
    exact List.map_congr_left fun e he => kept e he
  have perm := (keptEntries_perm es).map Prod.fst
  rw [keys] at perm
  exact perm.nodup_iff.mpr distinct

/-- **A look-up among kept entries** finds what was there, as it is kept. -/
theorem lookup_keptEntries (k : String) :
    (keptEntries es).lookup k = (es.lookup k).map asKept := by
  cases found : es.lookup k with
  | some x =>
      have mem : (k, x.asKept) ∈ keptEntries es :=
        mem_keptEntries.mpr ⟨(k, x), mem_of_lookup found, kept _ (mem_of_lookup found), rfl⟩
      exact lookup_of_mem (distinct_keptEntries distinct kept) mem
  | none =>
      refine lookup_of_fresh fun mem => ?_
      obtain ⟨⟨_, x⟩, hm, rfl⟩ := List.mem_map.mp mem
      obtain ⟨e, he, hk, -⟩ := mem_keptEntries.mp hm
      rw [kept e he] at hk
      have mem : (e.1, e.2) ∈ es := he
      have there := lookup_of_mem distinct mem
      rw [hk, found] at there
      cases there

end Lookup

/-- What is walked through by kept entries. -/
theorem filledEntries_kept (es : List (String × Content)) :
    (Content.mapping es).asKept.filledEntries = .ok (keptEntries es) := by
  rw [asKept_mapping]
  unfold filledEntries
  split
  · rfl
  · next empty =>
      have none : keptEntries es = [] := by
        simpa [isFilled] using empty
      rw [none]

end Content

end Adventure
