import Adventure.Ticker
import Mathlib.Data.List.Basic
import Mathlib.Data.List.Induction
import Mathlib.Data.List.TakeWhile

/-!
# How long a ticker warns

* `Ticker.start_fst`, `Ticker.tick_of_running`, `Ticker.cancelled_cancel`, …: what one call does;
* `Ticker.Call`, `Ticker.called`: calls that come one after the other, in whatever order, and what
  came of them;
* `Ticker.elapsed`: the periods between the first start and the first cancellation;
* `Log.Tells`, `called_tells`: **what has come of some calls**, told without going through them;
* `ticker_warns_while_it_runs`: **it warns in just these periods**, one warning after the other, and
  is cancelled once.
-/

namespace Adventure

namespace Ticker

variable {α : Type} (t : Ticker α)

/-! ## 1. One call -/

@[simp] theorem warnings_cancel : t.cancel.1.warnings = t.warnings := by
  unfold cancel
  split <;> rfl

@[simp] theorem started_cancel : t.cancel.1.started = t.started := by
  unfold cancel
  split <;> rfl

@[simp] theorem count_cancel : t.cancel.1.count = t.count := by
  unfold cancel
  split <;> rfl

theorem cancelled_cancel : t.cancel.1.cancelled = true := by
  unfold cancel
  by_cases h : t.cancelled = true
  · rw [if_pos h]
    exact h
  · rw [if_neg h]

/-- Who is silent can be silenced. -/
theorem cancel_cancel : t.cancel.1.cancel.1 = t.cancel.1 := by
  unfold cancel
  by_cases h : t.cancelled = true
  · rw [if_pos h]
    simp only [h, if_true]
  · rw [if_neg h]
    rfl

/-- A call that cancels is told whether it is the one that did it. -/
theorem told_cancel : t.cancel.2.1 = !t.cancelled := by
  unfold cancel
  cases h : t.cancelled <;> rfl

/-- To cancel a ticker changes whether it is cancelled, and nothing else. -/
theorem cancel_fst : t.cancel.1 = { t with cancelled := true } := by
  have cancelled := t.cancelled_cancel
  unfold cancel at cancelled ⊢
  split
  · rename_i h
    rw [← h]
  · rfl

/-- To start a ticker changes whether it is started, and nothing else. -/
theorem start_fst_eq : t.start.1 = { t with started := t.started || !t.warnings.isEmpty } := by
  unfold start
  split
  · rename_i h
    rcases Bool.or_eq_true_iff.mp h with started | empty
    · rw [started, Bool.true_or, ← started]
    · rw [empty, Bool.not_true, Bool.or_false]
  · rename_i h
    rw [Bool.or_eq_true_iff, not_or, Bool.not_eq_true, Bool.not_eq_true] at h
    rw [h.2, Bool.not_false, Bool.or_true]

/-- A ticker that has warnings can be started. -/
theorem start_fst {warnings : List α} (period : Content) (warns : warnings ≠ []) :
    (start { warnings, period }).1 = { warnings, period, started := true } := by
  unfold start
  rw [if_neg (by simpa using warns)]

/-- A period that elapses changes how many warnings there have been, and nothing else. -/
theorem tick_fst : ∃ count, t.tick.1 = { t with count } := by
  unfold tick
  split
  · split
    · exact ⟨_, rfl⟩
    · exact ⟨t.count, rfl⟩
  · exact ⟨t.count, rfl⟩

/-- A ticker that does not run gives no warning. -/
theorem tick_of_still {t : Ticker α} (still : t.isRunning = false) : t.tick = (t, none) := by
  unfold tick
  rw [still]
  rfl

/-- A ticker that was cancelled gives no warning. -/
theorem tick_of_cancelled {t : Ticker α} (h : t.cancelled = true) : t.tick = (t, none) := by
  refine tick_of_still ?_
  unfold isRunning
  rw [h, Bool.not_true, Bool.and_false]

/-- **A ticker that runs gives the next of its warnings.** -/
theorem tick_of_running {t : Ticker α} (started : t.started = true) (runs : t.cancelled = false)
    (warns : t.warnings ≠ []) : ∃ w, t.warnings[t.count % t.warnings.length]? = some w ∧
      t.tick = ({ t with count := t.count + 1 }, some w) := by
  have inside : t.count % t.warnings.length < t.warnings.length :=
    Nat.mod_lt _ (List.length_pos_iff.mpr warns)
  refine ⟨_, List.getElem?_eq_getElem inside, ?_⟩
  unfold tick isRunning
  rw [started, runs, Bool.not_false, Bool.and_true, if_pos rfl, List.getElem?_eq_getElem inside]

/-! ## 2. One call after the other -/

/-- What can be done with a ticker, and the period that elapses. Whoever joins it only waits. -/
inductive Call where
  | start
  | period
  | cancel
  | join
deriving DecidableEq

/-- A ticker, and what came of the calls. -/
structure Log (α : Type) where
  ticker : Ticker α
  /-- The warnings that were given. -/
  given : List α := []
  /-- What those that cancelled the ticker were told. -/
  told : List Bool := []

/-- One more call. -/
def Log.after (l : Log α) : Call → Log α
  | .start => { l with ticker := l.ticker.start.1 }
  | .period => { l with ticker := l.ticker.tick.1, given := l.given ++ l.ticker.tick.2.toList }
  | .cancel => { l with ticker := l.ticker.cancel.1, told := l.told ++ [l.ticker.cancel.2.1] }
  | .join => l

/-- **What comes of some calls**, with a ticker that is new. -/
def called (warnings : List α) (period : Content) (calls : List Call) : Log α :=
  calls.foldl Log.after { ticker := { warnings, period } }

/-- **How many periods elapse** after the first start and before the first cancellation. -/
def elapsed (calls : List Call) : Nat :=
  ((calls.takeWhile (· ≠ .cancel)).dropWhile (· ≠ .start)).count .period

variable {warnings : List α} {period : Content} {calls : List Call}

/-- How many warnings there are after some calls. A ticker without warnings has none to give. -/
def due (warnings : List α) (calls : List Call) : Nat :=
  if warnings.isEmpty then 0 else elapsed calls

/-- A call adds to the periods that count if it is one, and the ticker has been started and has not
    been cancelled. -/
theorem elapsed_append (calls : List Call) (call : Call) : elapsed (calls ++ [call]) =
    elapsed calls + if call = .period ∧ .start ∈ calls ∧ .cancel ∉ calls then 1 else 0 := by
  unfold elapsed
  by_cases cancelled : Call.cancel ∈ calls
  · have short : (calls.takeWhile (· ≠ .cancel)).length ≠ calls.length := by
      intro h
      have whole := (List.takeWhile_prefix (· ≠ Call.cancel)).eq_of_length h
      simpa using List.takeWhile_eq_self_iff.mp whole _ cancelled
    rw [List.takeWhile_append, if_neg short, if_neg (fun h => h.2.2 cancelled), Nat.add_zero]
  · have clear : ∀ c ∈ calls, decide (c ≠ Call.cancel) = true := fun c h =>
      decide_eq_true fun e => cancelled (e ▸ h)
    rw [List.takeWhile_append_of_pos clear, List.takeWhile_eq_self_iff.mpr clear]
    by_cases started : Call.start ∈ calls
    · have kept : ¬ (calls.dropWhile (· ≠ .start)).isEmpty = true := fun h => by
        simpa using List.dropWhile_eq_nil_iff.mp (List.isEmpty_iff.mp h) _ started
      rw [List.dropWhile_append, if_neg kept, List.count_append]
      cases call <;> simp [started, cancelled]
    · have idle : ∀ c ∈ calls, decide (c ≠ Call.start) = true := fun c h =>
        decide_eq_true fun e => started (e ▸ h)
      rw [List.dropWhile_append_of_pos idle, List.dropWhile_eq_nil_iff.mpr idle]
      cases call <;> simp [started]

/-- The ticker after some calls, told by the calls alone. -/
def standing (warnings : List α) (period : Content) (calls : List Call) : Ticker α where
  warnings := warnings
  period := period
  started := !warnings.isEmpty && decide (.start ∈ calls)
  cancelled := decide (.cancel ∈ calls)
  count := due warnings calls

/-- **What some calls come to**, told by the calls alone. -/
structure Log.Tells (l : Log α) (warnings : List α) (period : Content) (calls : List Call) :
    Prop where
  ticker : l.ticker = standing warnings period calls
  /-- One warning after the other, and the first one again after the last. -/
  given : l.given.map some =
    (List.range (due warnings calls)).map fun k => warnings[k % warnings.length]?
  /-- The first one who cancels the ticker does it. -/
  told : l.told = (List.range (calls.count .cancel)).map (· == 0)

variable {warnings : List α} {period : Content} {calls : List Call} {l : Log α}

theorem isRunning_standing : (standing warnings period calls).isRunning = true ↔
    warnings ≠ [] ∧ .start ∈ calls ∧ .cancel ∉ calls := by
  simp [isRunning, standing, and_assoc]

/-- A period that elapses calls for one more warning if the ticker runs. -/
theorem due_append (call : Call) : due warnings (calls ++ [call]) = due warnings calls +
    if call = .period ∧ warnings ≠ [] ∧ .start ∈ calls ∧ .cancel ∉ calls then 1 else 0 := by
  unfold due
  rw [elapsed_append]
  cases warnings <;> simp

/-- **One more call.** -/
theorem Log.Tells.after (h : l.Tells warnings period calls) (call : Call) :
    (l.after call).Tells warnings period (calls ++ [call]) := by
  have due : due warnings (calls ++ [call]) = _ := due_append call
  cases call with
  | start =>
      rw [if_neg (by simp), Nat.add_zero] at due
      refine ⟨?_, due ▸ h.given, by simpa [Log.after] using h.told⟩
      show l.ticker.start.1 = _
      rw [start_fst_eq, h.ticker]
      simp only [standing, due]
      cases warnings.isEmpty <;> simp
  | cancel =>
      rw [if_neg (by simp), Nat.add_zero] at due
      refine ⟨?_, due ▸ h.given, ?_⟩
      · show l.ticker.cancel.1 = _
        rw [cancel_fst, h.ticker]
        simp [standing, due]
      · show l.told ++ [l.ticker.cancel.2.1] = _
        have first : (!decide (Call.cancel ∈ calls)) = (calls.count .cancel == 0) := by
          by_cases c : Call.cancel ∈ calls
          · simpa [c] using (List.count_pos_iff.mpr c).ne'
          · simp [c, List.count_eq_zero.mpr c]
        rw [told_cancel, h.told, h.ticker, List.count_append, List.count_singleton_self,
          List.range_succ, List.map_append]
        exact congrArg (_ ++ [·]) first
  | join =>
      rw [if_neg (by simp), Nat.add_zero] at due
      refine ⟨?_, due ▸ h.given, by simpa [Log.after] using h.told⟩
      rw [show (l.after .join).ticker = l.ticker from rfl, h.ticker]
      simp [standing, due]
  | period =>
      by_cases runs : warnings ≠ [] ∧ .start ∈ calls ∧ .cancel ∉ calls
      · rw [if_pos ⟨rfl, runs⟩] at due
        obtain ⟨warns, started, clear⟩ := runs
        obtain ⟨w, next, ticks⟩ := tick_of_running (t := standing warnings period calls)
          (by simp [standing, warns, started]) (by simpa [standing] using clear) warns
        rw [← h.ticker] at ticks
        refine ⟨?_, ?_, by simpa [Log.after] using h.told⟩
        · show l.ticker.tick.1 = _
          rw [ticks, h.ticker]
          simp [standing, due]
        · show (l.given ++ l.ticker.tick.2.toList).map some = _
          rw [ticks, due, List.range_succ, List.map_append, List.map_append, h.given]
          exact congrArg (_ ++ [·]) next.symm
      · rw [if_neg fun h => runs h.2, Nat.add_zero] at due
        have still : l.ticker.tick = (l.ticker, none) := by
          refine tick_of_still ?_
          rw [h.ticker, Bool.eq_false_iff]
          exact fun h => runs (isRunning_standing.mp h)
        refine ⟨?_, ?_, by simpa [Log.after] using h.told⟩
        · show l.ticker.tick.1 = _
          rw [still, h.ticker]
          simp [standing, due]
        · show (l.given ++ l.ticker.tick.2.toList).map some = _
          rw [still, due]
          simpa using h.given

/-- **Any number of calls**, in any order. -/
theorem called_tells (warnings : List α) (period : Content) (calls : List Call) :
    (called warnings period calls).Tells warnings period calls := by
  induction calls using List.reverseRecOn with
  | nil =>
      refine ⟨?_, ?_, rfl⟩
      · show ({ warnings, period } : Ticker α) = _
        simp [standing, due, elapsed]
      · simp [called, due, elapsed]
  | append_singleton calls call ih =>
      rw [called, List.foldl_append]
      exact ih.after call

/-- What is done with a ticker that was cancelled makes no difference to the warnings. -/
theorem due_of_cancelled (cancelled : Call.cancel ∈ calls) (more : List Call) :
    due warnings (calls ++ more) = due warnings calls := by
  induction more using List.reverseRecOn with
  | nil => rw [List.append_nil]
  | append_singleton more call ih =>
      have still := List.mem_append_left more cancelled
      rw [← List.append_assoc, due_append, if_neg fun h => h.2.2.2 still, ih, Nat.add_zero]

/-- **A ticker warns in the periods in which it runs, and in no others.** Whatever is done with it,
    in whatever order, it has given as many of its warnings, one after the other and the first one
    again after the last, as periods elapsed between its first start and its first cancellation. To
    start it again makes no difference. Whoever cancels it first is told so, and nobody else; from
    then on it is cancelled, does not run and gives no warning, whatever else is done. -/
theorem ticker_warns_while_it_runs (warnings : List α) (period : Content) (calls more : List Call) :
    let l := called warnings period calls
    let n := if warnings.isEmpty then 0 else elapsed calls
    l.ticker.count = n ∧
    (l.given.map some = (List.range n).map fun k => warnings[k % warnings.length]?) ∧
    l.told = (List.range (calls.count .cancel)).map (· == 0) ∧
    (l.ticker.cancelled = true ↔ .cancel ∈ calls) ∧
    (l.ticker.isRunning = true ↔ warnings ≠ [] ∧ .start ∈ calls ∧ .cancel ∉ calls) ∧
    (.start ∈ calls →
      called warnings period (calls ++ .start :: more) = called warnings period (calls ++ more)) ∧
    (.cancel ∈ calls →
      let later := called warnings period (calls ++ more)
      later.ticker.cancelled = true ∧ later.ticker.isRunning = false ∧
        later.ticker.count = l.ticker.count ∧ later.given = l.given) := by
  have tells := called_tells warnings period calls
  refine ⟨?_, tells.given, tells.told, ?_, ?_, fun started => ?_, fun cancelled => ?_⟩
  · rw [tells.ticker]
    rfl
  · rw [tells.ticker]
    exact decide_eq_true_iff
  · rw [tells.ticker]
    exact isRunning_standing
  · have same : (called warnings period calls).ticker.start.1 =
        (called warnings period calls).ticker := by
      rw [start_fst_eq, tells.ticker]
      simp [standing, started]
    have again : (called warnings period calls).after .start = called warnings period calls := by
      unfold Log.after
      rw [same]
    unfold called at again ⊢
    rw [List.foldl_append, List.foldl_append, List.foldl_cons, again]
  · have later := called_tells warnings period (calls ++ more)
    have still := List.mem_append_left more cancelled
    have same : due warnings (calls ++ more) = due warnings calls := due_of_cancelled cancelled more
    refine ⟨?_, ?_, ?_, ?_⟩
    · rw [later.ticker]
      exact decide_eq_true still
    · rw [later.ticker, Bool.eq_false_iff]
      exact fun h => (isRunning_standing.mp h).2.2 still
    · rw [later.ticker, tells.ticker]
      exact same
    · refine List.map_injective_iff.mpr (fun _ _ => Option.some.inj) ?_
      rw [later.given, tells.given, same]

end Ticker

end Adventure
