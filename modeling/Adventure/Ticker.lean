import Adventure.Content.Shown

/-!
# The ticker: warnings on a fixed period

* `Ticker`: a list of warnings and how far it has come;
* `Ticker.start`, `Ticker.tick`, `Ticker.cancel`: the ways in which it goes on;
* `Ticker.isRunning`: it has been started and not been cancelled.

A period that elapses while the ticker runs brings the next warning, the first one again after the
last. A ticker that was cancelled never warns again.
-/

namespace Adventure

/-- Warnings on a fixed period. -/
structure Ticker (α : Type) where
  warnings : List α
  /-- The seconds between two warnings. -/
  period : Content
  started : Bool := false
  cancelled : Bool := false
  /-- How many warnings have been given. -/
  count : Nat := 0
deriving DecidableEq

namespace Ticker

variable {α : Type}

/-- The seconds between two warnings, if nothing else is said. -/
def defaultPeriod : Content := .float (.ofInt 10)

/-- The milliseconds between two warnings. -/
def milliseconds (t : Ticker α) : Nat :=
  match t.period with
  | .int n => 1000 * n.toNat
  | .float x => x.times 1000
  | _ => 0

/-- The ticker gives warnings. -/
def isRunning (t : Ticker α) : Bool := t.started && !t.cancelled

/-- Starts the ticker, once, if it has warnings. Gives the ticker and a note of what happened. -/
def start (t : Ticker α) : Ticker α × List String :=
  if t.started || t.warnings.isEmpty then (t, [])
  else ({ t with started := true }, ["ticker started period " ++ t.period.shown])

/-- **A period elapses.** A running ticker gives its next warning. -/
def tick (t : Ticker α) : Ticker α × Option α :=
  if t.isRunning then
    match t.warnings[t.count % t.warnings.length]? with
    | some warning => ({ t with count := t.count + 1 }, some warning)
    | none => (t, none)
  else (t, none)

/-- Cancels the ticker. Tells whether this is the call that did it, with a note if so. -/
def cancel (t : Ticker α) : Ticker α × Bool × List String :=
  if t.cancelled then (t, false, [])
  else ({ t with cancelled := true }, true, ["ticker cancelled"])

end Ticker

end Adventure
