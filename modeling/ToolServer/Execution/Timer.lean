/-
Timers:

* `ticks`, `tickOf`: the clock in whole milliseconds, rounded down for the
  present and up for a deadline;
* `isDue`: whether a timer with some deadline has gone off;
* `timerAfter`: the deadline of a timer that is set now;
* `wakeTime`: the time at which a pause that starts now is over.

A timer goes off at the first whole millisecond at or after its deadline.
-/
import ToolServer.Duration.Basic

namespace ToolServer.Execution

/-- The nanoseconds of a millisecond. -/
def tickLength : Nat := 1000000

/-- The whole milliseconds that have passed. -/
def ticks (now : Nat) : Nat := now / tickLength

/-- The millisecond at which a timer goes off. -/
def tickOf (deadline : Nat) : Nat := (deadline + (tickLength - 1)) / tickLength

/-- Whether a timer with this deadline has gone off. -/
def isDue (deadline now : Nat) : Bool := decide (tickOf deadline ≤ ticks now)

/-- The span from which on a timer is set to the far future instead. -/
def endlessSpan : Nat := Duration.secs 0x8000000000000000

/-- The deadline of a timer that is set now. -/
def timerAfter (now : Nat) (span : Nat) : Nat :=
  if endlessSpan ≤ now + span then now + Duration.farFuture else now + span

/-- The time at which the clock stands at some millisecond, if it runs on from
now in whole milliseconds. -/
def timeAtTick (now tick : Nat) : Nat :=
  tick * tickLength + now % tickLength

/-- The time at which a pause that starts now is over. -/
def wakeTime (now span : Nat) : Nat :=
  max now (timeAtTick now (tickOf (timerAfter now span)))

/-- A timer never goes off before its deadline. -/
theorem le_of_isDue {deadline now : Nat} (h : isDue deadline now = true) :
    deadline ≤ now := by
  have h := of_decide_eq_true h
  simp only [tickOf, ticks, tickLength] at h
  omega

/-- A timer that has gone off stays so. -/
theorem isDue_mono {deadline now later : Nat} (le : now ≤ later)
    (h : isDue deadline now = true) : isDue deadline later = true := by
  have h := of_decide_eq_true h
  refine decide_eq_true ?_
  simp only [tickOf, ticks, tickLength] at h ⊢
  omega

end ToolServer.Execution
