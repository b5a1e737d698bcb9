import Mathlib.Data.List.Basic

/-!
# Periodic timers

A periodic timer keeps one handle, of the call that the loop has last been asked for.

* `PeriodicTimer` — the timer, and its calls that the loop still has scheduled.
* `Call`, `Fate` — what a callback does to its timer, and how it ends.
* `Moment`, `Reachable` — the runs: calls from outside, firings, calls from inside a callback.
* `Left`, `Settles` — in which condition a callback leaves its timer.
* `oneSchedule_iff` — **one schedule, exactly when no callback restarts its own timer**.
-/

namespace Ospfd

/-- What `loop.call_later` returns. -/
abbrev TimerHandle : Type := Nat

/-- A periodic timer, and its calls that the loop has neither made nor cancelled. -/
structure PeriodicTimer where
  running : Bool := false
  handle : Option TimerHandle := none
  scheduled : List TimerHandle := []
  nextHandle : TimerHandle := 0
  deriving DecidableEq, Repr

namespace PeriodicTimer

/-! ## The operations -/

/-- A call that the loop makes, or that is cancelled, is no longer scheduled. -/
def take (t : PeriodicTimer) (handle : TimerHandle) : PeriodicTimer :=
  { t with scheduled := t.scheduled.filter (· ≠ handle) }

/-- `_schedule`. -/
def schedule (t : PeriodicTimer) : PeriodicTimer :=
  if t.running then
    { t with handle := some t.nextHandle, scheduled := t.nextHandle :: t.scheduled,
             nextHandle := t.nextHandle + 1 }
  else t

/-- `start`. -/
def start (t : PeriodicTimer) : PeriodicTimer :=
  if t.running then t else schedule { t with running := true }

/-- `stop`: the handle may be of a call made already, there is nothing to cancel then. -/
def stop (t : PeriodicTimer) : PeriodicTimer :=
  match t.handle with
  | none => { t with running := false }
  | some handle => { t.take handle with running := false, handle := none }

/-- `reset`. -/
def reset (t : PeriodicTimer) : PeriodicTimer := t.stop.start

/-- What is called on a timer. -/
inductive Call where
  | start | stop | reset
  deriving DecidableEq, Repr

def call (t : PeriodicTimer) : Call → PeriodicTimer
  | .start => t.start
  | .stop => t.stop
  | .reset => t.reset

/-- How a callback ends: it returns, it raises an `Exception`, or something is raised that is none
and that `_fire` does not catch. -/
inductive Fate where
  | returned | raised | escaped
  deriving DecidableEq, Repr

/-- `_fire`, after its callback. -/
def leave (t : PeriodicTimer) : Fate → PeriodicTimer
  | .returned => t.schedule
  | .raised => t.schedule
  | .escaped => t

/-! ## Runs -/

/-- A timer between two steps of the loop or of its callback: in a callback, with the calls that it
has made so far. -/
structure Moment where
  timer : PeriodicTimer
  callback : Option (List Call)
  deriving DecidableEq, Repr

/-- The runs of a timer whose callbacks end as `ok` allows.  The loop makes one call at a time, and
only scheduled ones; while it makes one, the calls on the timer are those of the callback. -/
inductive Reachable (ok : Fate → List Call → Prop) : Moment → Prop
  | new : Reachable ok ⟨{}, none⟩
  | call {t : PeriodicTimer} (c : Call) : Reachable ok ⟨t, none⟩ → Reachable ok ⟨t.call c, none⟩
  | fire {t : PeriodicTimer} {handle : TimerHandle} : Reachable ok ⟨t, none⟩ → handle ∈ t.scheduled →
      Reachable ok ⟨t.take handle, if t.running then some [] else none⟩
  | callback {t : PeriodicTimer} {calls : List Call} (c : Call) : Reachable ok ⟨t, some calls⟩ →
      Reachable ok ⟨t.call c, some (calls ++ [c])⟩
  | leave {t : PeriodicTimer} {calls : List Call} (fate : Fate) : Reachable ok ⟨t, some calls⟩ → ok fate calls →
      Reachable ok ⟨t.leave fate, none⟩

/-- Never two schedules; one for a running timer outside its callback, and none otherwise; none after
a stop. -/
structure OneSchedule (m : Moment) : Prop where
  atMostOne : m.timer.scheduled.length ≤ 1
  exactly : m.callback = none → m.timer.scheduled.length = if m.timer.running then 1 else 0
  stopped : m.timer.stop.scheduled = []

/-! ## What a callback leaves -/

/-- In which condition a callback leaves the timer that it was called for. -/
inductive Left where
  | running | stopped | restarted
  deriving DecidableEq, Repr

def Left.after : Left → Call → Left
  | .running, .start => .running
  | .stopped, .start => .restarted
  | .restarted, .start => .restarted
  | _, .stop => .stopped
  | _, .reset => .restarted

def leftBy (calls : List Call) : Left := calls.foldl Left.after .running

/-- A callback that ends so has not restarted its timer if it is scheduled again, and has not left it
running if it is not. -/
def Settles : Fate → List Call → Prop
  | .escaped, calls => leftBy calls ≠ .running
  | _, calls => leftBy calls ≠ .restarted

/-- The timer is scheduled once, under the handle that it keeps. -/
structure Armed (t : PeriodicTimer) (h : TimerHandle) : Prop where
  running : t.running = true
  handle : t.handle = some h
  scheduled : t.scheduled = [h]

/-- The timer runs, and nothing is scheduled: its call has just been made. -/
structure Fired (t : PeriodicTimer) : Prop where
  running : t.running = true
  scheduled : t.scheduled = []

/-- The timer does not run, and nothing is scheduled. -/
structure Idle (t : PeriodicTimer) : Prop where
  running : t.running = false
  scheduled : t.scheduled = []

/-- The timer is as a callback has left it. -/
def Left.Holds : Left → PeriodicTimer → Prop
  | .running, t => Fired t
  | .stopped, t => Idle t
  | .restarted, t => ∃ h, Armed t h

/-! ## What an operation does -/

variable {t : PeriodicTimer}

theorem Fired.schedule (ht : Fired t) : Armed t.schedule t.nextHandle := by
  rw [PeriodicTimer.schedule, if_pos ht.running]
  exact ⟨ht.running, rfl, congrArg _ ht.scheduled⟩

theorem Idle.schedule (ht : Idle t) : t.schedule = t := by
  rw [PeriodicTimer.schedule, if_neg]
  rw [ht.running]
  exact Bool.false_ne_true

theorem Idle.start (ht : Idle t) : Armed t.start t.nextHandle := by
  rw [PeriodicTimer.start, if_neg (by rw [ht.running]; exact Bool.false_ne_true)]
  exact Fired.schedule (t := { t with running := true }) ⟨rfl, ht.scheduled⟩

theorem start_of_running (ht : t.running = true) : t.start = t := by
  rw [PeriodicTimer.start, if_pos ht]

theorem stop_running (t : PeriodicTimer) : t.stop.running = false := by
  unfold stop
  split <;> rfl

/-- Where nothing is scheduled, a stop has nothing to cancel. -/
theorem idle_stop_of_nil (ht : t.scheduled = []) : Idle t.stop := by
  refine ⟨stop_running t, ?_⟩
  unfold stop take
  split
  · exact ht
  · rw [ht, List.filter_nil]

/-- A stop cancels the one call under the handle of the timer. -/
theorem Armed.stop {h : TimerHandle} (ht : Armed t h) : Idle t.stop := by
  refine ⟨stop_running t, ?_⟩
  rw [PeriodicTimer.stop, ht.handle]
  change t.scheduled.filter (· ≠ h) = []
  rw [ht.scheduled]
  simp

theorem Left.Holds.stop {l : Left} (ht : l.Holds t) : Idle t.stop := by
  cases l with
  | running => exact idle_stop_of_nil ht.scheduled
  | stopped => exact idle_stop_of_nil ht.scheduled
  | restarted =>
    obtain ⟨h, ht⟩ := ht
    exact ht.stop

/-- A call on the timer moves it from one condition to the next. -/
theorem Left.Holds.call {l : Left} (ht : l.Holds t) (c : Call) : (l.after c).Holds (t.call c) := by
  cases c with
  | start =>
    cases l with
    | running =>
      rw [PeriodicTimer.call, start_of_running ht.running]
      exact ht
    | stopped => exact ⟨t.nextHandle, Idle.start ht⟩
    | restarted =>
      obtain ⟨h, ht⟩ := ht
      rw [PeriodicTimer.call, start_of_running ht.running]
      exact ⟨h, ht⟩
  | stop =>
    have hafter : l.after .stop = .stopped := by cases l <;> rfl
    rw [hafter]
    exact ht.stop
  | reset =>
    have hafter : l.after .reset = .restarted := by cases l <;> rfl
    rw [hafter]
    exact ⟨t.stop.nextHandle, ht.stop.start⟩

theorem leftBy_append (calls : List Call) (c : Call) : leftBy (calls ++ [c]) = (leftBy calls).after c := by
  rw [leftBy, leftBy, List.foldl_append, List.foldl_cons, List.foldl_nil]

theorem Left.Holds.atMostOne {l : Left} (ht : l.Holds t) : t.scheduled.length ≤ 1 := by
  cases l with
  | running => rw [ht.scheduled]; exact Nat.zero_le 1
  | stopped => rw [ht.scheduled]; exact Nat.zero_le 1
  | restarted =>
    obtain ⟨h, ht⟩ := ht
    rw [ht.scheduled]
    exact Nat.le_refl 1

/-! ## Every run -/

/-- Outside a callback the timer is armed or idle; in one it is as the calls so far have left it. -/
def Consistent : Moment → Prop
  | ⟨t, none⟩ => ∃ l : Left, l ≠ .running ∧ l.Holds t
  | ⟨t, some calls⟩ => (leftBy calls).Holds t

theorem Left.Holds.oneSchedule {l : Left} (ht : l.Holds t) (hl : l ≠ .running) : OneSchedule ⟨t, none⟩ := by
  refine ⟨ht.atMostOne, fun _ => ?_, ht.stop.scheduled⟩
  cases l with
  | running => exact absurd rfl hl
  | stopped => rw [ht.running, ht.scheduled]; rfl
  | restarted =>
    obtain ⟨h, ht⟩ := ht
    rw [ht.running, ht.scheduled]
    rfl

theorem Consistent.oneSchedule {m : Moment} (hm : Consistent m) : OneSchedule m := by
  obtain ⟨t, _ | calls⟩ := m
  · obtain ⟨l, hl, ht⟩ := hm
    exact ht.oneSchedule hl
  · exact ⟨hm.atMostOne, nofun, hm.stop.scheduled⟩

/-- A call outside a callback. -/
theorem Consistent.call (ht : Consistent ⟨t, none⟩) (c : Call) : Consistent ⟨t.call c, none⟩ := by
  obtain ⟨l, hl, ht⟩ := ht
  refine ⟨l.after c, ?_, ht.call c⟩
  cases l <;> cases c <;> first | exact absurd rfl hl | exact nofun

/-- A firing takes the one scheduled call, and leaves the timer to its callback. -/
theorem Consistent.fire (ht : Consistent ⟨t, none⟩) {h : TimerHandle} (hh : h ∈ t.scheduled) :
    Consistent ⟨t.take h, if t.running then some [] else none⟩ := by
  obtain ⟨l, hl, ht⟩ := ht
  cases l with
  | running => exact absurd rfl hl
  | stopped =>
    rw [ht.scheduled] at hh
    exact absurd hh List.not_mem_nil
  | restarted =>
    obtain ⟨armed, ht⟩ := ht
    rw [ht.scheduled, List.mem_singleton] at hh
    rw [if_pos ht.running]
    refine ⟨ht.running, ?_⟩
    rw [take, ht.scheduled, hh]
    simp

/-- What a callback leaves is consistent exactly when it settles. -/
theorem Left.Holds.leave {calls : List Call} (ht : (leftBy calls).Holds t) (fate : Fate) :
    (Settles fate calls → Consistent ⟨t.leave fate, none⟩) ∧
      (OneSchedule ⟨t.leave fate, none⟩ → Settles fate calls) := by
  have hscheduled : leftBy calls ≠ .restarted → Consistent ⟨t.schedule, none⟩ := by
    intro hsettles
    cases hl : leftBy calls with
    | running =>
      rw [hl] at ht
      exact ⟨.restarted, nofun, t.nextHandle, Fired.schedule ht⟩
    | stopped =>
      rw [hl] at ht
      rw [Idle.schedule ht]
      exact ⟨.stopped, nofun, ht⟩
    | restarted => exact absurd hl hsettles
  have hleaked : OneSchedule ⟨t.schedule, none⟩ → leftBy calls ≠ .restarted := by
    intro hone hl
    rw [hl] at ht
    obtain ⟨h, ht⟩ := ht
    have hmost := hone.atMostOne
    rw [PeriodicTimer.schedule, if_pos ht.running] at hmost
    change (t.nextHandle :: t.scheduled).length ≤ 1 at hmost
    rw [ht.scheduled] at hmost
    exact absurd hmost (by decide : ¬2 ≤ 1)
  have hlost : OneSchedule ⟨t, none⟩ → leftBy calls ≠ .running := by
    intro hone hl
    rw [hl] at ht
    have hexactly := hone.exactly rfl
    rw [ht.running, ht.scheduled] at hexactly
    exact absurd hexactly (by decide)
  cases fate with
  | returned => exact ⟨hscheduled, hleaked⟩
  | raised => exact ⟨hscheduled, hleaked⟩
  | escaped => exact ⟨fun hl => ⟨leftBy calls, hl, ht⟩, hlost⟩

/-- A run is consistent for as long as its callbacks settle. -/
theorem consistent_of_reachable {ok : Fate → List Call → Prop} {m : Moment}
    (hok : ∀ t calls fate, Reachable ok ⟨t, some calls⟩ → Consistent ⟨t, some calls⟩ → ok fate calls →
      Settles fate calls)
    (h : Reachable ok m) : Consistent m := by
  induction h with
  | new => exact ⟨.stopped, nofun, rfl, rfl⟩
  | call c _ ih => exact ih.call c
  | fire _ hh ih => exact ih.fire hh
  | callback c _ ih =>
    rw [Consistent, leftBy_append]
    exact Left.Holds.call ih c
  | leave fate hcalls hfate ih => exact (Left.Holds.leave ih fate).1 (hok _ _ fate hcalls ih hfate)

/-- **One schedule**, at every moment of every run, exactly when every callback in them that ends
settles. -/
theorem oneSchedule_iff (ok : Fate → List Call → Prop) :
    (∀ m, Reachable ok m → OneSchedule m) ↔
      ∀ t calls fate, Reachable ok ⟨t, some calls⟩ → ok fate calls → Settles fate calls := by
  constructor
  · intro hone
    have hok : ∀ t calls fate, Reachable ok ⟨t, some calls⟩ → Consistent ⟨t, some calls⟩ → ok fate calls →
        Settles fate calls := fun t calls fate hcalls ht hfate =>
      (Left.Holds.leave ht fate).2 (hone _ (.leave fate hcalls hfate))
    intro t calls fate hcalls hfate
    exact hok t calls fate hcalls (consistent_of_reachable hok hcalls) hfate
  · intro hok m hm
    have hconsistent := consistent_of_reachable (fun t calls fate hcalls _ => hok t calls fate hcalls) hm
    exact hconsistent.oneSchedule

/-- A callback that resets its own timer leaves it scheduled twice. -/
theorem reset_in_callback : ¬∀ m, Reachable (fun _ _ => True) m → OneSchedule m := by
  intro h
  have hstarted : Reachable (fun _ _ => True) ⟨start {}, none⟩ := .call .start .new
  have hfired : Reachable (fun _ _ => True) ⟨(start {}).take 0, some []⟩ := .fire hstarted (by decide)
  have hreset : Reachable (fun _ _ => True) ⟨((start {}).take 0).reset.schedule, none⟩ :=
    .leave .returned (.callback .reset hfired) trivial
  exact absurd (h _ hreset).atMostOne (by decide)

end PeriodicTimer

end Ospfd
