import Mathlib.Algebra.Order.Group.Defs
import Mathlib.Algebra.Order.Ring.Rat
import Mathlib.Data.List.Chain
import Mathlib.Tactic.Abel
import Ospfd.Protocol.Instance

/-!
# The hold-down of SPF runs

A run of `_run_spf` is asked for by `schedule_spf`, from the clock and the two configured
delays, in times of any ordered group.

* `SpfScheduler` — the pending flag, the time of the last run, the timers of the event loop.
* `SpfRuns` — what triggers and timers can do, while the clock does not go back and no
  timer fires early.
* `SpfScheduler.Sound` — the invariant: the deadline of the armed timer leaves both the
  delay and the hold time.
* `heldDown_of_spfRuns` — **one timer at most, no trigger lost, runs delayed and spaced**.
* `scheduleSpf_follows`, `runSpf_follows` — the instance schedules its runs this way.
-/

namespace Ospfd

/-! ## The scheduler -/

/-- A timer of the event loop for `_run_spf`. -/
structure SpfTimer (T : Type) where
  /-- The time of the call that armed it. -/
  armed : T
  due : T
  deriving DecidableEq, Repr

/-- What happened to the scheduler. -/
inductive SpfEntry (T : Type) where
  | call (time : T)
  /-- A run, with the time of the call that armed its timer. -/
  | run (armed start : T)
  deriving DecidableEq, Repr

/-- The fields of the instance that schedule SPF runs. -/
structure SpfScheduler (T : Type) where
  spfPending : Bool := false
  lastSpfTime : T
  /-- The timers of the event loop that have not fired. -/
  timers : List (SpfTimer T) := []
  /-- History: calls and runs, oldest first. -/
  log : List (SpfEntry T) := []

section Scheduler

variable {T : Type} [AddCommGroup T] [LinearOrder T]

/-- How long `schedule_spf` waits. -/
def spfDelayFrom (spfDelay spfHold lastSpfTime now : T) : T :=
  let elapsed := now - lastSpfTime
  let delay := max 0 spfDelay
  if elapsed < spfHold then max delay (spfHold - elapsed) else delay

namespace SpfScheduler

/-- `schedule_spf`, which reads the clock at `now` and calls `call_later` at `later`. -/
def scheduleSpf (spfDelay spfHold now later : T) (s : SpfScheduler T) : SpfScheduler T :=
  if s.spfPending then { s with log := s.log ++ [.call now] }
  else
    { s with
      spfPending := true
      timers := s.timers ++ [⟨now, later + spfDelayFrom spfDelay spfHold s.lastSpfTime now⟩]
      log := s.log ++ [.call now] }

/-- `_run_spf`, as the callback of a timer, at `start`. -/
def runSpf (timer : SpfTimer T) (start : T) (s : SpfScheduler T) : SpfScheduler T :=
  { s with
    spfPending := false
    lastSpfTime := start
    timers := s.timers.erase timer
    log := s.log ++ [.run timer.armed start] }

/-- The starts of the runs, oldest first. -/
def starts (s : SpfScheduler T) : List T :=
  s.log.filterMap fun
    | .call _ => none
    | .run _ start => some start

end SpfScheduler

/-- Any sequence of calls and of timers that fire, with the clock read last: it does not
go back, and the event loop fires no timer early. -/
inductive SpfRuns (spfDelay spfHold : T) : T → SpfScheduler T → Prop
  | init (clock lastSpfTime : T) : SpfRuns spfDelay spfHold clock { lastSpfTime }
  | call {clock now later : T} {s : SpfScheduler T} (h : SpfRuns spfDelay spfHold clock s)
      (hnow : clock ≤ now) (hlater : now ≤ later) :
      SpfRuns spfDelay spfHold later (s.scheduleSpf spfDelay spfHold now later)
  | fire {clock start : T} {s : SpfScheduler T} {timer : SpfTimer T}
      (h : SpfRuns spfDelay spfHold clock s) (htimer : timer ∈ s.timers) (hdue : timer.due ≤ start)
      (hstart : clock ≤ start) : SpfRuns spfDelay spfHold start (s.runSpf timer start)

/-! ## The invariant -/

/-- The armed timer leaves the delay since it was armed and the hold time since the last run. -/
structure SpfTimer.Spaced (spfDelay spfHold lastSpfTime : T) (x : SpfTimer T) : Prop where
  delay : x.armed + spfDelay ≤ x.due
  hold : lastSpfTime + spfHold ≤ x.due

/-- What every run of the scheduler keeps. -/
structure SpfScheduler.Sound (spfDelay spfHold clock : T) (s : SpfScheduler T) : Prop where
  /-- While no run is pending there is no timer, otherwise there is one. -/
  timers : s.spfPending = false ∧ s.timers = [] ∨
    s.spfPending = true ∧ ∃ x, s.timers = [x] ∧ x.Spaced spfDelay spfHold s.lastSpfTime
  last : ∀ start ∈ s.starts.getLast?, start = s.lastSpfTime
  past : ∀ time, .call time ∈ s.log → time ≤ clock
  served : ∀ before time after, s.log = before ++ .call time :: after →
    (∃ armed start, .run armed start ∈ after ∧ time ≤ start) ∨ s.timers ≠ []
  delayed : ∀ armed start, .run armed start ∈ s.log → armed + spfDelay ≤ start
  spaced : s.starts.IsChain fun a b => a + spfHold ≤ b

variable {spfDelay spfHold clock : T} {s : SpfScheduler T}

namespace SpfScheduler

theorem starts_scheduleSpf (spfDelay spfHold now later : T) (s : SpfScheduler T) :
    (s.scheduleSpf spfDelay spfHold now later).starts = s.starts := by
  rw [scheduleSpf]
  split
  all_goals exact (List.filterMap_append ..).trans (List.append_nil _)

theorem log_scheduleSpf (spfDelay spfHold now later : T) (s : SpfScheduler T) :
    (s.scheduleSpf spfDelay spfHold now later).log = s.log ++ [.call now] := by
  rw [scheduleSpf]
  split
  all_goals rfl

omit [AddCommGroup T] in
theorem starts_runSpf (timer : SpfTimer T) (start : T) (s : SpfScheduler T) :
    (s.runSpf timer start).starts = s.starts ++ [start] := List.filterMap_append ..

end SpfScheduler

/-- The last entry of a longer log, or one of the log before. -/
theorem append_singleton_cases {α : Type} {xs before after : List α} {x y : α}
    (h : xs ++ [y] = before ++ x :: after) :
    (after = [] ∧ x = y) ∨ ∃ rest, after = rest ++ [y] ∧ xs = before ++ x :: rest := by
  rcases List.eq_nil_or_concat after with rfl | ⟨rest, z, rfl⟩
  · have hlast := List.append_inj' h rfl
    exact Or.inl ⟨rfl, (List.singleton_inj.1 hlast.2).symm⟩
  · rw [List.concat_eq_append, ← List.cons_append, ← List.append_assoc] at h
    obtain ⟨hxs, hz⟩ := List.append_inj' h rfl
    exact Or.inr ⟨rest, by rw [List.concat_eq_append, List.singleton_inj.1 hz], hxs⟩

variable [IsOrderedAddMonoid T]

/-- **The deadline of a timer that is armed now.** -/
theorem spaced_of_spfDelayFrom {now later : T} (hlater : now ≤ later) (lastSpfTime : T) :
    SpfTimer.Spaced spfDelay spfHold lastSpfTime
      ⟨now, later + spfDelayFrom spfDelay spfHold lastSpfTime now⟩ := by
  have hmin : spfDelay ≤ spfDelayFrom spfDelay spfHold lastSpfTime now := by
    rw [spfDelayFrom]
    split
    · exact le_max_of_le_left (le_max_right ..)
    · exact le_max_right ..
  refine ⟨add_le_add hlater hmin, ?_⟩
  dsimp only
  by_cases hearly : now - lastSpfTime < spfHold
  · -- the rest of the hold time is waited for
    have hrest : spfHold - (now - lastSpfTime) ≤ spfDelayFrom spfDelay spfHold lastSpfTime now := by
      rw [spfDelayFrom, if_pos hearly]
      exact le_max_right ..
    calc lastSpfTime + spfHold = now + (spfHold - (now - lastSpfTime)) := by abel
      _ ≤ later + spfDelayFrom spfDelay spfHold lastSpfTime now := add_le_add hlater hrest
  · -- the hold time is over
    have hnow : lastSpfTime + spfHold ≤ now := by
      rw [add_comm]
      exact le_sub_iff_add_le.1 (not_lt.1 hearly)
    have hpos : 0 ≤ spfDelayFrom spfDelay spfHold lastSpfTime now := by
      rw [spfDelayFrom, if_neg hearly]
      exact le_max_left ..
    exact (hnow.trans hlater).trans (le_add_of_nonneg_right hpos)

namespace SpfScheduler.Sound

omit [IsOrderedAddMonoid T] in
theorem init (clock lastSpfTime : T) :
    Sound spfDelay spfHold clock ({ lastSpfTime } : SpfScheduler T) where
  timers := Or.inl ⟨rfl, rfl⟩
  last := by simp [starts]
  past := by simp
  served := by
    intro before time after h
    exact absurd h.symm (List.append_ne_nil_of_right_ne_nil _ (List.cons_ne_nil _ _))
  delayed := by simp
  spaced := List.isChain_nil

/-- A trigger keeps it. -/
theorem call {now later : T} (h : s.Sound spfDelay spfHold clock) (hnow : clock ≤ now)
    (hlater : now ≤ later) : (s.scheduleSpf spfDelay spfHold now later).Sound spfDelay spfHold later := by
  -- a run is pending afterwards
  have htimers : (s.scheduleSpf spfDelay spfHold now later).spfPending = true ∧
      ∃ x, (s.scheduleSpf spfDelay spfHold now later).timers = [x] ∧
        x.Spaced spfDelay spfHold (s.scheduleSpf spfDelay spfHold now later).lastSpfTime := by
    rw [scheduleSpf]
    rcases h.timers with ⟨hidle, hnil⟩ | ⟨hpending, hone⟩
    · rw [if_neg (by rw [hidle]; exact Bool.false_ne_true)]
      refine ⟨rfl, ⟨now, _⟩, ?_, spaced_of_spfDelayFrom hlater s.lastSpfTime⟩
      dsimp only
      rw [hnil]
      rfl
    · rw [if_pos hpending]
      exact ⟨hpending, hone⟩
  have hlast : (s.scheduleSpf spfDelay spfHold now later).lastSpfTime = s.lastSpfTime := by
    rw [scheduleSpf]
    split
    all_goals rfl
  refine ⟨Or.inr htimers, ?_, ?_, ?_, ?_, ?_⟩
  · rw [starts_scheduleSpf, hlast]
    exact h.last
  · intro time htime
    rw [log_scheduleSpf] at htime
    rcases List.mem_append.1 htime with htime | htime
    · exact (h.past time htime).trans (hnow.trans hlater)
    · cases List.mem_singleton.1 htime
      exact hlater
  · intro before time after _
    obtain ⟨-, x, hx, -⟩ := htimers
    exact Or.inr (by rw [hx]; exact List.cons_ne_nil _ _)
  · intro armed start hrun
    rw [log_scheduleSpf] at hrun
    rcases List.mem_append.1 hrun with hrun | hrun
    · exact h.delayed armed start hrun
    · cases List.mem_singleton.1 hrun
  · rw [starts_scheduleSpf]
    exact h.spaced

omit [IsOrderedAddMonoid T] in
/-- A timer that fires keeps it. -/
theorem fire {start : T} {timer : SpfTimer T} (h : s.Sound spfDelay spfHold clock)
    (htimer : timer ∈ s.timers) (hdue : timer.due ≤ start) (hstart : clock ≤ start) :
    (s.runSpf timer start).Sound spfDelay spfHold start := by
  obtain ⟨hone, hspaced⟩ : s.timers = [timer] ∧ timer.Spaced spfDelay spfHold s.lastSpfTime := by
    rcases h.timers with ⟨-, hnil⟩ | ⟨-, x, hx, hspaced⟩
    · rw [hnil] at htimer
      cases htimer
    · rw [hx] at htimer
      cases List.mem_singleton.1 htimer
      exact ⟨hx, hspaced⟩
  refine ⟨Or.inl ⟨rfl, ?_⟩, ?_, ?_, ?_, ?_, ?_⟩
  · change s.timers.erase timer = []
    rw [hone, List.erase_cons_head]
  · rw [starts_runSpf, List.getLast?_concat]
    intro t ht
    exact (Option.some.inj ht).symm
  · intro time htime
    rcases List.mem_append.1 htime with htime | htime
    · exact (h.past time htime).trans hstart
    · cases List.mem_singleton.1 htime
  · -- every call so far is served by this run
    intro before time after hlog
    rcases append_singleton_cases hlog with ⟨-, heq⟩ | ⟨rest, rfl, hrest⟩
    · cases heq
    · refine Or.inl ⟨timer.armed, start, List.mem_append_right _ (List.mem_singleton_self _), ?_⟩
      have hmem : SpfEntry.call time ∈ s.log := by
        rw [hrest]
        exact List.mem_append_right _ (List.mem_cons_self ..)
      exact (h.past time hmem).trans hstart
  · intro armed t hrun
    rcases List.mem_append.1 hrun with hrun | hrun
    · exact h.delayed armed t hrun
    · cases List.mem_singleton.1 hrun
      exact hspaced.delay.trans hdue
  · rw [starts_runSpf, List.isChain_append]
    refine ⟨h.spaced, List.isChain_singleton _, fun a ha b hb => ?_⟩
    rw [h.last a ha]
    cases Option.some.inj hb
    exact hspaced.hold.trans hdue

end SpfScheduler.Sound

theorem sound_of_spfRuns (h : SpfRuns spfDelay spfHold clock s) : s.Sound spfDelay spfHold clock := by
  induction h with
  | init clock lastSpfTime => exact .init clock lastSpfTime
  | call _ hnow hlater ih => exact ih.call hnow hlater
  | fire _ htimer hdue hstart ih => exact ih.fire htimer hdue hstart

/-- **The hold-down loses nothing**: one timer is pending at most; after a call a run is
pending, until one that starts after the call; runs start the delay after the call that
armed their timer, and the hold time after the run before. -/
theorem heldDown_of_spfRuns (h : SpfRuns spfDelay spfHold clock s) :
    s.timers.length ≤ 1 ∧
    (∀ before time after, s.log = before ++ .call time :: after →
      (∃ armed start, .run armed start ∈ after ∧ time ≤ start) ∨ s.timers ≠ []) ∧
    (∀ armed start, .run armed start ∈ s.log → armed + spfDelay ≤ start) ∧
    s.starts.IsChain fun a b => a + spfHold ≤ b := by
  have hs := sound_of_spfRuns h
  refine ⟨?_, hs.served, hs.delayed, hs.spaced⟩
  rcases hs.timers with ⟨-, hnil⟩ | ⟨-, x, hx, -⟩
  · rw [hnil]
    exact Nat.zero_le 1
  · rw [hx]
    exact le_rfl

end Scheduler

/-! ## The instance -/

/-- The scheduler of an instance, in nanoseconds. -/
structure Instance.Schedules (s : Instance) (x : SpfScheduler ℤ) : Prop where
  pending : x.spfPending = s.spfTimer.isSome
  last : x.lastSpfTime = s.lastSpfTime
  due : x.timers.map SpfTimer.due = s.spfTimer.toList.map fun (t : Nat) => (t : ℤ)

/-- The delay in natural numbers, where the last run is not in the future. -/
theorem natCast_spfDelayFrom {spfDelay spfHold last now : Nat} (hlast : last ≤ now) :
    ((if now - last < spfHold then max spfDelay (spfHold - (now - last)) else spfDelay : Nat) : ℤ) =
      spfDelayFrom (spfDelay : ℤ) spfHold last now := by
  have hpos : max 0 (spfDelay : ℤ) = spfDelay := max_eq_right (Int.natCast_nonneg _)
  rw [spfDelayFrom, hpos]
  by_cases hearly : now - last < spfHold
  · have hrest : ((spfHold - (now - last) : Nat) : ℤ) = spfHold - (now - last) := by omega
    rw [if_pos hearly, if_pos (by omega), ← hrest]
    exact Monotone.map_max fun _ _ => Int.ofNat_le.2
  · rw [if_neg hearly, if_neg (by omega)]

/-- **The instance schedules its runs like this.** -/
theorem scheduleSpf_follows {s : Instance} {x : SpfScheduler ℤ} (h : s.Schedules x)
    (hlast : s.lastSpfTime ≤ s.now) :
    (scheduleSpf s).2.Schedules (x.scheduleSpf s.spfDelay s.spfHold s.now s.now) := by
  obtain ⟨hpending, hx, hdue⟩ := h
  rw [scheduleSpf, Eff.modify_apply, SpfScheduler.scheduleSpf, hpending]
  rcases htimer : s.spfTimer with _ | t
  · rw [htimer] at hdue
    have hnil : x.timers = [] := List.map_eq_nil_iff.1 hdue
    refine ⟨rfl, hx, ?_⟩
    change (x.timers ++ [_]).map SpfTimer.due = [((s.now + _ : Nat) : ℤ)]
    rw [hnil, hx, Nat.cast_add]
    exact congrArg (fun d => [(s.now : ℤ) + d]) (natCast_spfDelayFrom hlast).symm
  · exact ⟨(congrArg Option.isSome htimer).symm, hx, hdue⟩

/-- A run of the instance is the run of the pending timer. -/
theorem runSpf_follows {s : Instance} {x : SpfScheduler ℤ} {timer : SpfTimer ℤ} (h : s.Schedules x)
    (htimer : x.timers = [timer]) : (runSpf s).2.Schedules (x.runSpf timer s.now) := by
  obtain ⟨-, hx, hdue⟩ := h
  refine ⟨rfl, rfl, ?_⟩
  change (x.timers.erase timer).map SpfTimer.due = []
  rw [htimer, List.erase_cons_head]
  rfl

/-! ### Two runs -/

/-- The first run, a second after it was asked for. -/
def firstRun : SpfScheduler ℚ :=
  (({ lastSpfTime := 0 } : SpfScheduler ℚ).scheduleSpf 1 5 10 10).runSpf ⟨10, 11⟩ 11

/-- The second run, asked for half a second after the first one. -/
def secondRun : SpfScheduler ℚ :=
  (firstRun.scheduleSpf 1 5 (23 / 2) (23 / 2)).runSpf ⟨23 / 2, 16⟩ 16

/-- It starts five seconds after the first one. -/
theorem heldDown_secondRun : secondRun.starts = [11, 16] ∧
    secondRun.starts.IsChain fun a b => a + 5 ≤ b := by
  have hfirst : SpfRuns 1 5 11 firstRun :=
    .fire (.call (.init 10 0) le_rfl le_rfl) (by decide +kernel) le_rfl (by decide +kernel)
  have hcall : SpfRuns 1 5 (23 / 2) (firstRun.scheduleSpf 1 5 (23 / 2) (23 / 2)) :=
    .call hfirst (by decide +kernel) le_rfl
  have hsecond : SpfRuns 1 5 16 secondRun :=
    .fire hcall (by decide +kernel) le_rfl (by decide +kernel)
  exact ⟨by decide +kernel, (heldDown_of_spfRuns hsecond).2.2.2⟩

end Ospfd
