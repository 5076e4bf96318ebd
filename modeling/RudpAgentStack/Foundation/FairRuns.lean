import RudpAgentStack.Foundation.Machine
import Mathlib.Data.Set.Finite.Basic
import Mathlib.Order.Filter.AtTopBot.Basic
import Mathlib.Order.Filter.Finite
import Mathlib.Algebra.Order.Ring.Rat

/-!
# Infinite runs and fairness

An infinite run of a machine goes on from a reachable state; at every time
one enabled action is taken or nothing happens.  "Infinitely often" is
Mathlib's `∃ᶠ time in atTop`.  Three rules carry a liveness proof: a bounded
measure that keeps growing gets to its bound, a timer that is looked at
forever fires forever, and of finitely many packets sent infinitely often a
fair lossy carrier delivers one infinitely often.
-/

namespace Foundation

open Filter

universe u v

namespace Machine

variable {State : Type u} {Action : Type v}

/-- The state after an action or after nothing. -/
def advance (machine : Machine State Action) (state : State) :
    Option Action → State
  | none => state
  | some action => machine.next state action

/-- An infinite run from a reachable state, with pauses. -/
structure InfiniteRun (machine : Machine State Action) where
  state : ℕ → State
  action : ℕ → Option Action
  start : machine.Reachable (state 0)
  enabled : ∀ time action', action time = some action' →
    machine.Enabled (state time) action'
  next : ∀ time, state (time + 1) = machine.advance (state time) (action time)

namespace InfiniteRun

variable {machine : Machine State Action}

theorem reachable (run : machine.InfiniteRun) (time : ℕ) :
    machine.Reachable (run.state time) := by
  induction time with
  | zero => exact run.start
  | succ time inductionHypothesis =>
      rw [run.next]
      cases taken : run.action time with
      | none => exact inductionHypothesis
      | some action =>
          exact inductionHypothesis.next (run.enabled time action taken)

/-- What no action undoes holds between any two times of a run. -/
theorem related (run : machine.InfiniteRun)
    {Related : State → State → Prop}
    (refl : ∀ state, Related state state)
    (trans : ∀ first second third,
      Related first second → Related second third → Related first third)
    (step : ∀ state action, Related state (machine.next state action))
    {time later : ℕ} (after : time ≤ later) :
    Related (run.state time) (run.state later) := by
  induction later, after using Nat.le_induction with
  | base => exact refl _
  | succ later after inductionHypothesis =>
      apply trans _ _ _ inductionHypothesis
      rw [run.next]
      cases run.action later with
      | none => exact refl _
      | some action => exact step _ action

/-- The run whose actions are given, from a reachable state on. -/
def states (machine : Machine State Action) (start : State)
    (action : ℕ → Option Action) : ℕ → State
  | 0 => start
  | time + 1 =>
      machine.advance (states machine start action time) (action time)

/-- Enabled actions make an infinite run. -/
def ofActions {start : State} (reachable : machine.Reachable start)
    (action : ℕ → Option Action)
    (enabled : ∀ time action', action time = some action' →
      machine.Enabled (states machine start action time) action') :
    machine.InfiniteRun where
  state := states machine start action
  action := action
  start := reachable
  enabled := enabled
  next := fun _ => rfl

end InfiniteRun

end Machine

/-! ## Measures -/

/-- A measure that grows again and again as long as it is below a goal gets
to the goal. -/
theorem exists_le_of_grows
    {measure : ℕ → ℤ} {goal : ℤ} {start : ℕ}
    (grows : ∀ time, start ≤ time → measure time < goal →
      ∃ later, time ≤ later ∧ measure time < measure later) :
    ∃ time, start ≤ time ∧ goal ≤ measure time := by
  -- Induction on what is missing to the goal.
  induction missing : (goal - measure start).toNat
    using Nat.strong_induction_on generalizing start with
  | h missing inductionHypothesis =>
      by_cases below : measure start < goal
      · obtain ⟨later, after, grown⟩ := grows start le_rfl below
        obtain ⟨time, afterLater, reached⟩ := inductionHypothesis
          (goal - measure later).toNat (by omega)
          (fun time afterLater => grows time (after.trans afterLater)) rfl
        exact ⟨time, after.trans afterLater, reached⟩
      · exact ⟨start, le_rfl, not_lt.mp below⟩

/-! ## Timers -/

/-- A timer with a stamp fires when it is looked at `limit` after the stamp,
and only firing renews the stamp.  Looked at ever later, it fires infinitely
often. -/
theorem frequently_of_timer
    {stamp : ℕ → ℚ} {limit : ℚ} {fires : ℕ → Prop} {looks : ℕ → ℚ → Prop}
    {start : ℕ}
    (renewed : ∀ time, start ≤ time → ¬ fires time →
      stamp (time + 1) = stamp time)
    (expires : ∀ time now, start ≤ time → looks time now →
      stamp time + limit ≤ now → fires time)
    (ticks : ∀ bound, ∃ᶠ time in atTop, ∃ now, bound ≤ now ∧
      looks time now) :
    ∃ᶠ time in atTop, fires time := by
  intro quiet
  obtain ⟨last, silent⟩ := eventually_atTop.mp
    (quiet.and (eventually_ge_atTop start))
  have afterStart : start ≤ last := (silent last le_rfl).2
  have kept : ∀ time, last ≤ time → stamp time = stamp last := by
    intro time after
    induction time, after using Nat.le_induction with
    | base => rfl
    | succ time after inductionHypothesis =>
        rw [renewed time (afterStart.trans after) (silent time after).1,
          inductionHypothesis]
  obtain ⟨time, after, now, late, looked⟩ :=
    frequently_atTop.mp (ticks (stamp last + limit)) last
  apply (silent time after).1
  apply expires time now (afterStart.trans after) looked
  rw [kept time after]
  exact late

/-! ## Lossy carriers -/

/-- A carrier may lose packets, but what it is handed infinitely often it
delivers infinitely often. -/
def FairLossy {Packet : Type u} (handed delivered : Packet → ℕ → Prop) :
    Prop :=
  ∀ packet, (∃ᶠ time in atTop, handed packet time) →
    ∃ᶠ time in atTop, delivered packet time

/-- Of finitely many packets one is handed over infinitely often when some
are. -/
theorem exists_frequently_of_finite
    {Packet : Type u} {packets : Set Packet} (finite : packets.Finite)
    {handed : Packet → ℕ → Prop}
    (frequently : ∃ᶠ time in atTop, ∃ packet ∈ packets, handed packet time) :
    ∃ packet ∈ packets, ∃ᶠ time in atTop, handed packet time := by
  by_contra none
  apply frequently
  have never : ∀ᶠ time in atTop, ∀ packet ∈ packets,
      ¬ handed packet time := by
    rw [eventually_all_finite finite]
    intro packet member
    by_contra often
    exact none ⟨packet, member, often⟩
  filter_upwards [never] with time quiet
  rintro ⟨packet, member, sent⟩
  exact quiet packet member sent

/-- A carrier whose packets travel on a fair lossy one is fair: what it is
handed the other one is handed, and what the other one delivers of it late
enough it delivers. -/
theorem FairLossy.of_carrier
    {Packet : Type u} {handed delivered handed' delivered' : Packet → ℕ → Prop}
    (fair : FairLossy handed delivered)
    (sends : ∀ packet time, handed' packet time → handed packet time)
    (arrives : ∀ packet first, handed' packet first →
      ∀ time, first < time → delivered packet time → delivered' packet time) :
    FairLossy handed' delivered' := by
  intro packet often
  obtain ⟨first, _, sent⟩ := frequently_atTop.mp often 0
  have delivered := fair packet (often.mono (sends packet))
  refine (delivered.and_eventually (eventually_gt_atTop first)).mono ?_
  rintro time ⟨arrived, after⟩
  exact arrives packet first sent time after arrived

end Foundation
