import Mathlib.Data.Rat.Floor
import Escrow.Engine.Views
import Escrow.Proofs.Engine.Action
import Escrow.Proofs.Engine.Solvency

/-! The countdown of a time criterion agrees with its verdict.

A lock's description shows a time criterion either as a countdown, `unlocks in D days (Ns)`, or
as `matured at T`. The countdown is driven by the saturating difference of the unlock time and the
clock, the verdict by a comparison of the two. The difference is positive exactly when the clock is
before the unlock time, and then it is the exact difference capped at the latest timestamp, so the
description counts down exactly while the engine says the criterion does not hold, at every pair of
times. `describe_time_agrees_with_isSatisfied` states this with the countdown in unbounded integer
arithmetic and the day count as a floor.
-/

set_option autoImplicit false

namespace Escrow

theorem timestampMax_pos : 0 < timestampMax := by decide

/-- The saturating difference is positive exactly when the later time is after the earlier one:
clamping keeps the sign, since the lower bound is negative and the upper one positive. -/
theorem timestampGap_pos_iff (later earlier : Int) :
    0 < timestampGap later earlier ↔ earlier < later := by
  unfold timestampGap
  have capped := timestampMax_pos
  have floor : 0 < Int.ofNat (Nat.pow 2 63) := by decide
  omega

theorem timestampGap_of_lt {later earlier : Int} (before : earlier < later) :
    timestampGap later earlier = min (later - earlier) timestampMax := by
  unfold timestampGap
  have capped := timestampMax_pos
  have floor : 0 < Int.ofNat (Nat.pow 2 63) := by decide
  omega

theorem Engine.isSatisfied_time {e : Engine} {r : CriterionRef} {c : TimeRecord} (now : Int)
    (isTime : r.kind = .time) (found : e.store.timeRecord? r.id = some c) :
    e.isSatisfied r now = .ok (decide (c.unlockTimestamp ≤ now)) := by
  simp [Engine.isSatisfied, isTime, found]

theorem Action.run_describeCriterion_time (s : Session) {r : CriterionRef} {c : TimeRecord}
    (now : Int) (isTime : r.kind = .time) (found : s.engine.store.timeRecord? r.id = some c) :
    (Action.describeCriterion r now).run s =
      .ok ("  time#" ++ toString r.id ++ ": " ++
        if 0 < timestampGap c.unlockTimestamp now then
          "unlocks in " ++ toString (timestampGap c.unlockTimestamp now / 86400) ++ " days (" ++
            toString (timestampGap c.unlockTimestamp now) ++ "s)"
        else "matured at " ++ toString c.unlockTimestamp) s := by
  unfold Action.describeCriterion Action.viewTime
  simp only [isTime, EStateM.run_bind, Action.run_store, found, EStateM.run_pure]
  split <;> rfl

/-- A description shows a time criterion as a countdown exactly when the engine finds it unmet,
for every unlock time and every clock. The countdown is the time left, computed without bounds and
capped at the latest timestamp, and the whole days in it, rounded down; a met criterion shows its
unlock time. -/
theorem describe_time_agrees_with_isSatisfied (s : Session) (r : CriterionRef) (now : Int)
    (c : TimeRecord) (isTime : r.kind = .time) (found : s.engine.store.timeRecord? r.id = some c) :
    ∃ satisfied, s.engine.isSatisfied r now = .ok satisfied ∧
      (Action.describeCriterion r now).run s =
        .ok ("  time#" ++ toString r.id ++ ": " ++
          if satisfied then "matured at " ++ toString c.unlockTimestamp
          else
            "unlocks in " ++
              toString ⌊((min (c.unlockTimestamp - now) timestampMax : Int) : ℚ) / 86400⌋ ++
              " days (" ++ toString (min (c.unlockTimestamp - now) timestampMax) ++ "s)") s := by
  refine ⟨decide (c.unlockTimestamp ≤ now), Engine.isSatisfied_time now isTime found, ?_⟩
  rw [Action.run_describeCriterion_time s now isTime found]
  by_cases matured : c.unlockTimestamp ≤ now
  case pos =>
    have quiet : ¬ 0 < timestampGap c.unlockTimestamp now :=
      fun counting => absurd ((timestampGap_pos_iff _ _).mp counting) (not_lt.mpr matured)
    simp [matured, quiet]
  case neg =>
    have before : now < c.unlockTimestamp := lt_of_not_ge matured
    -- integer division by a positive divisor rounds down
    have days : ⌊((min (c.unlockTimestamp - now) timestampMax : Int) : ℚ) / 86400⌋ =
        min (c.unlockTimestamp - now) timestampMax / 86400 := by
      exact_mod_cast Rat.floor_intCast_div_natCast (min (c.unlockTimestamp - now) timestampMax) 86400
    rw [days, if_pos ((timestampGap_pos_iff _ _).mpr before), timestampGap_of_lt before]
    simp [matured]

/-- The lock of `ownerLockRun` matures at time 60; at the earliest clock the time left exceeds
the latest timestamp, so the countdown is capped. -/
theorem describe_time_counts_down_at_earliest_clock :
    ownerLockRun.engine.store.timeRecord? 0 = some ⟨0, 0, 60⟩ ∧
    ∃ satisfied, ownerLockRun.engine.isSatisfied ⟨0, .time, 0⟩ (-9223372036854775808) = .ok satisfied ∧
      (Action.describeCriterion ⟨0, .time, 0⟩ (-9223372036854775808)).run ownerLockRun =
        .ok ("  time#" ++ toString 0 ++ ": " ++
          if satisfied then "matured at " ++ toString (60 : Int)
          else
            "unlocks in " ++
              toString ⌊((min (60 - -9223372036854775808) timestampMax : Int) : ℚ) / 86400⌋ ++
              " days (" ++ toString (min ((60 : Int) - -9223372036854775808) timestampMax) ++ "s)")
          ownerLockRun := by
  have fields : (ownerLockRun.engine.store.timeRecord? 0).map
      (fun c => (c.id, c.lockTimestamp, c.unlockTimestamp)) = some (0, 0, 60) := by decide +kernel
  have found : ownerLockRun.engine.store.timeRecord? 0 = some ⟨0, 0, 60⟩ := by
    obtain ⟨⟨id, lockedAt, unlocksAt⟩, found, same⟩ := Option.map_eq_some_iff.mp fields
    simp only [Prod.mk.injEq] at same
    obtain ⟨rfl, rfl, rfl⟩ := same
    exact found
  exact ⟨found, describe_time_agrees_with_isSatisfied ownerLockRun ⟨0, .time, 0⟩ (-9223372036854775808)
    ⟨0, 0, 60⟩ rfl found⟩

end Escrow
