import Mathlib
import SubmarineSwap.Fee

namespace SubmarineSwap

theorem rateOfSatPerVbyte_of_le {v : Nat} (fits : v ≤ 73786976294838206) :
    rateOfSatPerVbyte v = some (250 * v) := by
  have bounded : v * 250 ≤ maxU64 := by unfold maxU64; omega
  simp [rateOfSatPerVbyte, bounded, Nat.mul_comm]

theorem rateOfSatPerVbyte_of_lt {v : Nat} (overflows : 73786976294838206 < v) :
    rateOfSatPerVbyte v = none := by
  have unbounded : ¬ v * 250 ≤ maxU64 := by unfold maxU64; omega
  simp [rateOfSatPerVbyte, unbounded]

namespace FeePreference

variable {v c : Nat}

theorem ofHints_of_le (fits : v ≤ 73786976294838206) :
    ofHints v c = .ok ⟨if c = 0 then none else some c, if v = 0 then none else some (250 * v)⟩ := by
  by_cases zero : v = 0
  · simp [ofHints, zero, bind, Except.bind, pure, Except.pure]
  · simp [ofHints, zero, rateOfSatPerVbyte_of_le fits, bind, Except.bind, pure, Except.pure]

theorem ofHints_eq_error_iff : (∃ e, ofHints v c = .error e) ↔ 73786976294838206 < v := by
  constructor
  · rintro ⟨e, refused⟩
    by_contra fits
    rw [ofHints_of_le (Nat.le_of_not_lt fits)] at refused
    cases refused
  · intro overflows
    have nonzero : v ≠ 0 := by omega
    simp [ofHints, nonzero, rateOfSatPerVbyte_of_lt overflows, bind, Except.bind, throw,
      throwThe, MonadExceptOf.throw]

end FeePreference

namespace FeePolicy

variable (p : FeePolicy) {pref : FeePreference} {target : Nat}

theorem estimatorTarget?_eq_some_iff :
    p.estimatorTarget? pref = some target ↔
      pref.feeRate = none ∧ target = pref.confTarget.getD p.defaultConfTarget ∧
        1 ≤ target ∧ target ≤ maxConfTarget := by
  obtain ⟨confTarget, feeRate⟩ := pref
  cases feeRate with
  | some rate => simp [estimatorTarget?]
  | none =>
    by_cases inRange : 1 ≤ confTarget.getD p.defaultConfTarget ∧
        confTarget.getD p.defaultConfTarget ≤ maxConfTarget
    · simp only [estimatorTarget?, inRange, and_self, if_true, Option.some.injEq, true_and]
      constructor
      · rintro rfl
        exact ⟨rfl, inRange⟩
      · rintro ⟨rfl, -⟩
        rfl
    · simp only [estimatorTarget?, inRange, if_false, reduceCtorEq, false_iff, true_and]
      rintro ⟨rfl, bounds⟩
      exact inRange bounds

theorem estimatorTarget?_eq_none_iff :
    p.estimatorTarget? pref = none ↔
      ¬(pref.feeRate = none ∧ 1 ≤ pref.confTarget.getD p.defaultConfTarget ∧
        pref.confTarget.getD p.defaultConfTarget ≤ maxConfTarget) := by
  simp [Option.eq_none_iff_forall_ne_some, estimatorTarget?_eq_some_iff]

theorem resolveIn_of_estimatorTarget (asked : p.estimatorTarget? pref = some target)
    {m : Type → Type} [Monad m] (estimator : FeeEstimatorIn m) :
    p.resolveIn estimator pref = estimator target >>= fun reply => pure (estimateAnswer target reply) := by
  obtain ⟨noRate, rfl, inRange⟩ := (p.estimatorTarget?_eq_some_iff).mp asked
  obtain ⟨confTarget, feeRate⟩ := pref
  obtain rfl : feeRate = none := noRate
  cases confTarget <;> simp_all [resolveIn, estimate]

theorem resolveIn_of_estimatorTarget_eq_none (skipped : p.estimatorTarget? pref = none) :
    ∃ answer : Except Error Nat, ∀ {m : Type → Type} [Monad m] (estimator : FeeEstimatorIn m),
      p.resolveIn estimator pref = pure answer := by
  obtain ⟨confTarget, feeRate⟩ := pref
  cases feeRate with
  | some rate =>
    cases confTarget with
    | some t => exact ⟨_, fun _ => rfl⟩
    | none => exact ⟨p.explicitRate rate, fun _ => rfl⟩
  | none =>
    -- with no explicit rate, the estimator is skipped only for a target out of range
    have outside : ¬(1 ≤ confTarget.getD p.defaultConfTarget ∧
        confTarget.getD p.defaultConfTarget ≤ maxConfTarget) := fun inRange =>
      (p.estimatorTarget?_eq_none_iff).mp skipped ⟨rfl, inRange⟩
    refine ⟨.error (.invalidParameters
      s!"confirmation target {confTarget.getD p.defaultConfTarget} is outside 1..={maxConfTarget}"),
      fun _ => ?_⟩
    cases confTarget <;> simp_all [resolveIn, estimate]

theorem resolve_of_estimatorTarget (asked : p.estimatorTarget? pref = some target)
    (estimator : FeeEstimator) :
    p.resolve estimator pref = estimateAnswer target (estimator target) := by
  rw [resolve, p.resolveIn_of_estimatorTarget asked]
  rfl

theorem resolve_of_both (estimator : FeeEstimator) (t r : Nat) :
    p.resolve estimator ⟨some t, some r⟩ =
      .error (.invalidParameters "only one of fee rate and confirmation target may be set") :=
  rfl

theorem resolve_of_rate (estimator : FeeEstimator) (r : Nat) :
    p.resolve estimator ⟨none, some r⟩ = p.explicitRate r :=
  rfl

theorem resolve_of_outside (estimator : FeeEstimator) {t : Option Nat}
    (outside : ¬(1 ≤ t.getD p.defaultConfTarget ∧ t.getD p.defaultConfTarget ≤ maxConfTarget)) :
    p.resolve estimator ⟨t, none⟩ = .error (.invalidParameters
      s!"confirmation target {t.getD p.defaultConfTarget} is outside 1..={maxConfTarget}") := by
  cases t <;> simp_all [resolve, resolveIn, estimate]

variable {p} {r : Nat}

theorem explicitRate_of_le (allowed : r ≤ p.maxFeeRate) :
    p.explicitRate r = .ok (max r feeRateFloor) := by
  simp [explicitRate, Nat.not_lt.mpr allowed]

theorem explicitRate_eq_ok_iff {rate : Nat} :
    p.explicitRate r = .ok rate ↔ r ≤ p.maxFeeRate ∧ rate = max r feeRateFloor := by
  by_cases allowed : r ≤ p.maxFeeRate
  · simp [explicitRate_of_le allowed, allowed, eq_comm]
  · simp [explicitRate, Nat.lt_of_not_le allowed, allowed]

theorem explicitRate_eq_error_iff :
    (∃ e, p.explicitRate r = .error e ∧ e.kind = .invalidParameters) ↔ p.maxFeeRate < r := by
  constructor
  · rintro ⟨e, refused, -⟩
    by_contra allowed
    rw [explicitRate_of_le (Nat.le_of_not_lt allowed)] at refused
    cases refused
  · intro above
    simp [explicitRate, above, Error.invalidParameters, Error.kind]

section Answers

variable {target rate : Nat} {reply : Except Error Nat}

theorem estimateAnswer_eq_ok_iff :
    estimateAnswer target reply = .ok rate ↔ ∃ r, reply = .ok r ∧ 0 < r ∧ rate = max r feeRateFloor := by
  rcases reply with e | _ | r
  · simp [estimateAnswer]
  · simp [estimateAnswer]
  · simp [estimateAnswer, eq_comm]

theorem estimateAnswer_error_kind {e : Error} (refused : estimateAnswer target reply = .error e) :
    e.kind = .feeEstimationUnavailable := by
  rcases reply with e' | _ | r
  · cases refused
    rfl
  · cases refused
    rfl
  · cases refused

theorem estimateAnswer_of_no_rate (noRate : (∃ e, reply = .error e) ∨ reply = .ok 0) :
    ∃ e, estimateAnswer target reply = .error e ∧ e.kind = .feeEstimationUnavailable := by
  rcases noRate with ⟨e, rfl⟩ | rfl <;> exact ⟨_, rfl, rfl⟩

end Answers

end FeePolicy

theorem FeePolicy.floor_le_of_resolve_eq_ok {p : FeePolicy} {estimator : FeeEstimator}
    {pref : FeePreference} {rate : Nat} (resolved : p.resolve estimator pref = .ok rate) :
    feeRateFloor ≤ rate := by
  cases asked : p.estimatorTarget? pref with
  | some target =>
    rw [p.resolve_of_estimatorTarget asked] at resolved
    obtain ⟨r, -, -, rfl⟩ := FeePolicy.estimateAnswer_eq_ok_iff.mp resolved
    exact le_max_right _ _
  | none =>
    obtain ⟨confTarget, feeRate⟩ := pref
    cases feeRate with
    | some r =>
      cases confTarget with
      | some t => simp [FeePolicy.resolve_of_both] at resolved
      | none =>
        rw [FeePolicy.resolve_of_rate] at resolved
        obtain ⟨-, rfl⟩ := FeePolicy.explicitRate_eq_ok_iff.mp resolved
        exact le_max_right _ _
    | none =>
      have outside : ¬(1 ≤ confTarget.getD p.defaultConfTarget ∧
          confTarget.getD p.defaultConfTarget ≤ maxConfTarget) := fun inRange =>
        (p.estimatorTarget?_eq_none_iff).mp asked ⟨rfl, inRange⟩
      rw [p.resolve_of_outside estimator outside] at resolved
      cases resolved

/-- How a fee preference resolves: the estimator, in any monad, is asked at most once, and only
without an explicit rate and for a target in range; every refusal is named. -/
theorem fee_preference_resolution (p : FeePolicy) :
    (∀ pref : FeePreference,
      (pref.feeRate = none ∧ 1 ≤ pref.confTarget.getD p.defaultConfTarget ∧
          pref.confTarget.getD p.defaultConfTarget ≤ maxConfTarget →
        ∀ {m : Type → Type} [Monad m] (estimator : FeeEstimatorIn m),
          p.resolveIn estimator pref =
            estimator (pref.confTarget.getD p.defaultConfTarget) >>= fun reply =>
              pure (FeePolicy.estimateAnswer (pref.confTarget.getD p.defaultConfTarget) reply)) ∧
      (¬(pref.feeRate = none ∧ 1 ≤ pref.confTarget.getD p.defaultConfTarget ∧
          pref.confTarget.getD p.defaultConfTarget ≤ maxConfTarget) →
        ∃ answer : Except Error Nat, ∀ {m : Type → Type} [Monad m] (estimator : FeeEstimatorIn m),
          p.resolveIn estimator pref = pure answer)) ∧
    (∀ (estimator : FeeEstimator) (t r : Nat),
      ∃ e, p.resolve estimator ⟨some t, some r⟩ = .error e ∧ e.kind = .invalidParameters) ∧
    (∀ (estimator : FeeEstimator) (r : Nat),
      ((∃ e, p.resolve estimator ⟨none, some r⟩ = .error e ∧ e.kind = .invalidParameters) ↔
          p.maxFeeRate < r) ∧
        (r ≤ p.maxFeeRate → p.resolve estimator ⟨none, some r⟩ = .ok (max r feeRateFloor))) ∧
    (∀ (estimator : FeeEstimator) (t : Option Nat),
      (¬(1 ≤ t.getD p.defaultConfTarget ∧ t.getD p.defaultConfTarget ≤ maxConfTarget) →
        ∃ e, p.resolve estimator ⟨t, none⟩ = .error e ∧ e.kind = .invalidParameters) ∧
      (1 ≤ t.getD p.defaultConfTarget ∧ t.getD p.defaultConfTarget ≤ maxConfTarget →
        ((∃ e, estimator (t.getD p.defaultConfTarget) = .error e) ∨
            estimator (t.getD p.defaultConfTarget) = .ok 0 →
          ∃ e, p.resolve estimator ⟨t, none⟩ = .error e ∧ e.kind = .feeEstimationUnavailable) ∧
        (∀ rate, estimator (t.getD p.defaultConfTarget) = .ok rate → 0 < rate →
          p.resolve estimator ⟨t, none⟩ = .ok (max rate feeRateFloor)))) ∧
    (∀ (estimator : FeeEstimator) (pref : FeePreference) (rate : Nat),
      p.resolve estimator pref = .ok rate → feeRateFloor ≤ rate) ∧
    (∀ v c : Nat,
      ((∃ e, FeePreference.ofHints v c = .error e) ↔ 73786976294838206 < v) ∧
      (v ≤ 73786976294838206 → FeePreference.ofHints v c =
        .ok ⟨if c = 0 then none else some c, if v = 0 then none else some (250 * v)⟩)) := by
  refine ⟨?calls, fun estimator t r => ⟨_, p.resolve_of_both estimator t r, rfl⟩, ?rate, ?target,
    fun _ _ _ resolved => FeePolicy.floor_le_of_resolve_eq_ok resolved,
    fun v c => ⟨FeePreference.ofHints_eq_error_iff, FeePreference.ofHints_of_le⟩⟩
  case calls =>
    intro pref
    constructor
    · rintro ⟨noRate, inRange⟩
      exact p.resolveIn_of_estimatorTarget ((p.estimatorTarget?_eq_some_iff).mpr ⟨noRate, rfl, inRange⟩)
    · intro skipped
      exact p.resolveIn_of_estimatorTarget_eq_none ((p.estimatorTarget?_eq_none_iff).mpr skipped)
  case rate =>
    intro estimator r
    rw [p.resolve_of_rate]
    exact ⟨FeePolicy.explicitRate_eq_error_iff, FeePolicy.explicitRate_of_le⟩
  case target =>
    intro estimator t
    constructor
    · intro outside
      exact ⟨_, p.resolve_of_outside estimator outside, rfl⟩
    · intro inRange
      have asked : p.estimatorTarget? ⟨t, none⟩ = some (t.getD p.defaultConfTarget) :=
        (p.estimatorTarget?_eq_some_iff).mpr ⟨rfl, rfl, inRange⟩
      rw [p.resolve_of_estimatorTarget asked]
      refine ⟨FeePolicy.estimateAnswer_of_no_rate, fun rate answered positive => ?_⟩
      exact FeePolicy.estimateAnswer_eq_ok_iff.mpr ⟨rate, answered, positive, rfl⟩

end SubmarineSwap
