import SubmarineSwap.Error
import SubmarineSwap.Amount

namespace SubmarineSwap

/-- The lowest rate, 253 sat/kwu, just above one satoshi per virtual byte. -/
def feeRateFloor : Nat := 253

def standardConfTarget : Nat := 6

def maxConfTarget : Nat := 1008

def rateOfSatPerVbyte (satPerVbyte : Nat) : Option Nat :=
  if satPerVbyte * 250 ≤ maxU64 then some (satPerVbyte * 250) else none

structure FeePreference where
  confTarget : Option Nat := none
  feeRate : Option Nat := none
  deriving DecidableEq, Repr

/-- Hints as callers give them, where zero means "not given". -/
def FeePreference.ofHints (satPerVbyte confTarget : Nat) : Except Error FeePreference := do
  let rate ← if satPerVbyte = 0 then pure none
    else match rateOfSatPerVbyte satPerVbyte with
      | some r => pure (some r)
      | none => throw (.invalidParameters s!"fee rate {satPerVbyte} sat/vB overflows")
  pure ⟨if confTarget = 0 then none else some confTarget, rate⟩

/-- The ceiling for explicit rates and the target used when the caller gives neither. -/
structure FeePolicy where
  maxFeeRate : Nat
  defaultConfTarget : Nat
  deriving DecidableEq, Repr

abbrev FeeEstimator := Nat → Except Error Nat

/-- A fee estimator as the caller hands it over; it may keep state or have other effects, which the
monad `m` carries. -/
abbrev FeeEstimatorIn (m : Type → Type) := Nat → m (Except Error Nat)

namespace FeePolicy

def standard : FeePolicy := ⟨2500000, standardConfTarget⟩

/-- An explicit rate: refused above the maximum, raised to the floor below it. -/
def explicitRate (p : FeePolicy) (rate : Nat) : Except Error Nat :=
  if rate > p.maxFeeRate then
    .error (.invalidParameters s!"fee rate {rate} sat/kwu exceeds maximum of {p.maxFeeRate} sat/kwu")
  else .ok (max rate feeRateFloor)

/-- The target the estimator is asked about: only when no explicit rate is given, and only for a
target in `1 .. 1008`. -/
def estimatorTarget? (p : FeePolicy) (pref : FeePreference) : Option Nat :=
  match pref.feeRate with
  | some _ => none
  | none =>
    let t := pref.confTarget.getD p.defaultConfTarget
    if 1 ≤ t ∧ t ≤ maxConfTarget then some t else none

/-- The rate the estimator's reply for a target gives: a failure or a zero rate means no
estimate, and a rate is raised to the floor. -/
def estimateAnswer (target : Nat) : Except Error Nat → Except Error Nat
  | .error e =>
    .error (.context s!"failed to estimate fee for target {target}" (.wrap .feeEstimationUnavailable e))
  | .ok 0 =>
    .error (.raise .feeEstimationUnavailable s!"estimator returned no fee rate for target {target}")
  | .ok rate => .ok (max rate feeRateFloor)

variable {m : Type → Type} [Monad m]

def estimate (estimator : FeeEstimatorIn m) (target : Nat) : m (Except Error Nat) :=
  if ¬(1 ≤ target ∧ target ≤ maxConfTarget) then
    pure (.error (.invalidParameters s!"confirmation target {target} is outside 1..={maxConfTarget}"))
  else do
    let reply ← estimator target
    pure (estimateAnswer target reply)

def resolveIn (p : FeePolicy) (estimator : FeeEstimatorIn m) (pref : FeePreference) :
    m (Except Error Nat) :=
  match pref.confTarget, pref.feeRate with
  | some _, some _ =>
    pure (.error (.invalidParameters "only one of fee rate and confirmation target may be set"))
  | _, some rate => pure (p.explicitRate rate)
  | target, none => estimate estimator (target.getD p.defaultConfTarget)

def resolve (p : FeePolicy) (estimator : FeeEstimator) (pref : FeePreference) : Except Error Nat :=
  Id.run (p.resolveIn (fun target => pure (estimator target)) pref)

end FeePolicy

/-- `ceil(rate * weight / 1000)`, refused when the product or the rounding overflows 64 bits. -/
def feeForWeight (rate weight : Nat) : Except Error Nat :=
  if rate * weight + 999 ≤ maxU64 then .ok ((rate * weight + 999) / 1000)
  else .error (.invalidParameters "fee computation overflows")

end SubmarineSwap
