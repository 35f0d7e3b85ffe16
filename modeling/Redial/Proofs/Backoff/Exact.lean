import Mathlib.Tactic.Linarith
import Mathlib.Tactic.Ring
import Redial.Proofs.Backoff.Histories
import Redial.Proofs.ExactTimes

/-! # Exponential backoff on exact rationals

    On rationals no operation rounds, so that every number is the value it stands for
    and the operations of a policy are those of the field, up to the two places where
    a fraction is cut off: the time since the reset and the length of a pause are whole
    milliseconds.

    What bounds a policy is then said once, in `Exponential.Within`: the interval stays
    between zero and the cap, whatever the policy is asked. -/

namespace Redial

/-! ## Section 1: Parameters -/

namespace Backoff.Exponential

variable {p : Exponential Rat} {now draw : Rat}

/-- Parameters that the constructor accepts, and an interval up to the cap. -/
structure Within (p : Exponential Rat) : Prop where
  factor : 0 ≤ p.factor.value ∧ p.factor.value < 1
  multiplier : 1 ≤ p.multiplier.value
  limit : 0 < p.limit.value
  initial : 0 < p.initial.value ∧ p.initial.value ≤ p.cap.value
  current : 0 ≤ p.current.value ∧ p.current.value ≤ p.cap.value

/-- A check that goes through unless its condition holds. -/
theorem unless_iff {f : ParameterFault} {c : Bool} :
    (if c then .error f else .ok () : Except ParameterFault Unit) = .ok () ↔ c = false := by
  cases c <;> simp

theorem checkInitial_iff {initial : Number Rat} :
    checkInitial initial = .ok () ↔ 0 < initial.value := by
  rw [checkInitial, unless_iff, Bool.eq_false_iff, ne_eq, Number.le_iff, not_le]
  rfl

theorem checkFactor_iff {factor : Number Rat} :
    checkFactor factor = .ok () ↔ 0 ≤ factor.value ∧ factor.value < 1 := by
  rw [checkFactor, unless_iff, Bool.not_eq_false', Bool.and_eq_true, Number.le_iff, Number.lt_iff]
  rfl

theorem checkMultiplier_iff {multiplier : Number Rat} :
    checkMultiplier multiplier = .ok () ↔ 1 ≤ multiplier.value := by
  rw [checkMultiplier, unless_iff, Bool.eq_false_iff, ne_eq, Number.lt_iff, not_lt]
  rfl

theorem checkCap_iff {initial cap : Number Rat} :
    checkCap initial cap = .ok () ↔ initial.value ≤ cap.value := by
  rw [checkCap, unless_iff, Bool.eq_false_iff, ne_eq, Number.lt_iff, not_lt]

theorem checkLimit_iff {limit : Number Rat} : checkLimit limit = .ok () ↔ 0 < limit.value := by
  rw [checkLimit, unless_iff, Bool.eq_false_iff, ne_eq, Number.le_iff, not_le]
  rfl

/-- What the constructor makes. -/
theorem within_of_make {initial factor multiplier cap limit : Number Rat} {codes : Value}
    (hmake : make initial factor multiplier cap limit codes now = .ok p) :
    p = ⟨initial, factor, multiplier, cap, limit, codes, initial, now⟩ ∧ p.Within := by
  obtain ⟨_, hinitial, hmake⟩ := ok_of_bind hmake
  obtain ⟨_, hfactor, hmake⟩ := ok_of_bind hmake
  obtain ⟨_, hmultiplier, hmake⟩ := ok_of_bind hmake
  obtain ⟨_, hcap, hmake⟩ := ok_of_bind hmake
  obtain ⟨_, hlimit, hmake⟩ := ok_of_bind hmake
  cases hmake
  have hfirst := checkInitial_iff.mp hinitial
  exact ⟨rfl, {
    factor := checkFactor_iff.mp hfactor
    multiplier := checkMultiplier_iff.mp hmultiplier
    limit := checkLimit_iff.mp hlimit
    initial := ⟨hfirst, checkCap_iff.mp hcap⟩
    current := ⟨hfirst.le, checkCap_iff.mp hcap⟩ }⟩

/-- The constructor accepts parameters that are within their bounds. -/
theorem Within.make (hp : p.Within) :
    Exponential.make p.initial p.factor p.multiplier p.cap p.limit p.codes now
      = .ok (p.reset now) := by
  unfold Exponential.make
  rw [checkInitial_iff.mpr hp.initial.1, checkFactor_iff.mpr hp.factor,
    checkMultiplier_iff.mpr hp.multiplier, checkCap_iff.mpr hp.initial.2,
    checkLimit_iff.mpr hp.limit]
  rfl

theorem Within.reset (hp : p.Within) (now : Rat) : (p.reset now).Within :=
  { hp with current := ⟨hp.initial.1.le, hp.initial.2⟩ }

/-! ## Section 2: The interval after a pause -/

/-- The interval after a granted pause: multiplied and without its fraction, or the cap if
    that would reach it. -/
def grownInterval (p : Exponential Rat) : Number Rat :=
  if p.cap.value ≤ p.current.value * p.multiplier.value then p.cap
  else .whole ⌊p.current.value * p.multiplier.value⌋

/-- The cap is compared with the interval after a division, which comes to the same as a
    comparison with the product. -/
theorem Within.grown_eq (hp : p.Within) : p.grown = .ok p.grownInterval := by
  have hmultiplier : 0 < p.multiplier.value := lt_of_lt_of_le one_pos hp.multiplier
  obtain ⟨turn, hturn⟩ := Number.div_ok p.cap hmultiplier.ne'
  obtain ⟨product, hproduct⟩ := Number.mul_ok p.current p.multiplier
  have hvalue : product.value = p.current.value * p.multiplier.value := Number.mul_value hproduct
  have hnonneg : 0 ≤ product.value := by
    rw [hvalue]
    exact mul_nonneg hp.current.1 hmultiplier.le
  have hreached : (Number.real turn).le p.current = true
      ↔ p.cap.value ≤ p.current.value * p.multiplier.value := by
    rw [Number.le_iff, Number.value_real, Number.div_value hturn, div_le_iff₀ hmultiplier]
  have hwhole := Number.truncate_eq hnonneg
  rw [hvalue] at hwhole
  simp only [Exponential.grown, grownInterval, bind, Except.bind, hturn, hproduct, hwhole]
  by_cases hcap : p.cap.value ≤ p.current.value * p.multiplier.value
  · rw [if_pos hcap, if_pos (hreached.mpr hcap)]
    rfl
  · rw [if_neg hcap, if_neg (mt hreached.mp hcap)]
    rfl

/-- The interval grows up to the cap. -/
theorem Within.grown (hp : p.Within) {current : Number Rat} (hgrown : p.grown = .ok current) :
    ({ p with current := current } : Exponential Rat).Within := by
  have hproduct : 0 ≤ p.current.value * p.multiplier.value :=
    mul_nonneg hp.current.1 (zero_le_one.trans hp.multiplier)
  rw [hp.grown_eq] at hgrown
  cases hgrown
  refine { hp with current := ?_ }
  show 0 ≤ p.grownInterval.value ∧ p.grownInterval.value ≤ p.cap.value
  unfold grownInterval
  split
  · exact ⟨hp.initial.1.le.trans hp.initial.2, le_rfl⟩
  · next hbelow =>
    exact ⟨Int.cast_nonneg (Int.floor_nonneg.mpr hproduct),
      (Int.floor_le _).trans (not_le.mp hbelow).le⟩

/-! ## Section 3: The length of a pause -/

/-- The point of the widened interval at a draw. -/
def point (p : Exponential Rat) (draw : Rat) : Rat :=
  p.current.value * (1 - p.factor.value + 2 * p.factor.value * draw)

theorem Within.point_bounds (hp : p.Within) (hdraw : 0 ≤ draw ∧ draw < 1) :
    p.current.value * (1 - p.factor.value) ≤ p.point draw ∧
      p.point draw ≤ p.current.value * (1 + p.factor.value) := by
  have hspread : 0 ≤ p.factor.value * draw := mul_nonneg hp.factor.1 hdraw.1
  have hspread_le : p.factor.value * draw ≤ p.factor.value :=
    mul_le_of_le_one_right hp.factor.1 hdraw.2.le
  exact ⟨mul_le_mul_of_nonneg_left (by linarith) hp.current.1,
    mul_le_mul_of_nonneg_left (by linarith) hp.current.1⟩

theorem Within.point_nonneg (hp : p.Within) (hdraw : 0 ≤ draw ∧ draw < 1) :
    0 ≤ p.point draw :=
  (mul_nonneg hp.current.1 (sub_nonneg.mpr hp.factor.2.le)).trans (hp.point_bounds hdraw).1

/-- A pause is that point without its fraction. -/
theorem Within.interval_eq (hp : p.Within) (hdraw : 0 ≤ draw ∧ draw < 1) :
    p.interval draw = .ok ⌊p.point draw⌋ := by
  obtain ⟨delta, hdelta⟩ := Number.mul_ok p.factor p.current
  obtain ⟨low, hlow⟩ := Number.sub_ok p.current delta
  obtain ⟨high, hhigh⟩ := Number.add_ok p.current delta
  obtain ⟨width, hwidth⟩ := Number.sub_ok high low
  obtain ⟨offset, hoffset⟩ := Number.mul_ok width (.real draw)
  obtain ⟨drawn, hdrawn⟩ := Number.add_ok low offset
  have hpoint : drawn.value = p.point draw := by
    rw [Number.add_value hdrawn, Number.mul_value hoffset, Number.sub_value hwidth,
      Number.add_value hhigh, Number.sub_value hlow, Number.mul_value hdelta, Number.value_real,
      point]
    ring
  rw [← hpoint, ← Number.truncate_eq (hpoint.symm ▸ hp.point_nonneg hdraw)]
  simp only [Exponential.interval, widened, bind, Except.bind, pure, Except.pure, hdelta, hlow,
    hhigh, hwidth, hoffset, hdrawn]

/-- A pause lies in the widened interval. -/
theorem Within.interval (hp : p.Within) (hdraw : 0 ≤ draw ∧ draw < 1) {pause : Int}
    (hinterval : p.interval draw = .ok pause) :
    0 ≤ pause ∧ (pause : Rat) ≤ (1 + p.factor.value) * p.current.value := by
  rw [hp.interval_eq hdraw] at hinterval
  cases hinterval
  refine ⟨Int.floor_nonneg.mpr (hp.point_nonneg hdraw), ?_⟩
  calc ((⌊p.point draw⌋ : Int) : Rat) ≤ p.point draw := Int.floor_le _
    _ ≤ p.current.value * (1 + p.factor.value) := (hp.point_bounds hdraw).2
    _ = (1 + p.factor.value) * p.current.value := mul_comm _ _

/-! ## Section 4: The time since the reset -/

/-- The time since the reset is compared in whole milliseconds. -/
theorem isExpired_eq (hnow : p.started ≤ now) :
    p.isExpired now = .ok (p.limit.lt (.whole ⌊(now - p.started) * 1000⌋)) := by
  obtain ⟨millis, hmillis⟩ :=
    Number.mul_ok (.real (Arith.sub now p.started)) (.whole 1000)
  have hvalue : millis.value = (now - p.started) * 1000 := Number.mul_value hmillis
  have hnonneg : 0 ≤ millis.value := by
    rw [hvalue]
    exact mul_nonneg (sub_nonneg.mpr hnow) (by norm_num)
  have helapsed : p.elapsed now = .ok ⌊(now - p.started) * 1000⌋ := by
    rw [elapsed, hmillis, ← hvalue]
    exact Number.truncate_eq hnonneg
  rw [isExpired, helapsed]
  rfl

/-- A policy that is not expired was reset less than a millisecond more than its limit
    ago. -/
theorem elapsed_lt (hnow : p.started ≤ now) (hexpired : p.isExpired now = .ok false) :
    (now - p.started) * 1000 < p.limit.value + 1 := by
  rw [isExpired_eq hnow, Except.ok.injEq, Bool.eq_false_iff, ne_eq, Number.lt_iff, not_lt]
    at hexpired
  calc (now - p.started) * 1000 < (⌊(now - p.started) * 1000⌋ : Int) + 1 :=
        Int.lt_floor_add_one _
    _ ≤ p.limit.value + 1 := add_le_add_left hexpired 1

end Backoff.Exponential

end Redial
