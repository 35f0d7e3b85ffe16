import Mathlib.Data.Rat.Floor
import Mathlib.Tactic.Linarith
import Redial.Engine.Pause
import Redial.Proofs.Outcome

/-! # Exact numbers and times

    On rationals no operation rounds, so that every number is the value it stands for
    and the operations on numbers are those of the field.

    A system's clock then refuses exactly the pauses that are negative or too long.  A
    pause that is not negative may be slept exactly if it may be waited for. -/

namespace Redial

/-! ## Section 1: Numbers -/

/-- A rational without its fraction, if it is not negative. -/
theorem truncateRat_eq_floor {q : Rat} (hq : 0 ≤ q) : truncateRat q = ⌊q⌋ := by
  rw [Rat.floor_def', truncateRat, Int.tdiv_eq_ediv_of_nonneg (Rat.num_nonneg.mpr hq)]

namespace Number

/-- The rational that a number is. -/
def value : Number Rat → Rat
  | whole n => n
  | truth b => if b then 1 else 0
  | real x => x

@[simp] theorem value_whole (n : Int) : (whole n).value = n := rfl

@[simp] theorem value_real (x : Rat) : (real x).value = x := rfl

theorem exact_eq_value (n : Number Rat) : n.exact = .finite n.value := by
  cases n <;> rfl

theorem lt_iff (a b : Number Rat) : a.lt b = true ↔ a.value < b.value := by
  rw [lt, exact_eq_value, exact_eq_value]
  exact decide_eq_true_iff

theorem le_iff (a b : Number Rat) : a.le b = true ↔ a.value ≤ b.value := by
  rw [le, exact_eq_value, exact_eq_value, le_iff_lt_or_eq]
  simp [Exact.le, Exact.lt, Exact.eq]

theorem toReal_eq (a : Number Rat) : a.toReal = .ok a.value := by
  cases a <;> rfl

theorem int?_value {a : Number Rat} {m : Int} (ha : a.int? = some m) : a.value = m := by
  cases a with
  | whole n =>
    cases ha
    rfl
  | truth b =>
    cases ha
    cases b <;> rfl
  | real x => cases ha

/-- An operation that is the same on integers and on rationals is that on the values. -/
theorem lift_value {onInts : Int → Int → Int} {onReals : Rat → Rat → Rat}
    (hsame : ∀ m n : Int, ((onInts m n : Int) : Rat) = onReals m n) {a b c : Number Rat}
    (hlift : lift onInts onReals a b = .ok c) : c.value = onReals a.value b.value := by
  unfold lift at hlift
  split at hlift
  · next m n ha hb =>
    cases hlift
    rw [int?_value ha, int?_value hb]
    exact hsame m n
  · rw [toReal_eq, toReal_eq] at hlift
    cases hlift
    rfl

theorem add_value {a b c : Number Rat} (h : a.add b = .ok c) : c.value = a.value + b.value :=
  lift_value (fun m n => Int.cast_add m n) h

theorem sub_value {a b c : Number Rat} (h : a.sub b = .ok c) : c.value = a.value - b.value :=
  lift_value (fun m n => Int.cast_sub m n) h

theorem mul_value {a b c : Number Rat} (h : a.mul b = .ok c) : c.value = a.value * b.value :=
  lift_value (fun m n => Int.cast_mul m n) h

theorem div_value {a b : Number Rat} {x : Rat} (h : a.div b = .ok x) :
    x = a.value / b.value := by
  unfold div at h
  split at h
  · next m n ha hb =>
    split at h
    · cases h
    · cases h
      rw [int?_value ha, int?_value hb]
  · obtain ⟨_, ha, h⟩ := ok_of_bind h
    obtain ⟨_, hb, h⟩ := ok_of_bind h
    rw [toReal_eq] at ha hb
    cases ha
    cases hb
    split at h
    · cases h
    · cases h
      rfl

theorem truncate_eq {a : Number Rat} (ha : 0 ≤ a.value) : a.truncate = .ok ⌊a.value⌋ := by
  rw [truncate, exact_eq_value]
  exact congrArg Except.ok (truncateRat_eq_floor ha)

/-- No rational is out of range, so every operation but a division has a result. -/
theorem lift_ok (onInts : Int → Int → Int) (onReals : Rat → Rat → Rat) (a b : Number Rat) :
    ∃ c, lift onInts onReals a b = .ok c := by
  unfold lift
  split
  · exact ⟨_, rfl⟩
  · rw [toReal_eq, toReal_eq]
    exact ⟨_, rfl⟩

theorem add_ok (a b : Number Rat) : ∃ c, a.add b = .ok c := lift_ok _ _ a b

theorem sub_ok (a b : Number Rat) : ∃ c, a.sub b = .ok c := lift_ok _ _ a b

theorem mul_ok (a b : Number Rat) : ∃ c, a.mul b = .ok c := lift_ok _ _ a b

theorem div_ok (a : Number Rat) {b : Number Rat} (hb : b.value ≠ 0) : ∃ x, a.div b = .ok x := by
  unfold div
  split
  · next m n hm hn =>
    have hdivisor : n ≠ 0 := by
      intro hzero
      apply hb
      rw [int?_value hn, hzero]
      rfl
    rw [if_neg hdivisor]
    exact ⟨_, rfl⟩
  · have hdivisor : ¬ (Arith.exact b.value).eq (.finite 0) = true := by
      intro hzero
      exact hb (beq_iff_eq.mp hzero)
    rw [toReal_eq, toReal_eq]
    exact ⟨_, if_neg hdivisor⟩

end Number

/-! ## Section 2: A system's clock -/

namespace Engine

/-- Every pause has a length. -/
theorem seconds_exact (millis : Number Rat) : seconds millis = .ok (millis.value / 1000) := by
  unfold seconds
  rw [Number.toReal_eq, Number.toReal_eq]
  rfl

theorem seconds_nonneg {millis : Number Rat} {span : Rat}
    (hforward : (Number.whole 0).le millis = true) (hspan : seconds millis = .ok span) :
    0 ≤ span := by
  cases (seconds_exact millis).symm.trans hspan
  rw [Number.le_iff, Number.value_whole, Int.cast_zero] at hforward
  exact div_nonneg hforward (by norm_num)

theorem nanos_exact (span : Rat) : nanos span = .ok (.real (span * 10 ^ 9)) := by
  have hunit : (10 : Rat) ^ 9 = ((1000000000 : Int) : Rat) := by norm_num
  rw [hunit]
  rfl

theorem clockRange_cast : ((clockRange : Int) : Rat) = 2 ^ 63 := by
  norm_num [clockRange]

theorem lt_clockRange (x : Rat) :
    (Number.real x).lt (.whole clockRange) = decide (x < 2 ^ 63) := by
  rw [Bool.eq_iff_iff, Number.lt_iff, decide_eq_true_iff, Number.value_whole, clockRange_cast]
  rfl

theorem lt_neg_clockRange (x : Rat) :
    (Number.real x).lt (.whole (-clockRange)) = decide (x < -2 ^ 63) := by
  rw [Bool.eq_iff_iff, Number.lt_iff, decide_eq_true_iff, Number.value_whole, Int.cast_neg,
    clockRange_cast]
  rfl

/-- A sleep is refused if it is longer than the clock can count, and otherwise if it is
    negative. -/
theorem checkSleep_exact (span : Rat) :
    checkSleep span =
      if span * 10 ^ 9 < -2 ^ 63 ∨ 2 ^ 63 ≤ span * 10 ^ 9 then .error .pauseTooLong
      else if span < 0 then .error .negativeSleep else .ok () := by
  have hnegative : (Number.real (span * 10 ^ 9)).isNegative = decide (span < 0) := by
    rw [Bool.eq_iff_iff, Number.isNegative, Number.lt_iff, decide_eq_true_iff,
      Number.value_whole, Int.cast_zero, Number.value_real]
    constructor <;> intro hlt <;> linarith
  have hrange : ((Number.real (span * 10 ^ 9)).lt (.whole (-clockRange)) ||
      !(Number.real (span * 10 ^ 9)).lt (.whole clockRange)) = true ↔
        span * 10 ^ 9 < -2 ^ 63 ∨ 2 ^ 63 ≤ span * 10 ^ 9 := by
    rw [lt_neg_clockRange, lt_clockRange]
    simp
  rw [checkSleep, nanos_exact]
  split_ifs with hlong hback
  · exact if_pos (hrange.mpr hlong)
  · exact (if_neg (mt hrange.mp hlong)).trans (if_pos (hnegative.trans (decide_eq_true hback)))
  · exact (if_neg (mt hrange.mp hlong)).trans
      (if_neg (Bool.eq_false_iff.mp (hnegative.trans (decide_eq_false hback))))

/-- A wait is refused if it is longer than the clock can count, unless the event is set. -/
theorem checkWait_exact (isSet : Bool) (span : Rat) :
    checkWait isSet span =
      if isSet = false ∧ 2 ^ 63 ≤ span * 10 ^ 9 then .error .pauseTooLong else .ok () := by
  have hpositive : (Number.real span).isPositive = decide (0 < span) := by
    rw [Bool.eq_iff_iff, Number.isPositive, Number.lt_iff, decide_eq_true_iff,
      Number.value_whole, Int.cast_zero, Number.value_real]
  rw [checkWait, nanos_exact, hpositive]
  cases isSet with
  | true => rfl
  | false =>
    -- a length that is too long is positive
    have hlong : 2 ^ 63 ≤ span * 10 ^ 9 → 0 < span := fun hlong => by linarith
    simp only [Bool.not_false, Bool.true_and, decide_eq_true_eq, true_and]
    split_ifs with hspan hlarge hlarge
    · exact if_pos (by simp [lt_clockRange, hlarge])
    · exact if_neg (by simpa [lt_clockRange] using hlarge)
    · exact (hspan (hlong hlarge)).elim
    · rfl

/-- A pause that is not negative may be slept if and only if it may be waited for. -/
theorem systemCheck_forward {span : Rat} (hspan : 0 ≤ span) (isSet : Bool) :
    systemCheck true false span = systemCheck false isSet span := by
  have hforth : ¬ span * 10 ^ 9 < -2 ^ 63 := by linarith
  show checkWait false span = checkSleep span
  rw [checkWait_exact, checkSleep_exact, if_neg (not_lt.mpr hspan)]
  simp only [hforth, false_or, true_and]

end Engine

end Redial
