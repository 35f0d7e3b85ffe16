import Redial.Proofs.Backoff.Intervals

/-! # Whether intervals grow

    A product is cut off before it becomes the next interval, so a multiplier above one
    need not move an interval: 1 multiplied by 3/2 is 1 again.  Below the cap an interval
    grows just if its product reaches the next whole number.

    A longer interval is moved further, so the first interval decides.  If it grows, every
    one after it does, and as each pause that is granted adds at least one millisecond,
    the cap is reached after at most as many pauses as it lies above the first interval.
    If it does not grow, it never changes, and the policy pauses for the same interval up
    to its limit. -/

namespace Redial.Backoff.Exponential

/-! ## Section 1: One multiplication -/

section grow

variable {multiplier : Rat} {cap i j : Int}

/-- Below the cap an interval grows just if its product reaches the next whole number. -/
theorem lt_grow_iff (hi : i < cap) :
    i < grow multiplier cap i ↔ (i : Rat) + 1 ≤ i * multiplier := by
  unfold grow
  split
  · next hreached =>
    have hnext : (i : Rat) + 1 ≤ cap := by exact_mod_cast hi
    exact ⟨fun _ => hnext.trans hreached, fun _ => hi⟩
  · rw [← Int.add_one_le_iff, Int.le_floor, Int.cast_add, Int.cast_one]

/-- A longer interval is moved further. -/
theorem next_le_mul_mono (hmultiplier : 1 ≤ multiplier) (hij : i ≤ j)
    (hi : (i : Rat) + 1 ≤ i * multiplier) : (j : Rat) + 1 ≤ j * multiplier := by
  have hmoved : (i : Rat) * (multiplier - 1) ≤ j * (multiplier - 1) :=
    mul_le_mul_of_nonneg_right (Int.cast_le.mpr hij) (sub_nonneg.mpr hmultiplier)
  linarith

/-- An interval that does not grow stays. -/
theorem grow_eq_self (hmultiplier : 1 ≤ multiplier) (hnonneg : 0 ≤ i) (hi : i < cap)
    (hstuck : (i : Rat) * multiplier < i + 1) : grow multiplier cap i = i := by
  have hnot : ¬ i < grow multiplier cap i := by
    rw [lt_grow_iff hi, not_le]
    exact hstuck
  exact le_antisymm (not_lt.mp hnot) (le_grow hmultiplier hnonneg hi.le)

end grow

/-! ## Section 2: Histories -/

variable {e q : Exponential Rat} {initial cap limit i : Int} {t now draw made : Rat}
  {ops later : List (Operation Rat)}

/-- If the first interval grows, every pause that is granted adds at least a millisecond,
    up to the cap. -/
theorem Stage.climbs (he : e.Whole initial cap limit)
    (hfirst : (initial : Rat) + 1 ≤ initial * e.multiplier.value)
    (hq : Stage e initial cap t q i) (hops : Timely t ops) (hno : NoReset ops) :
    ∃ q' i', (Policy.exponential q).after ops = .exponential q' ∧
      Stage e initial cap (clockAfter t ops) q' i' ∧
      min cap (i + (Policy.exponential q).granted ops) ≤ i' := by
  -- by induction on the operations; every interval lies above the first, so it grows too
  induction ops generalizing t q i with
  | nil => exact ⟨q, i, rfl, hq, by simp [Policy.granted]⟩
  | cons op ops ih =>
    obtain ⟨q₁, i₁, hoperate, hq₁, -, hmoves⟩ := hq.operate he hops.1
    obtain ⟨q', i', hafter, hq', hle⟩ := ih hq₁ hops.2 hno.tail
    have hstep : min cap (i + if (Policy.exponential q).grantsAt op then 1 else 0) ≤ i₁ := by
      rw [hmoves.resolve_left fun h => hno op (List.mem_cons_self ..) h.1,
        hq.parameters.2.2.2.2]
      split
      · by_cases hi : i < cap
        · have hgrows := (lt_grow_iff hi).mpr
            (next_le_mul_mono he.within.multiplier hq.between.1 hfirst)
          omega
        · have hstays := le_grow he.within.multiplier (hq.nonneg he) hq.between.2
          omega
      · omega
    refine ⟨q', i', ?_, hq', ?_⟩
    · rw [Policy.after_cons, hoperate]
      exact hafter
    · rw [Policy.granted, hoperate]
      by_cases hgrants : (Policy.exponential q).grantsAt op = true
      · rw [if_pos hgrants] at hstep ⊢
        omega
      · rw [if_neg hgrants] at hstep ⊢
        omega

/-- If the first interval does not grow, it is the only one. -/
theorem Stage.stuck (he : e.Whole initial cap limit) (hbelow : initial < cap)
    (hfirst : (initial : Rat) * e.multiplier.value < initial + 1)
    (hq : Stage e initial cap t q initial) (hops : Timely t ops) :
    ∃ q', (Policy.exponential q).after ops = .exponential q' ∧
      Stage e initial cap (clockAfter t ops) q' initial := by
  -- by induction on the operations; a reset leads back to the first interval as well
  induction ops generalizing t q with
  | nil => exact ⟨q, rfl, hq⟩
  | cons op ops ih =>
    obtain ⟨q₁, i₁, hoperate, hq₁, -, hmoves⟩ := hq.operate he hops.1
    have hi₁ : i₁ = initial := by
      rcases hmoves with ⟨-, hreset⟩ | hkept
      · exact hreset
      · rw [hkept, hq.parameters.2.2.2.2,
          grow_eq_self he.within.multiplier he.initial_pos.le hbelow hfirst, ite_self]
    rw [hi₁] at hq₁
    obtain ⟨q', hafter, hq'⟩ := ih hq₁ hops.2
    refine ⟨q', ?_, hq'⟩
    rw [Policy.after_cons, hoperate]
    exact hafter

/-! ## Section 3: Policies as they are made -/

/-- Every pause that is granted below the cap lets the interval grow. -/
def AlwaysGrows (e : Exponential Rat) (made : Rat) (cap : Int) : Prop :=
  ∀ ops now draw i j, Timely made (ops ++ [.next now draw]) → e.Stands ops i → i < cap →
    e.reply ops now draw ≠ .ok stop → e.Stands (ops ++ [.next now draw]) j → i < j

/-- Which intervals of a policy grow. -/
structure Growth (e : Exponential Rat) (made : Rat) (initial cap : Int) (multiplier : Rat) :
    Prop where
  /-- An interval below the cap grows by a granted pause just if its product reaches the
      next whole number. -/
  grows_iff : ∀ ops now draw i j, Timely made (ops ++ [.next now draw]) → e.Stands ops i →
    i < cap → e.reply ops now draw ≠ .ok stop → e.Stands (ops ++ [.next now draw]) j →
    (i < j ↔ (i : Rat) + 1 ≤ i * multiplier)
  /-- All of them do just if the first one does, or is the cap. -/
  always_iff : e.AlwaysGrows made cap ↔
    initial = cap ∨ (initial : Rat) + 1 ≤ initial * multiplier
  /-- Then the cap is reached after as many granted pauses as it is milliseconds away, and
      kept up to the next reset. -/
  reaches : e.AlwaysGrows made cap → ∀ ops later i, Timely made (ops ++ later) →
    NoReset later → e.Stands ops i → cap - i ≤ ((Policy.exponential e).after ops).granted later →
    e.Stands (ops ++ later) cap
  /-- Otherwise the first interval is never left. -/
  stuck : ¬ e.AlwaysGrows made cap → ∀ ops, Timely made ops → e.Stands ops initial

/-- A granted pause leads to the next interval. -/
theorem Fresh.grown (he : e.Fresh made initial cap limit)
    (hops : Timely made (ops ++ [.next now draw])) (hi : e.Stands ops i)
    (hgranted : e.reply ops now draw ≠ .ok stop) :
    e.Stands (ops ++ [.next now draw]) (grow e.multiplier.value cap i) := by
  obtain ⟨q, i', hafter, hq, -, ⟨-, hrefused⟩ | ⟨-, hanswer⟩⟩ := he.asked hops
  · rw [reply, hafter] at hgranted
    exact absurd hrefused.millis hgranted
  · obtain rfl : i = i' := hi.eq hafter hq.interval
    refine ⟨{ q with current := q.grownInterval }, ?_, hq.grownInterval he.whole⟩
    rw [Policy.after_snoc, hafter]
    exact hanswer.policy

theorem Stands.unique {j : Int} (hi : e.Stands ops i) (hj : e.Stands ops j) : i = j := by
  obtain ⟨q, hafter, hj⟩ := hj
  exact hi.eq hafter hj

theorem Fresh.grows_iff (he : e.Fresh made initial cap limit)
    (hops : Timely made (ops ++ [.next now draw])) (hi : e.Stands ops i) (hbelow : i < cap)
    (hgranted : e.reply ops now draw ≠ .ok stop) {j : Int}
    (hj : e.Stands (ops ++ [.next now draw]) j) :
    i < j ↔ (i : Rat) + 1 ≤ i * e.multiplier.value := by
  rw [← (he.grown hops hi hgranted).unique hj]
  exact lt_grow_iff hbelow

theorem Fresh.stands (he : e.Fresh made initial cap limit) : e.Stands [] initial :=
  ⟨e, rfl, he.current ▸ he.whole.initial⟩

/-- The first pause is asked for when no time has passed, and is granted. -/
theorem Fresh.grants_first (he : e.Fresh made initial cap limit) :
    Timely made ([] ++ [.next made 0]) ∧ e.reply [] made 0 ≠ .ok stop := by
  have hops : Timely made ([] ++ [.next made 0]) := ⟨⟨le_rfl, le_rfl, zero_lt_one⟩, trivial⟩
  have hlimit : 0 < limit := by
    have hpos := he.whole.within.limit
    rw [Number.int?_value he.whole.limit] at hpos
    exact Int.cast_pos.mp hpos
  have hwithin : ⌊(made - lastReset made []) * 1000⌋ ≤ limit := by
    show ⌊(made - made) * 1000⌋ ≤ limit
    rw [sub_self, zero_mul, Int.floor_zero]
    exact hlimit.le
  obtain ⟨pause, hreply, hpause, -⟩ := he.granted hops hwithin he.stands
  refine ⟨hops, ?_⟩
  rw [hreply]
  exact pause_ne_stop hpause

theorem Fresh.alwaysGrows_iff (he : e.Fresh made initial cap limit) :
    e.AlwaysGrows made cap ↔
      initial = cap ∨ (initial : Rat) + 1 ≤ initial * e.multiplier.value := by
  constructor
  · intro halways
    rcases he.whole.initial_le.eq_or_lt with hcap | hbelow
    · exact .inl hcap
    -- the very first pause is granted, and shows whether the first interval grows
    · right
      obtain ⟨hops, hgranted⟩ := he.grants_first
      have hgrown := he.grown hops he.stands hgranted
      exact (lt_grow_iff hbelow).mp (halways _ _ _ _ _ hops he.stands hbelow hgranted hgrown)
  · intro hfirst ops now draw i j hops hi hbelow hgranted hj
    obtain ⟨k, hk, hinitial, -⟩ := he.bounded (timely_next.mp hops).1
    rw [← hi.unique hk] at hinitial
    rw [he.grows_iff hops hi hbelow hgranted hj]
    refine next_le_mul_mono he.whole.within.multiplier hinitial (hfirst.resolve_left ?_)
    omega

theorem Fresh.reaches (he : e.Fresh made initial cap limit)
    (hfirst : initial = cap ∨ (initial : Rat) + 1 ≤ initial * e.multiplier.value)
    (hops : Timely made (ops ++ later)) (hno : NoReset later) (hi : e.Stands ops i)
    (hgranted : cap - i ≤ ((Policy.exponential e).after ops).granted later) :
    e.Stands (ops ++ later) cap := by
  obtain ⟨hearlier, hlater⟩ := timely_append.mp hops
  obtain ⟨q, i', hafter, hq, -⟩ := he.after hearlier
  obtain rfl : i = i' := hi.eq hafter hq.interval
  rw [hafter] at hgranted
  rcases hfirst with rfl | hfirst
  -- the interval is at the cap from the first on
  · obtain ⟨q', i', hafter', hq', -, honward⟩ := hq.after he.whole hlater
    have hstays : i' = initial := (honward hno).2 (le_antisymm hq.between.2 hq.between.1)
    refine ⟨q', ?_, hstays ▸ hq'.interval⟩
    rw [Policy.after_append, hafter, hafter']
  · obtain ⟨q', i', hafter', hq', hle⟩ := hq.climbs he.whole hfirst hlater hno
    have hreached : i' = cap := by
      have hbetween := hq'.between
      omega
    refine ⟨q', ?_, hreached ▸ hq'.interval⟩
    rw [Policy.after_append, hafter, hafter']

/-- The intervals of an exponential policy that its constructor accepts with whole intervals
    and a whole limit grow up to the cap just if the first multiplication moves the first
    interval. -/
theorem exponential_growth {first factor multiplier last span : Number Rat} {codes : Value}
    {made : Rat} {e : Exponential Rat} {initial cap limit : Int}
    (hmake : Exponential.make first factor multiplier last span codes made = .ok e)
    (hinitial : first.int? = some initial) (hcap : last.int? = some cap)
    (hlimit : span.int? = some limit) : e.Growth made initial cap multiplier.value := by
  obtain ⟨rfl, he⟩ := fresh_of_make hmake hinitial hcap hlimit
  refine {
    grows_iff := fun ops now draw i j hops hi hbelow hgranted hj =>
      he.grows_iff hops hi hbelow hgranted hj
    always_iff := he.alwaysGrows_iff
    reaches := fun halways ops later i hops hno hi hgranted =>
      he.reaches (he.alwaysGrows_iff.mp halways) hops hno hi hgranted
    stuck := ?_ }
  intro hnot ops hops
  rw [he.alwaysGrows_iff, not_or, not_le] at hnot
  have hbelow : initial < cap := lt_of_le_of_ne he.whole.initial_le hnot.1
  obtain ⟨q, hafter, hq⟩ := (he.whole.stage rfl).stuck he.whole hbelow hnot.2 hops
  exact ⟨q, hafter, hq.interval⟩

/-- An interval of one millisecond that is to be lengthened by a half stays, although the
    cap is two milliseconds. -/
theorem exponential_growth_stuck :
    let e : Exponential Rat :=
      ⟨.whole 1, .whole 0, .real (3 / 2), .whole 2, .whole 900000, codesOf defaultCodes,
        .whole 1, 0⟩
    Exponential.make (.whole 1) (.whole 0) (.real (3 / 2)) (.whole 2) (.whole 900000)
        (codesOf defaultCodes) 0 = .ok e ∧
      e.Growth 0 1 2 (3 / 2) ∧ ¬ e.AlwaysGrows 0 2 ∧
      e.Stands [.next 0 0, .next 1 0] 1 := by
  intro e
  have hwithin : e.Within := by
    constructor <;> norm_num [e, Number.value]
  have hmake : Exponential.make (.whole 1) (.whole 0) (.real (3 / 2)) (.whole 2) (.whole 900000)
      (codesOf defaultCodes) 0 = .ok e := hwithin.make
  have hgrowth : e.Growth 0 1 2 (3 / 2) := exponential_growth hmake rfl rfl rfl
  have hnot : ¬ e.AlwaysGrows 0 2 := by
    rw [hgrowth.always_iff]
    norm_num
  have hops : Timely 0 [.next 0 0, .next 1 0] := by
    norm_num [Timely, Operation.Follows, Operation.clock]
  exact ⟨hmake, hgrowth, hnot, hgrowth.stuck hnot _ hops⟩

end Redial.Backoff.Exponential
