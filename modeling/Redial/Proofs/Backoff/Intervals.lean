import Redial.Proofs.Backoff.Exact

/-! # The intervals of an exponential policy

    A policy whose first interval, cap and limit are whole numbers has a whole interval
    after every history of operations, because a product is cut off before it becomes the
    next interval.  One question for a pause does one of two things, and all else follows:

    - if more whole milliseconds than the limit have passed since the last reset, the
      answer is a refusal and nothing changes;
    - otherwise a point of the widened interval is answered, and the interval becomes
      `grow multiplier cap i`.

    So between two resets the interval climbs from the first one towards the cap, and as
    the clock does not go back, a refusal stays one. -/

namespace Redial.Backoff

/-! ## Section 1: Operations in time -/

namespace Operation

variable {R : Type}

/-- Whether an operation is a reset. -/
def IsReset : Operation R → Prop
  | .reset _ => True
  | .required _ => False
  | .next _ _ => False

/-- The time of the last reset after an operation. -/
def restart (started : R) : Operation R → R
  | .reset now => now
  | .required _ => started
  | .next _ _ => started

/-- The time after an operation.  A question about a status does not look at the clock. -/
def clock (t : R) : Operation R → R
  | .reset now => now
  | .required _ => t
  | .next now _ => now

/-- An operation that does not come before a time, with a draw from zero up to one. -/
def Follows (t : Rat) : Operation Rat → Prop
  | .reset now => t ≤ now
  | .required _ => True
  | .next now draw => t ≤ now ∧ 0 ≤ draw ∧ draw < 1

theorem Follows.le_clock {t : Rat} {op : Operation Rat} (hop : op.Follows t) : t ≤ op.clock t := by
  cases op with
  | reset now => exact hop
  | required status => exact le_rfl
  | next now draw => exact hop.1

end Operation

/-- Operations on a clock that does not go back, with draws from zero up to one. -/
def Timely (t : Rat) : List (Operation Rat) → Prop
  | [] => True
  | op :: ops => op.Follows t ∧ Timely (op.clock t) ops

/-- The time after operations. -/
def clockAfter (t : Rat) (ops : List (Operation Rat)) : Rat := ops.foldl Operation.clock t

/-- The time of the last reset, or that at which the policy was made. -/
def lastReset (made : Rat) (ops : List (Operation Rat)) : Rat := ops.foldl Operation.restart made

/-- Operations without a reset. -/
def NoReset (ops : List (Operation Rat)) : Prop := ∀ op ∈ ops, ¬ op.IsReset

theorem clockAfter_append (t : Rat) (ops later : List (Operation Rat)) :
    clockAfter t (ops ++ later) = clockAfter (clockAfter t ops) later := List.foldl_append

theorem timely_append {t : Rat} {ops later : List (Operation Rat)} :
    Timely t (ops ++ later) ↔ Timely t ops ∧ Timely (clockAfter t ops) later := by
  induction ops generalizing t with
  | nil => exact ⟨fun h => ⟨trivial, h⟩, And.right⟩
  | cons op ops ih =>
    show op.Follows t ∧ Timely (op.clock t) (ops ++ later) ↔ _
    rw [ih, ← and_assoc]
    rfl

theorem le_clockAfter {t : Rat} {ops : List (Operation Rat)} (hops : Timely t ops) :
    t ≤ clockAfter t ops := by
  induction ops generalizing t with
  | nil => exact le_rfl
  | cons op ops ih => exact hops.1.le_clock.trans (ih hops.2)

theorem timely_next {t now draw : Rat} {ops : List (Operation Rat)} :
    Timely t (ops ++ [.next now draw]) ↔
      Timely t ops ∧ clockAfter t ops ≤ now ∧ 0 ≤ draw ∧ draw < 1 := by
  rw [timely_append]
  exact and_congr_right fun _ => and_iff_left trivial

theorem NoReset.tail {op : Operation Rat} {ops : List (Operation Rat)}
    (h : NoReset (op :: ops)) : NoReset ops :=
  fun op' hop' => h op' (List.mem_cons_of_mem op hop')

namespace Policy

variable {R : Type} [Arith R]

theorem after_cons (p : Policy R) (op : Operation R) (ops : List (Operation R)) :
    p.after (op :: ops) = (p.operate op).after ops := rfl

theorem after_append (p : Policy R) (ops later : List (Operation R)) :
    p.after (ops ++ later) = (p.after ops).after later := List.foldl_append

/-- Whether a policy grants a pause by an operation. -/
def grantsAt (p : Policy R) : Operation R → Bool
  | .reset _ => false
  | .required _ => false
  | .next now draw => grants ((p.answer now draw).millis.mapError Fault.arithmetic)

/-- How many pauses a policy grants by operations. -/
def granted (p : Policy R) : List (Operation R) → Nat
  | [] => 0
  | op :: ops => (if p.grantsAt op then 1 else 0) + (p.operate op).granted ops

end Policy

namespace Exponential

/-! ## Section 2: The next interval -/

/-- The interval after a whole interval, up to the cap. -/
def grow (multiplier : Rat) (cap i : Int) : Int :=
  if (cap : Rat) ≤ i * multiplier then cap else ⌊i * multiplier⌋

section grow

variable {multiplier : Rat} {cap i : Int}

theorem grow_le : grow multiplier cap i ≤ cap := by
  unfold grow
  split
  · exact le_rfl
  · next hbelow => exact Int.cast_le.mp ((Int.floor_le _).trans (not_le.mp hbelow).le)

theorem le_grow (hmultiplier : 1 ≤ multiplier) (hi : 0 ≤ i) (hcap : i ≤ cap) :
    i ≤ grow multiplier cap i := by
  unfold grow
  split
  · exact hcap
  -- the product does not fall below the interval, which is whole, so neither does its floor
  · exact Int.le_floor.mpr (le_mul_of_one_le_right (Int.cast_nonneg hi) hmultiplier)

theorem grow_cap (hmultiplier : 1 ≤ multiplier) (hcap : 0 ≤ cap) :
    grow multiplier cap cap = cap :=
  le_antisymm grow_le (le_grow hmultiplier hcap le_rfl)

end grow

/-! ## Section 3: One operation -/

/-- Parameters whose intervals and limit are whole. -/
structure Whole (e : Exponential Rat) (initial cap limit : Int) : Prop where
  within : e.Within
  initial : e.initial.int? = some initial
  cap : e.cap.int? = some cap
  limit : e.limit.int? = some limit

/-- What became of a policy by a time: it has the parameters it was made with, was reset
    before, and has a whole interval between the first one and the cap. -/
structure Stage (e : Exponential Rat) (initial cap : Int) (t : Rat) (q : Exponential Rat)
    (i : Int) : Prop where
  same : q = { e with current := q.current, started := q.started }
  within : q.Within
  since : q.started ≤ t
  interval : q.current.int? = some i
  between : initial ≤ i ∧ i ≤ cap

variable {e q : Exponential Rat} {initial cap limit i : Int} {t now draw : Rat}

theorem Whole.initial_pos (he : e.Whole initial cap limit) : 0 < initial := by
  have hpos := he.within.initial.1
  rw [Number.int?_value he.initial] at hpos
  exact Int.cast_pos.mp hpos

theorem Whole.initial_le (he : e.Whole initial cap limit) : initial ≤ cap := by
  have hle := he.within.initial.2
  rw [Number.int?_value he.initial, Number.int?_value he.cap] at hle
  exact Int.cast_le.mp hle

theorem Stage.nonneg (he : e.Whole initial cap limit) (hq : Stage e initial cap t q i) : 0 ≤ i :=
  he.initial_pos.le.trans hq.between.1

/-- The parameters of a policy are those it was made with. -/
theorem Stage.parameters (hq : Stage e initial cap t q i) :
    q.initial = e.initial ∧ q.cap = e.cap ∧ q.limit = e.limit ∧ q.factor = e.factor ∧
      q.multiplier = e.multiplier := by
  rw [hq.same]
  exact ⟨rfl, rfl, rfl, rfl, rfl⟩

theorem Stage.wait (hq : Stage e initial cap t q i) {t' : Rat} (ht : t ≤ t') :
    Stage e initial cap t' q i :=
  { hq with since := hq.since.trans ht }

/-- A policy begins with its first interval, when it is made and at every reset. -/
theorem Stage.reset (he : e.Whole initial cap limit) (hq : Stage e initial cap t q i) (now : Rat) :
    Stage e initial cap now (q.reset now) initial where
  same := by rw [hq.same]; rfl
  within := hq.within.reset now
  since := le_rfl
  interval := by
    show q.initial.int? = some initial
    rw [hq.parameters.1]
    exact he.initial
  between := ⟨le_rfl, he.initial_le⟩

theorem Whole.stage (he : e.Whole initial cap limit) (hfirst : e.current = e.initial) :
    Stage e initial cap e.started e initial where
  same := rfl
  within := he.within
  since := le_rfl
  interval := hfirst ▸ he.initial
  between := ⟨le_rfl, he.initial_le⟩

/-- The interval of a policy after a granted pause. -/
theorem Stage.grownInterval (he : e.Whole initial cap limit) (hq : Stage e initial cap t q i) :
    q.grownInterval.int? = some (grow e.multiplier.value cap i) := by
  obtain ⟨-, hcap, -, -, hmultiplier⟩ := hq.parameters
  unfold Exponential.grownInterval grow
  rw [hcap, hmultiplier, Number.int?_value he.cap, Number.int?_value hq.interval]
  split
  · exact he.cap
  · rfl

/-- The stage after a granted pause. -/
theorem Stage.grown (he : e.Whole initial cap limit) (hq : Stage e initial cap t q i)
    (hnow : t ≤ now) :
    Stage e initial cap now { q with current := q.grownInterval }
      (grow e.multiplier.value cap i) where
  same := congrArg (fun p : Exponential Rat => { p with current := q.grownInterval }) hq.same
  within := hq.within.grown hq.within.grown_eq
  since := hq.since.trans hnow
  interval := hq.grownInterval he
  between := ⟨hq.between.1.trans (le_grow he.within.multiplier (hq.nonneg he) hq.between.2), grow_le⟩

theorem whole_millis_mono {started t t' : Rat} (ht : t ≤ t') :
    ⌊(t - started) * 1000⌋ ≤ ⌊(t' - started) * 1000⌋ :=
  Int.floor_le_floor (mul_le_mul_of_nonneg_right (sub_le_sub_right ht started) (by norm_num))

/-- What a question for the next pause comes to. -/
structure Answers (q : Exponential Rat) (now draw : Rat) (millis : Number Rat)
    (q' : Exponential Rat) : Prop where
  millis : ((Policy.exponential q).answer now draw).millis = .ok millis
  policy : ((Policy.exponential q).answer now draw).policy = .exponential q'

theorem answers_of_next {millis : Number Rat} {q' : Exponential Rat}
    (hnext : q.next now draw = .ok (millis, q')) : q.Answers now draw millis q' := by
  have hanswer : (Policy.exponential q).answer now draw = Policy.answerExponential q now draw := rfl
  constructor <;> rw [hanswer, Policy.answerExponential, hnext]

/-- A question for the next pause is refused, or granted and lets the interval grow. -/
theorem Stage.asked (he : e.Whole initial cap limit) (hq : Stage e initial cap t q i)
    (hnow : t ≤ now) (hdraw : 0 ≤ draw ∧ draw < 1) :
    limit < ⌊(now - q.started) * 1000⌋ ∧ q.Answers now draw stop q ∨
    ⌊(now - q.started) * 1000⌋ ≤ limit ∧
      q.Answers now draw (.whole ⌊q.point draw⌋) { q with current := q.grownInterval } := by
  have hexpired := isExpired_eq (hq.since.trans hnow)
  have hlimit : q.limit.lt (.whole ⌊(now - q.started) * 1000⌋) = true
      ↔ limit < ⌊(now - q.started) * 1000⌋ := by
    rw [Number.lt_iff, hq.parameters.2.2.1, Number.int?_value he.limit, Number.value_whole,
      Int.cast_lt]
  -- the whole milliseconds are all that the limit is compared with, so they decide
  by_cases hpassed : limit < ⌊(now - q.started) * 1000⌋
  · left
    rw [hlimit.mpr hpassed] at hexpired
    refine ⟨hpassed, answers_of_next ?_⟩
    simp only [Exponential.next, bind, Except.bind, hexpired]
    rfl
  · right
    rw [Bool.eq_false_iff.mpr (mt hlimit.mp hpassed)] at hexpired
    refine ⟨not_lt.mp hpassed, answers_of_next ?_⟩
    simp only [Exponential.next, bind, Except.bind, hexpired, hq.within.interval_eq hdraw,
      hq.within.grown_eq]
    rfl

theorem Answers.not_grantsAt (h : q.Answers now draw stop q) :
    (Policy.exponential q).grantsAt (.next now draw) = false := by
  show grants (((Policy.exponential q).answer now draw).millis.mapError Fault.arithmetic) = false
  rw [h.millis]
  exact grants_stop

theorem Answers.grantsAt {pause : Int} {q' : Exponential Rat} (hpause : 0 ≤ pause)
    (h : q.Answers now draw (.whole pause) q') :
    (Policy.exponential q).grantsAt (.next now draw) = true := by
  show grants (((Policy.exponential q).answer now draw).millis.mapError Fault.arithmetic) = true
  rw [h.millis]
  apply grants_of_nonneg
  rw [Number.isNegative, Bool.eq_false_iff, ne_eq, Number.lt_iff, not_lt]
  exact Int.cast_le.mpr hpause

/-- How an operation moves the interval: a reset begins anew, a granted pause lets it grow,
    and all else keeps it. -/
def Moves (q : Exponential Rat) (initial cap i : Int) (op : Operation Rat) (i' : Int) : Prop :=
  op.IsReset ∧ i' = initial ∨
    i' = if (Policy.exponential q).grantsAt op then grow q.multiplier.value cap i else i

/-- What an operation does to a stage. -/
theorem Stage.operate (he : e.Whole initial cap limit) (hq : Stage e initial cap t q i)
    {op : Operation Rat} (hop : op.Follows t) :
    ∃ q' i', (Policy.exponential q).operate op = .exponential q' ∧
      Stage e initial cap (op.clock t) q' i' ∧ q'.started = op.restart q.started ∧
      q.Moves initial cap i op i' := by
  cases op with
  | reset now => exact ⟨q.reset now, initial, rfl, hq.reset he now, rfl, .inl ⟨trivial, rfl⟩⟩
  | required status => exact ⟨q, i, rfl, hq, rfl, .inr rfl⟩
  | next now draw =>
    obtain ⟨hnow, hdraw⟩ := hop
    rcases hq.asked he hnow hdraw with ⟨-, hrefused⟩ | ⟨-, hgranted⟩
    · refine ⟨q, i, hrefused.policy, hq.wait hnow, rfl, .inr ?_⟩
      rw [hrefused.not_grantsAt]
      rfl
    · refine ⟨_, _, hgranted.policy, hq.grown he hnow, rfl, .inr ?_⟩
      rw [hgranted.grantsAt (Int.floor_nonneg.mpr (hq.within.point_nonneg hdraw)),
        hq.parameters.2.2.2.2]
      rfl

/-- Without a reset the interval does not fall, and stays at the cap. -/
theorem Stage.le_of_moves (he : e.Whole initial cap limit) (hq : Stage e initial cap t q i)
    {op : Operation Rat} {i' : Int} (hno : ¬ op.IsReset) (hi' : q.Moves initial cap i op i') :
    i ≤ i' ∧ (i = cap → i' = cap) := by
  rw [hi'.resolve_left fun h => hno h.1]
  split
  · refine ⟨le_grow hq.within.multiplier (hq.nonneg he) hq.between.2, ?_⟩
    rintro rfl
    exact grow_cap hq.within.multiplier (hq.nonneg he)
  · exact ⟨le_rfl, id⟩

/-- A policy whose limit has passed stays as it is up to the next reset. -/
theorem Stage.spent (he : e.Whole initial cap limit) (hq : Stage e initial cap t q i)
    (hpassed : limit < ⌊(t - q.started) * 1000⌋) {ops : List (Operation Rat)}
    (hops : Timely t ops) (hno : NoReset ops) :
    (Policy.exponential q).after ops = .exponential q ∧
      limit < ⌊(clockAfter t ops - q.started) * 1000⌋ := by
  -- by induction on the operations; the clock moves on and the policy does not
  induction ops generalizing t with
  | nil => exact ⟨rfl, hpassed⟩
  | cons op ops ih =>
    cases op with
    | reset now => exact absurd trivial (hno _ (List.mem_cons_self ..))
    | required status => exact ih hq hpassed hops.2 hno.tail
    | next now draw =>
      obtain ⟨⟨hnow, hdraw⟩, hlater⟩ := hops
      have hstill : limit < ⌊(now - q.started) * 1000⌋ := hpassed.trans_le (whole_millis_mono hnow)
      rcases hq.asked he hnow hdraw with ⟨-, hrefused⟩ | ⟨hwithin, -⟩
      · show ((Policy.exponential q).answer now draw).policy.after ops = _ ∧ _
        rw [hrefused.policy]
        exact ih (hq.wait hnow) hstill hlater hno.tail
      · exact absurd hstill (not_lt.mpr hwithin)

/-! ## Section 4: Histories -/

/-- What operations do to a stage. -/
theorem Stage.after (he : e.Whole initial cap limit) (hq : Stage e initial cap t q i)
    {ops : List (Operation Rat)} (hops : Timely t ops) :
    ∃ q' i', (Policy.exponential q).after ops = .exponential q' ∧
      Stage e initial cap (clockAfter t ops) q' i' ∧ q'.started = lastReset q.started ops ∧
      (NoReset ops → i ≤ i' ∧ (i = cap → i' = cap)) := by
  -- by induction on the operations, each of which leads from a stage to a stage
  induction ops generalizing t q i with
  | nil => exact ⟨q, i, rfl, hq, rfl, fun _ => ⟨le_rfl, id⟩⟩
  | cons op ops ih =>
    obtain ⟨q₁, i₁, hoperate, hq₁, hstarted₁, hfirst⟩ := hq.operate he hops.1
    obtain ⟨q', i', hafter, hq', hstarted', hlater⟩ := ih hq₁ hops.2
    refine ⟨q', i', ?_, hq', ?_, ?_⟩
    · rw [Policy.after_cons, hoperate]
      exact hafter
    · rw [hstarted', hstarted₁]
      rfl
    · intro hno
      obtain ⟨hle, hcap⟩ := hq.le_of_moves he (hno op (List.mem_cons_self ..)) hfirst
      obtain ⟨hle', hcap'⟩ := hlater hno.tail
      exact ⟨hle.trans hle', hcap' ∘ hcap⟩

/-- After a history the policy has a whole interval. -/
def Stands (e : Exponential Rat) (ops : List (Operation Rat)) (i : Int) : Prop :=
  ∃ q, (Policy.exponential e).after ops = .exponential q ∧ q.current.int? = some i

/-- The answer to a question for the next pause after a history. -/
def reply (e : Exponential Rat) (ops : List (Operation Rat)) (now draw : Rat) :
    Except ArithFault (Number Rat) :=
  (((Policy.exponential e).after ops).answer now draw).millis

/-- What a policy does on a clock that does not go back, whatever it is asked. -/
structure Steady (e : Exponential Rat) (made : Rat) (initial cap limit : Int) (factor : Rat) :
    Prop where
  /-- The interval lies between the first one and the cap. -/
  bounded : ∀ ops, Timely made ops → ∃ i, e.Stands ops i ∧ initial ≤ i ∧ i ≤ cap
  /-- Up to the next reset it does not fall, and stays at the cap. -/
  onward : ∀ ops later i j, Timely made (ops ++ later) → NoReset later →
    e.Stands ops i → e.Stands (ops ++ later) j → i ≤ j ∧ (i = cap → j = cap)
  /-- A pause is refused once more whole milliseconds than the limit have passed since the
      last reset. -/
  refused : ∀ ops now draw, Timely made (ops ++ [.next now draw]) →
    limit < ⌊(now - lastReset made ops) * 1000⌋ → e.reply ops now draw = .ok stop
  /-- Until then a pause is granted: a whole number from the widened interval, which is not
      negative and so no refusal. -/
  granted : ∀ ops now draw i, Timely made (ops ++ [.next now draw]) →
    ⌊(now - lastReset made ops) * 1000⌋ ≤ limit → e.Stands ops i →
    ∃ pause : Int, e.reply ops now draw = .ok (.whole pause) ∧ 0 ≤ pause ∧
      ⌊i * (1 - factor)⌋ ≤ pause ∧ (pause : Rat) ≤ i * (1 + factor)
  /-- After a refusal every pause is refused up to the next reset, and the interval stays. -/
  final : ∀ ops now draw later now' draw' i,
    Timely made (ops ++ [.next now draw] ++ later ++ [.next now' draw']) → NoReset later →
    e.reply ops now draw = .ok stop → e.Stands ops i →
    e.reply (ops ++ [.next now draw] ++ later) now' draw' = .ok stop ∧
      e.Stands (ops ++ [.next now draw] ++ later) i

/-- A granted pause is not negative, so it is no refusal. -/
theorem pause_ne_stop {pause : Int} (hpause : 0 ≤ pause) :
    (.ok (.whole pause) : Except ArithFault (Number Rat)) ≠ .ok stop := by
  intro hstop
  have hminus : pause = -1 := Number.whole.inj (Except.ok.inj hstop)
  omega

theorem Stands.eq {ops : List (Operation Rat)} (hi : e.Stands ops i)
    (hafter : (Policy.exponential e).after ops = .exponential q) {j : Int}
    (hj : q.current.int? = some j) : i = j := by
  obtain ⟨q', hafter', hi⟩ := hi
  rw [hafter] at hafter'
  cases hafter'
  exact Option.some.inj (hi.symm.trans hj)

/-- A policy with whole parameters, as it is made. -/
structure Fresh (e : Exponential Rat) (made : Rat) (initial cap limit : Int) : Prop where
  whole : e.Whole initial cap limit
  current : e.current = e.initial
  started : e.started = made

/-- What the constructor makes of whole parameters. -/
theorem fresh_of_make {first factor multiplier last span : Number Rat} {codes : Value} {made : Rat}
    (hmake : Exponential.make first factor multiplier last span codes made = .ok e)
    (hinitial : first.int? = some initial) (hcap : last.int? = some cap)
    (hlimit : span.int? = some limit) :
    e = ⟨first, factor, multiplier, last, span, codes, first, made⟩ ∧
      e.Fresh made initial cap limit := by
  obtain ⟨rfl, hwithin⟩ := within_of_make hmake
  exact ⟨rfl, ⟨hwithin, hinitial, hcap, hlimit⟩, rfl, rfl⟩

section histories

variable {made : Rat} {ops later : List (Operation Rat)}

theorem Fresh.after (he : e.Fresh made initial cap limit) (hops : Timely made ops) :
    ∃ q i, (Policy.exponential e).after ops = .exponential q ∧
      Stage e initial cap (clockAfter made ops) q i ∧ q.started = lastReset made ops := by
  obtain ⟨hwhole, hcurrent, rfl⟩ := he
  obtain ⟨q, i, hafter, hq, hstarted, -⟩ := (hwhole.stage hcurrent).after hwhole hops
  exact ⟨q, i, hafter, hq, hstarted⟩

theorem Fresh.bounded (he : e.Fresh made initial cap limit) (hops : Timely made ops) :
    ∃ i, e.Stands ops i ∧ initial ≤ i ∧ i ≤ cap := by
  obtain ⟨q, i, hafter, hq, -⟩ := he.after hops
  exact ⟨i, ⟨q, hafter, hq.interval⟩, hq.between⟩

theorem Fresh.onward (he : e.Fresh made initial cap limit) (hops : Timely made (ops ++ later))
    (hno : NoReset later) {j : Int} (hi : e.Stands ops i) (hj : e.Stands (ops ++ later) j) :
    i ≤ j ∧ (i = cap → j = cap) := by
  obtain ⟨hearlier, hlater⟩ := timely_append.mp hops
  obtain ⟨q, i', hafter, hq, -⟩ := he.after hearlier
  obtain ⟨q', j', hafter', hq', -, honward⟩ := hq.after he.whole hlater
  obtain rfl : i = i' := hi.eq hafter hq.interval
  obtain rfl : j = j' := by
    refine hj.eq ?_ hq'.interval
    rw [Policy.after_append, hafter, hafter']
  exact honward hno

/-- A question after a history, by the stage that the history leads to. -/
theorem Fresh.asked (he : e.Fresh made initial cap limit)
    (hops : Timely made (ops ++ [.next now draw])) :
    ∃ q i, (Policy.exponential e).after ops = .exponential q ∧ Stage e initial cap now q i ∧
      q.started = lastReset made ops ∧
      (limit < ⌊(now - q.started) * 1000⌋ ∧ q.Answers now draw stop q ∨
        ⌊(now - q.started) * 1000⌋ ≤ limit ∧
          q.Answers now draw (.whole ⌊q.point draw⌋) { q with current := q.grownInterval }) := by
  obtain ⟨hops, hnow, hdraw⟩ := timely_next.mp hops
  obtain ⟨q, i, hafter, hq, hstarted⟩ := he.after hops
  exact ⟨q, i, hafter, hq.wait hnow, hstarted, hq.asked he.whole hnow hdraw⟩

theorem Fresh.refused (he : e.Fresh made initial cap limit)
    (hops : Timely made (ops ++ [.next now draw]))
    (hpassed : limit < ⌊(now - lastReset made ops) * 1000⌋) : e.reply ops now draw = .ok stop := by
  obtain ⟨q, i, hafter, -, hstarted, ⟨-, hrefused⟩ | ⟨hwithin, -⟩⟩ := he.asked hops
  · rw [reply, hafter]
    exact hrefused.millis
  · rw [hstarted] at hwithin
    exact absurd hpassed (not_lt.mpr hwithin)

theorem Fresh.granted (he : e.Fresh made initial cap limit)
    (hops : Timely made (ops ++ [.next now draw]))
    (hwithin : ⌊(now - lastReset made ops) * 1000⌋ ≤ limit) (hi : e.Stands ops i) :
    ∃ pause : Int, e.reply ops now draw = .ok (.whole pause) ∧ 0 ≤ pause ∧
      ⌊i * (1 - e.factor.value)⌋ ≤ pause ∧ (pause : Rat) ≤ i * (1 + e.factor.value) := by
  have hdraw := (timely_next.mp hops).2.2
  obtain ⟨q, i', hafter, hq, hstarted, ⟨hpassed, -⟩ | ⟨-, hgranted⟩⟩ := he.asked hops
  · rw [hstarted] at hpassed
    exact absurd hpassed (not_lt.mpr hwithin)
  · obtain rfl : i = i' := hi.eq hafter hq.interval
    obtain ⟨hlow, hhigh⟩ := hq.within.point_bounds hdraw
    rw [Number.int?_value hq.interval, hq.parameters.2.2.2.1] at hlow hhigh
    refine ⟨⌊q.point draw⌋, ?_, ?_, ?_, ?_⟩
    · rw [reply, hafter]
      exact hgranted.millis
    · exact Int.floor_nonneg.mpr (hq.within.point_nonneg hdraw)
    · exact Int.floor_le_floor hlow
    · exact (Int.floor_le _).trans hhigh

/-- A refusal leaves the policy as it is, with its limit passed. -/
theorem Fresh.of_refused (he : e.Fresh made initial cap limit)
    (hops : Timely made (ops ++ [.next now draw])) (hrefused : e.reply ops now draw = .ok stop)
    (hi : e.Stands ops i) :
    ∃ q, (Policy.exponential e).after (ops ++ [.next now draw]) = .exponential q ∧
      Stage e initial cap now q i ∧ limit < ⌊(now - q.started) * 1000⌋ := by
  obtain ⟨q, i', hafter, hq, -, ⟨hpassed, hanswer⟩ | ⟨-, hgranted⟩⟩ := he.asked hops
  · obtain rfl : i = i' := hi.eq hafter hq.interval
    refine ⟨q, ?_, hq, hpassed⟩
    rw [Policy.after_snoc, hafter]
    exact hanswer.policy
  -- a granted pause is not negative, so it would not have been read as a refusal
  · rw [reply, hafter, hgranted.millis] at hrefused
    have hnonneg : 0 ≤ ⌊q.point draw⌋ :=
      Int.floor_nonneg.mpr (hq.within.point_nonneg (timely_next.mp hops).2.2)
    exact absurd hrefused (pause_ne_stop hnonneg)

theorem Fresh.final (he : e.Fresh made initial cap limit) {now' draw' : Rat}
    (hops : Timely made (ops ++ [.next now draw] ++ later ++ [.next now' draw']))
    (hno : NoReset later) (hrefused : e.reply ops now draw = .ok stop) (hi : e.Stands ops i) :
    e.reply (ops ++ [.next now draw] ++ later) now' draw' = .ok stop ∧
      e.Stands (ops ++ [.next now draw] ++ later) i := by
  obtain ⟨hhistory, hnow', hdraw'⟩ := timely_next.mp hops
  obtain ⟨hfirst, hlater⟩ := timely_append.mp hhistory
  have hclock : clockAfter made (ops ++ [.next now draw]) = now := List.foldl_append
  rw [hclock] at hlater
  rw [clockAfter_append, hclock] at hnow'
  obtain ⟨q, hafter, hq, hpassed⟩ := he.of_refused hfirst hrefused hi
  obtain ⟨hstays, hspent⟩ := hq.spent he.whole hpassed hlater hno
  have hend : (Policy.exponential e).after (ops ++ [.next now draw] ++ later)
      = .exponential q := by
    rw [Policy.after_append, hafter, hstays]
  refine ⟨?_, q, hend, hq.interval⟩
  -- only a reset would start the clock anew, and none is among the later operations
  have hlast : Stage e initial cap now' q i := hq.wait ((le_clockAfter hlater).trans hnow')
  rcases hlast.asked he.whole le_rfl hdraw' with ⟨-, hagain⟩ | ⟨hwithin, -⟩
  · rw [reply, hend]
    exact hagain.millis
  · exact absurd (hspent.trans_le (whole_millis_mono hnow')) (not_lt.mpr hwithin)

end histories

/-- An exponential policy that its constructor accepts with whole intervals and a whole
    limit keeps to them, whatever it is asked on a clock that does not go back. -/
theorem exponential_steady {first factor multiplier last span : Number Rat} {codes : Value}
    {made : Rat} {e : Exponential Rat} {initial cap limit : Int}
    (hmake : Exponential.make first factor multiplier last span codes made = .ok e)
    (hinitial : first.int? = some initial) (hcap : last.int? = some cap)
    (hlimit : span.int? = some limit) : e.Steady made initial cap limit factor.value := by
  obtain ⟨rfl, he⟩ := fresh_of_make hmake hinitial hcap hlimit
  exact {
    bounded := fun ops hops => he.bounded hops
    onward := fun ops later i j hops hno hi hj => he.onward hops hno hi hj
    refused := fun ops now draw hops hpassed => he.refused hops hpassed
    granted := fun ops now draw i hops hwithin hi => he.granted hops hwithin hi
    final := fun ops now draw later now' draw' i hops hno hrefused hi =>
      he.final hops hno hrefused hi }

/-- The parameters that are assumed where none are given. -/
theorem exponential_steady_assumed :
    let e : Exponential Rat :=
      ⟨.whole 500, .real (1 / 2), .real (3 / 2), .whole 60000, .whole 900000,
        codesOf defaultCodes, .whole 500, 0⟩
    Exponential.make (.whole 500) (.real (1 / 2)) (.real (3 / 2)) (.whole 60000) (.whole 900000)
        (codesOf defaultCodes) 0 = .ok e ∧
      e.Steady 0 500 60000 900000 (1 / 2) := by
  intro e
  have hwithin : e.Within := by
    constructor <;> norm_num [e, Number.value]
  have hmake : Exponential.make (.whole 500) (.real (1 / 2)) (.real (3 / 2)) (.whole 60000)
      (.whole 900000) (codesOf defaultCodes) 0 = .ok e := hwithin.make
  exact ⟨hmake, exponential_steady hmake rfl rfl rfl⟩

end Exponential

end Redial.Backoff
