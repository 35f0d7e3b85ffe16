import Redial.Proofs.Backoff.Hosting
import Redial.Proofs.Playback

/-! # What a policy remembers

    A policy is an object with a state, and requests may share it.  What it went
    through is a list of operations: resets, questions whether a status requires a
    pause, and questions for the next pause, each at some time and with some draw.

    A reset forgets all of it.  An execution resets the policy of its request before
    anything else reads or changes the state of the surroundings, so it starts from
    the same state after every history, and what it leaves is a history again.

    Between two resets a constant policy counts its pauses.  To speak of what it was
    asked by one execution, the surroundings keep a tally of its answers beside their
    state; while attempts are made, the tally and the count of the policy agree. -/

namespace Redial

variable {R σ : Type} [Arith R]

namespace Backoff

/-! ## Section 1: Histories -/

/-- An operation of a policy. -/
inductive Operation (R : Type) where
  | reset (now : R)
  /-- The question whether a status requires a pause. -/
  | required (status : Int)
  /-- The question for the next pause. -/
  | next (now draw : R)

namespace Policy

/-- The policy after an operation. -/
def operate (p : Policy R) : Operation R → Policy R
  | .reset now => p.reset now
  | .required _ => p
  | .next now draw => (p.answer now draw).policy

/-- The policy after operations, in order. -/
def after (p : Policy R) (ops : List (Operation R)) : Policy R := ops.foldl operate p

/-- A policy as its constructor makes it. -/
inductive Made : Policy R → Prop where
  | constant {delay : Number R} {quota : Option (Number R)} {codes : Value} {p : Constant R}
      (make : Constant.make delay quota codes = .ok p) : Made (.constant p)
  | exponential {initial factor multiplier cap limit : Number R} {codes : Value} {now : R}
      {p : Exponential R}
      (make : Exponential.make initial factor multiplier cap limit codes now = .ok p) :
      Made (.exponential p)

theorem after_snoc (p : Policy R) (ops : List (Operation R)) (op : Operation R) :
    p.after (ops ++ [op]) = (p.after ops).operate op := by
  rw [after, List.foldl_append]
  rfl

/-- An exponential policy is expired and refuses, or grants a pause and lets its interval
    grow. -/
theorem exponential_next {p p' : Exponential R} {now draw : R} {millis : Number R}
    (hnext : p.next now draw = .ok (millis, p')) :
    p.isExpired now = .ok true ∧ millis = stop ∧ p' = p ∨
    ∃ pause current, p.isExpired now = .ok false ∧ p.interval draw = .ok pause ∧
      p.grown = .ok current ∧ millis = .whole pause ∧ p' = { p with current := current } := by
  obtain ⟨expired, hexpired, hnext⟩ := ok_of_bind hnext
  cases expired with
  | true =>
    cases hnext
    exact .inl ⟨hexpired, rfl, rfl⟩
  | false =>
    obtain ⟨pause, hinterval, hnext⟩ := ok_of_bind hnext
    obtain ⟨current, hgrown, hnext⟩ := ok_of_bind hnext
    cases hnext
    exact .inr ⟨pause, current, hexpired, hinterval, hgrown, rfl, rfl⟩

/-- What an exponential policy answers, and what becomes of it. -/
theorem exponential_answer (q : Exponential R) (now draw : R) :
    (∃ f, ((exponential q).answer now draw).millis = .error f ∧
      ((exponential q).answer now draw).policy = exponential q) ∨
    ∃ millis q', q.next now draw = .ok (millis, q') ∧
      ((exponential q).answer now draw).millis = .ok millis ∧
      ((exponential q).answer now draw).policy = exponential q' := by
  show (∃ f, (answerExponential q now draw).millis = .error f ∧
      (answerExponential q now draw).policy = exponential q) ∨
    ∃ millis q', q.next now draw = .ok (millis, q') ∧
      (answerExponential q now draw).millis = .ok millis ∧
      (answerExponential q now draw).policy = exponential q'
  unfold answerExponential
  cases q.next now draw with
  | error f => exact .inl ⟨f, rfl, rfl⟩
  | ok answer => exact .inr ⟨answer.1, answer.2, rfl, rfl, rfl⟩

/-- The operations of a constant policy change its count alone. -/
theorem after_constant (q : Constant R) (ops : List (Operation R)) :
    ∃ granted, (constant q).after ops = constant { q with granted := granted } := by
  induction ops generalizing q with
  | nil => exact ⟨q.granted, rfl⟩
  | cons op ops ih =>
    have hop : ∃ granted, (constant q).operate op = constant { q with granted := granted } := by
      cases op with
      | reset now => exact ⟨0, rfl⟩
      | required status => exact ⟨q.granted, rfl⟩
      | next now draw =>
        show ∃ granted, constant q.next.2 = _
        unfold Constant.next
        split
        · exact ⟨q.granted, rfl⟩
        · exact ⟨q.granted + 1, rfl⟩
    obtain ⟨granted, hgranted⟩ := hop
    show ∃ granted, ((constant q).operate op).after ops = _
    rw [hgranted]
    exact ih _

/-- A reset forgets the operation before it. -/
theorem reset_operate (p : Policy R) (op : Operation R) (now : R) :
    (p.operate op).reset now = p.reset now := by
  cases op with
  | reset earlier => cases p <;> rfl
  | required status => rfl
  | next earlier draw =>
    cases p with
    | constant p =>
      show Policy.reset (.constant p.next.2) now = _
      unfold Constant.next
      split <;> rfl
    | exponential p =>
      show Policy.reset ((Policy.exponential p).answer earlier draw).policy now = _
      rcases exponential_answer p earlier draw with
        ⟨f, -, hpolicy⟩ | ⟨millis, p', hnext, -, hpolicy⟩ <;> rw [hpolicy]
      rcases exponential_next hnext with ⟨-, -, rfl⟩ | ⟨pause, current, -, -, -, -, rfl⟩ <;> rfl

/-- A reset forgets every history. -/
theorem reset_after (p : Policy R) (ops : List (Operation R)) (now : R) :
    (p.after ops).reset now = p.reset now := by
  induction ops generalizing p with
  | nil => rfl
  | cons op ops ih =>
    show ((p.operate op).after ops).reset now = _
    rw [ih, reset_operate]

end Policy

/-! ## Section 2: What a constant policy counts -/

/-- Whether an answer grants a pause. -/
def grants : Except Fault (Number R) → Bool
  | .ok millis => !millis.eq stop
  | .error _ => false

theorem grants_stop : grants (.ok (stop : Number R)) = false := by
  have hstop : (stop : Number R).eq stop = true := beq_self_eq_true ((-1 : Int) : Rat)
  show (!(stop : Number R).eq stop) = false
  rw [hstop]
  rfl

theorem grants_of_nonneg {delay : Number R} (hdelay : delay.isNegative = false) :
    grants (.ok delay) = true := by
  -- what equals the refusal is negative
  have hstop : delay.eq stop = false := by
    have hrefusal : (stop : Number R).exact = .finite ((-1 : Int) : Rat) := rfl
    have hzero : (Number.whole 0 : Number R).exact = .finite ((0 : Int) : Rat) := rfl
    rw [Number.isNegative, Number.lt, hzero] at hdelay
    rw [Number.eq, hrefusal]
    cases hexact : delay.exact with
    | finite a =>
      rw [hexact, Exact.lt, decide_eq_false_iff_not] at hdelay
      rw [Exact.eq, beq_eq_false_iff_ne]
      rintro rfl
      exact hdelay (by decide)
    | _ => rfl
  show (!delay.eq stop) = true
  rw [hstop]
  rfl

namespace Constant

variable {delay quota : Number R} {codes : Value} {m : Nat}

/-- A quota that is a natural number is used up when so many pauses are granted. -/
theorem isSpent_iff (hquota : quota.exact = .finite m) (granted : Nat) :
    isSpent ⟨delay, some quota, codes, granted⟩ = true ↔ m ≤ granted := by
  have hgranted : (Number.whole granted : Number R).exact = .finite ((granted : Int) : Rat) := rfl
  show quota.exact.le (Number.whole granted : Number R).exact = true ↔ m ≤ granted
  rw [hquota, hgranted]
  have hm : (m : Rat) = ((m : Int) : Rat) := rfl
  simp only [hm, Exact.le, Exact.lt, Exact.eq, Bool.or_eq_true, decide_eq_true_iff, beq_iff_eq,
    Rat.intCast_lt_intCast, Rat.intCast_inj]
  omega

/-- What the constructor makes. -/
theorem of_make {quota : Option (Number R)} {q : Constant R}
    (hmake : make delay quota codes = .ok q) :
    q = ⟨delay, quota, codes, 0⟩ ∧ delay.isNegative = false := by
  unfold make at hmake
  cases hdelay : delay.isNegative with
  | true => simp [hdelay] at hmake
  | false =>
    cases quota with
    | none => simp_all
    | some n =>
      cases hn : n.isNegative with
      | true => simp [hdelay, hn] at hmake
      | false => simp_all

end Constant

end Backoff

/-! ## Section 3: What an execution asks a policy -/

open Backoff

/-- A call whose results are listed beside the state. -/
def Run.tallied {α : Type} (x : Hook σ α) : Hook (σ × List (Except Fault α)) α := fun r t =>
  ⟨(x r t.1).result, (x r t.1).request, ((x r t.1).state, t.2 ++ [(x r t.1).result]),
    (x r t.1).events⟩

/-- The surroundings with a tally of what a policy answered when it was asked for a pause. -/
def Hooks.tallied (h : Hooks R σ) (id : Nat) : Hooks R (σ × List (Except Fault (Number R))) :=
  { h.beside (List (Except Fault (Number R))) with
    nextBackoff := fun k =>
      if k = id then (h.nextBackoff k).tallied else (h.nextBackoff k).beside }

omit [Arith R] in
/-- Keeping the tally changes nothing else. -/
theorem Hooks.tallied_widens (h : Hooks R σ) (id : Nat) : (h.tallied id).Widens Prod.fst h :=
  { h.beside_widens (List (Except Fault (Number R))) with
    nextBackoff := fun k => by
      by_cases hk : k = id
      · simp only [Hooks.tallied, if_pos hk]
        exact fun _ _ => rfl
      · simp only [Hooks.tallied, if_neg hk]
        exact (h.nextBackoff k).beside_widens }

/-- The policy has its count from the tally, and has granted as many of its answers as its
    quota allows. -/
structure Counted (access : PolicyAccess R σ) (delay quota : Number R) (codes : Value) (m : Nat)
    (t : σ × List (Except Fault (Number R))) : Prop where
  kept : access.read t.1 = some (.constant ⟨delay, some quota, codes, t.2.countP grants⟩)
  count : t.2.countP grants = min m t.2.length

section counting

variable {h : Hooks R σ} {access : PolicyAccess R σ} {id : Nat} {delay quota : Number R}
  {codes : Value} {m : Nat}

/-- A constant policy answers every question, without a draw. -/
theorem Hooks.Hosts.next_constant (hosts : h.Hosts access id) {s : σ} {q : Constant R}
    (hread : access.read s = some (.constant q)) (r : Request) :
    h.nextBackoff id r s = ⟨.ok q.next.1, r, access.write (.constant q.next.2) s, []⟩ :=
  hosts.nextBackoff hread r

/-- One question: the policy grants its delay until the quota is used up. -/
theorem goes_counted_next (hosts : h.Hosts access id) (hdelay : delay.isNegative = false)
    (hquota : quota.exact = .finite m) :
    ((h.nextBackoff id).tallied).Goes fun t t' =>
      Counted access delay quota codes m t → Counted access delay quota codes m t' := by
  rintro r ⟨s, answers⟩ ⟨hkept, hcount⟩
  have hthere : (access.read s).isSome = true := by
    dsimp only at hkept
    rw [hkept]
    rfl
  have hspent : Constant.isSpent ⟨delay, some quota, codes, answers.countP grants⟩ = true
      ↔ m ≤ answers.countP grants := Constant.isSpent_iff hquota _
  unfold Run.tallied
  dsimp only at hkept hcount ⊢
  rw [hosts.next_constant hkept]
  unfold Constant.next
  by_cases hm : m ≤ answers.countP grants
  -- the quota is used up, so the policy refuses and stays as it is
  · rw [if_pos (hspent.mpr hm)]
    constructor
    · dsimp only
      rw [hosts.read_write hthere, List.countP_append, List.countP_singleton, grants_stop]
      rfl
    · dsimp only
      rw [List.countP_append, List.countP_singleton, grants_stop, List.length_append,
        List.length_singleton]
      simp only [Bool.false_eq_true, if_false]
      omega
  · rw [if_neg (mt hspent.mp hm)]
    constructor
    · dsimp only
      rw [hosts.read_write hthere, List.countP_append, List.countP_singleton,
        grants_of_nonneg hdelay]
      rfl
    · dsimp only
      rw [List.countP_append, List.countP_singleton, grants_of_nonneg hdelay, List.length_append,
        List.length_singleton, if_pos rfl]
      omega

theorem chains_counted : Chains fun t t' : σ × List (Except Fault (Number R)) =>
    Counted access delay quota codes m t → Counted access delay quota codes m t' where
  refl _ := id
  trans hfirst hsecond := hsecond ∘ hfirst

/-- A call that leaves the policy alone leaves the tally in order. -/
theorem goes_counted_beside {α : Type} {x : Hook σ α}
    (hx : x.Goes access.Spared) :
    x.beside.Goes fun t t' : σ × List (Except Fault (Number R)) =>
      Counted access delay quota codes m t → Counted access delay quota codes m t' :=
  fun r t ht => ⟨hx r t.1 _ ht.kept, ht.count⟩

/-- All calls of an attempt but those to the policy keep the tally in order. -/
theorem go_counted_sparing
    (spared : (h.sparing id).Go access.Spared) :
    ({ h.tallied id with resetPolicy := fun _ => pure () } : Hooks R _).sparing id |>.Go
      fun t t' => Counted access delay quota codes m t → Counted access delay quota codes m t' where
  sleep span t ht := ⟨spared.sleep span t.1 _ ht.kept, ht.count⟩
  wait span t ht := ⟨spared.wait span t.1 _ ht.kept, ht.count⟩
  writeSource k := goes_counted_beside (spared.writeSource k)
  announce staged := goes_counted_beside (spared.announce staged)
  exchange staged body := goes_counted_beside (spared.exchange staged body)
  resetPolicy k := by
    simp only [Hooks.sparing, ite_self]
    exact fun _ _ ht => ht
  isBackoffRequired k status := by
    have hother := spared.isBackoffRequired k status
    by_cases hk : k = id
    · simp only [Hooks.sparing, if_pos hk]
      exact fun _ _ ht => ht
    · simp only [Hooks.sparing, if_neg hk] at hother ⊢
      exact goes_counted_beside hother
  nextBackoff k := by
    have hother := spared.nextBackoff k
    by_cases hk : k = id
    · simp only [Hooks.sparing, if_pos hk]
      exact fun _ _ ht => ht
    · simp only [Hooks.sparing, Hooks.tallied, if_neg hk] at hother ⊢
      exact goes_counted_beside hother
  handle k response supportsRetry := goes_counted_beside (spared.handle k response supportsRetry)
  onRequest k info := goes_counted_beside (spared.onRequest k info)
  onRetry k info := goes_counted_beside (spared.onRetry k info)
  onSuccess k info := goes_counted_beside (spared.onSuccess k info)
  onFailure k info := goes_counted_beside (spared.onFailure k info)

/-- While attempts are made, the policy and its tally agree. -/
theorem attempts_counted (hosts : h.Hosts access id)
    (spared : (h.sparing id).Go access.Spared)
    (hdelay : delay.isNegative = false) (hquota : quota.exact = .finite m) (cancellable : Bool)
    (callbacks : Slot Callbacks) (start : R) (limit n : Nat) (r : Request)
    {t : σ × List (Except Fault (Number R))} (ht : Counted access delay quota codes m t) :
    Counted access delay quota codes m
      (Engine.attempts (h.tallied id) cancellable callbacks start limit n r t).state := by
  -- attempts reset no policy, so that the calls that reset one may be left out
  rw [← Engine.attempts_resetting (h.tallied id) fun _ => pure ()]
  refine Engine.goes_attempts chains_counted (.of_sparing (go_counted_sparing spared) ?_ ?_ ?_)
    cancellable callbacks start limit n r t ht
  · exact fun _ _ ht => ht
  · intro status r t ht
    have hread : access.read (h.isBackoffRequired id status r t.1).state = access.read t.1 := by
      rw [hosts.isBackoffRequired ht.kept]
    exact ⟨hread.trans ht.kept, ht.count⟩
  · simp only [Hooks.tallied, if_pos]
    exact goes_counted_next hosts hdelay hquota

/-- Attempts begin with the count of the policy at zero: the policy is reset, or it is
    that of another request, and was not asked yet. -/
theorem resetPolicy_counted (hosts : h.Hosts access id)
    (spared : (h.sparing id).Go access.Spared) {r : Request} {s : σ}
    {granted : Nat} (hread : access.read s = some (.constant ⟨delay, some quota, codes, granted⟩))
    (hfresh : r.policy = .hook id ∨ granted = 0) :
    Counted access delay quota codes m (Engine.resetPolicy (h.tallied id) r (s, [])).state := by
  have hkept : granted = 0 → ∀ s', access.Spared s s' →
      Counted access delay quota codes m (s', []) := by
    rintro rfl s' hs
    exact ⟨hs _ hread, (Nat.min_zero m).symm⟩
  unfold Engine.resetPolicy
  rw [Run.request_bind]
  match hpolicy : r.policy with
  | .empty => exact hkept (hfresh.resolve_left (by simp [hpolicy])) s fun _ hp => hp
  | .other v => exact hkept (hfresh.resolve_left (by simp [hpolicy])) s fun _ hp => hp
  | .hook k =>
    show Counted access delay quota codes m ((h.resetPolicy k r s).state, [])
    by_cases hk : k = id
    · rw [hk, hosts.resetPolicy hread]
      have hthere : (access.read s).isSome = true := by rw [hread]; rfl
      exact ⟨hosts.read_write hthere _, (Nat.min_zero m).symm⟩
    · have hother := spared.resetPolicy k r s
      simp only [Hooks.sparing, if_neg hk] at hother
      exact hkept (hfresh.resolve_left (by simp [hpolicy, hk])) _ hother

/-- In one execution the policy grants what it is asked for, up to its quota. -/
theorem execute_counted (hosts : h.Hosts access id)
    (spared : (h.sparing id).Go access.Spared)
    (hdelay : delay.isNegative = false) (hquota : quota.exact = .finite m) (cancellable : Bool)
    (limit : Nat) {r : Request} {s : σ} {granted : Nat}
    (hread : access.read s = some (.constant ⟨delay, some quota, codes, granted⟩))
    (hfresh : r.policy = .hook id ∨ granted = 0) :
    let answers := (Engine.execute (h.tallied id) cancellable limit r (s, [])).state.2
    answers.countP grants = min m answers.length := by
  intro answers
  have hreset := resetPolicy_counted (m := m) hosts spared hread hfresh
  obtain ⟨x, hmethod⟩ := Engine.checkMethod_apply (h.tallied id) r (s, [])
  unfold answers Engine.execute
  cases x with
  | error f =>
    rw [Run.bind_error hmethod]
    exact (Nat.min_zero m).symm
  | ok _ =>
    rw [Run.bind_ok hmethod]
    rcases hrun : Engine.resetPolicy (h.tallied id) r (s, []) with ⟨f | _, r', t, e⟩ <;>
      rw [hrun] at hreset
    · rw [Run.bind_error hrun]
      exact hreset.count
    · rw [Run.bind_ok hrun, Run.request_bind, Run.state_bind]
      exact (attempts_counted hosts spared hdelay hquota cancellable r'.callbacks _ limit 0 r'
        hreset).count

end counting

/-! ## Section 4: Executions -/

section executions

variable {h : Hooks R σ} {access : PolicyAccess R σ} {id : Nat} {p : Policy R}

/-- What becomes of a policy by its operations is what becomes of it here, if anything. -/
def PolicyAccess.Operated (access : PolicyAccess R σ) (p : Policy R) (s s' : σ) : Prop :=
  ∀ ops, access.read s = some (p.after ops) → ∃ ops', access.read s' = some (p.after ops')

/-- To leave the policy alone is to operate it not at all. -/
theorem PolicyAccess.Spared.operated {s s' : σ} (hs : access.Spared s s') :
    access.Operated p s s' := fun ops hread => ⟨ops, hs _ hread⟩

theorem chains_operated : Chains (access.Operated p) where
  refl _ ops hs := ⟨ops, hs⟩
  trans hfirst hsecond ops hs := by
    obtain ⟨ops', hs'⟩ := hfirst ops hs
    exact hsecond ops' hs'

/-- All calls of an execution operate the policy, if all but those to the policy do. -/
theorem go_operated (hosts : h.Hosts access id) (hothers : (h.sparing id).Go (access.Operated p)) :
    h.Go (access.Operated p) := by
  refine .of_sparing hothers ?_ ?_ ?_
  · intro r s ops hs
    have hthere : (access.read s).isSome = true := by rw [hs]; rfl
    refine ⟨ops ++ [.reset (h.now s)], ?_⟩
    rw [hosts.resetPolicy hs, Policy.after_snoc]
    exact hosts.read_write hthere _
  · intro status r s ops hs
    refine ⟨ops, ?_⟩
    rw [hosts.isBackoffRequired hs]
    exact hs
  · intro r s ops hs
    have hthere : (access.read s).isSome = true := by rw [hs]; rfl
    refine ⟨ops ++ [.next (h.now s) (access.draw s)], ?_⟩
    rw [hosts.nextBackoff hs, Policy.after_snoc]
    exact hosts.read_settle hthere _

/-- After every history of a policy, an execution on a request with it goes alike. -/
theorem execute_same (hosts : h.Hosts access id) (cancellable : Bool) (limit : Nat) {r : Request}
    (hpolicy : r.policy = .hook id) {s : σ} (hs : (access.read s).isSome = true)
    (ops₁ ops₂ : List (Operation R)) :
    let o₁ := Engine.execute h cancellable limit r (access.write (p.after ops₁) s)
    let o₂ := Engine.execute h cancellable limit r (access.write (p.after ops₂) s)
    o₁.events = o₂.events ∧ o₁.result = o₂.result ∧ o₁.request = o₂.request := by
  have hread : ∀ q, access.read (access.write q s) = some q := hosts.read_write hs
  dsimp only
  rcases Engine.execute_hosted hosts hpolicy cancellable limit with ⟨f, hrefused⟩ | hrun
  · rw [hrefused, hrefused]
    exact ⟨rfl, rfl, rfl⟩
  -- the reset leads to the same state from both
  · rw [hrun (hread _), hrun (hread _)]
    simp only [hosts.now_write, hosts.write_write, Policy.reset_after, and_self]

/-- An execution leaves a history of the policy, if the surroundings do nothing else with it
    than to operate it. -/
theorem execute_operated (hosts : h.Hosts access id)
    (hothers : (h.sparing id).Go (access.Operated p)) (cancellable : Bool) (limit : Nat)
    (r : Request) {s : σ} (hs : (access.read s).isSome = true) (ops : List (Operation R)) :
    ∃ ops', access.read (Engine.execute h cancellable limit r
      (access.write (p.after ops) s)).state = some (p.after ops') :=
  Engine.goes_execute chains_operated (go_operated hosts hothers) cancellable limit r _ ops
    (hosts.read_write hs _)

/-- A constant policy with a quota grants as many pauses as it is asked for by one execution,
    up to the quota, and counting them changes nothing else. -/
theorem execute_granted (hosts : h.Hosts access id) (spared : (h.sparing id).Go access.Spared)
    {q : Constant R} (made : (Policy.constant q).Made) {quota : Number R} {m : Nat}
    (hquota : q.quota = some quota) (hm : quota.exact = .finite m) (cancellable : Bool)
    (limit : Nat) {r : Request} {s : σ} (hs : (access.read s).isSome = true)
    {ops : List (Operation R)} (hfresh : r.policy = .hook id ∨ ops = []) :
    let s' := access.write ((Policy.constant q).after ops) s
    let o := Engine.execute (h.tallied id) cancellable limit r (s', [])
    o.viewed Prod.fst = Engine.execute h cancellable limit r s' ∧
      o.state.2.countP grants = min m o.state.2.length := by
  refine ⟨(Engine.widens_execute (h.tallied_widens id) cancellable limit) r _, ?_⟩
  obtain ⟨delay, _, codes, _⟩ := q
  cases hquota
  cases made with
  | constant make =>
    obtain ⟨hmade, hdelay⟩ := Constant.of_make make
    cases hmade
    obtain ⟨granted, hafter⟩ := Policy.after_constant ⟨delay, some quota, codes, 0⟩ ops
    refine execute_counted hosts spared hdelay hm cancellable limit
      ((hosts.read_write hs _).trans (congrArg some hafter)) (hfresh.imp_right ?_)
    rintro rfl
    cases hafter
    rfl

/-- What an execution carries over from the history of a policy: nothing. -/
structure Forgets (h : Hooks R σ) (access : PolicyAccess R σ) (id : Nat) (p : Policy R)
    (cancellable : Bool) (limit : Nat) (r : Request) (s : σ) : Prop where
  /-- On a request with the policy it reports and answers the same after every history, and
      leaves the same request. -/
  same : r.policy = .hook id → ∀ ops₁ ops₂,
    let o₁ := Engine.execute h cancellable limit r (access.write (p.after ops₁) s)
    let o₂ := Engine.execute h cancellable limit r (access.write (p.after ops₂) s)
    o₁.events = o₂.events ∧ o₁.result = o₂.result ∧ o₁.request = o₂.request
  /-- On this request or any other, and whatever becomes of it, it leaves a history, if the
      surroundings do nothing else with the policy than to operate it. -/
  left : (h.sparing id).Go (access.Operated p) → ∀ ops,
    let o := Engine.execute h cancellable limit r (access.write (p.after ops) s)
    ∃ ops', access.read o.state = some (p.after ops')
  /-- A constant policy with a quota grants as many pauses as it is asked for by one
      execution, up to the quota, if the surroundings leave it alone and it is the policy of
      the request, or comes to it later as it was made. -/
  granted : (h.sparing id).Go access.Spared →
    ∀ q quota (m : Nat), p = .constant q → q.quota = some quota → quota.exact = .finite m →
    ∀ ops, r.policy = .hook id ∨ ops = [] →
    let s' := access.write (p.after ops) s
    let o := Engine.execute (h.tallied id) cancellable limit r (s', [])
    o.viewed Prod.fst = Engine.execute h cancellable limit r s' ∧
      o.state.2.countP grants = min m o.state.2.length

/-- Policies of the library carry nothing from one execution to the next. -/
theorem execute_forgets (hosts : h.Hosts access id) (made : p.Made) (cancellable : Bool)
    (limit : Nat) (r : Request) {s : σ} (hs : (access.read s).isSome = true) :
    Forgets h access id p cancellable limit r s := by
  refine ⟨fun hpolicy ops₁ ops₂ => ?_, fun hothers ops => ?_, ?_⟩
  · exact execute_same hosts cancellable limit hpolicy hs ops₁ ops₂
  · exact execute_operated hosts hothers cancellable limit r hs ops
  · rintro spared q quota m rfl hquota hm ops hfresh
    exact execute_granted hosts spared made hquota hm cancellable limit hs hfresh

/-- A busy server, and a policy that grants one pause, which another execution has had. -/
theorem execute_forgets_busy :
    let h : Hooks Rat (Nat × Policy Rat) :=
      (Playback.hooks { script := fun _ => .ok ⟨503, "", [], []⟩ }).keeping 0 (1 / 2)
    let access := besidePolicy Nat (1 / 2 : Rat)
    let p : Policy Rat := .constant ⟨.whole 250, some (.whole 1), codesOf [503], 0⟩
    let r : Request := { Request.make "GET" (.text "http://a/") none Headers.empty with
      policy := .hook 0 }
    let spent := p.after [.required 503, .next 0 0]
    h.Hosts access 0 ∧ p.Made ∧ (h.sparing 0).Go (access.Operated p) ∧
      (h.sparing 0).Go access.Spared ∧
      Forgets h access 0 p false 11 r (0, p) ∧
      (Engine.execute (h.tallied 0) false 11 r ((0, spent), [])).state.2.map grants
        = [true, false] := by
  intro h access p r spent
  have hosts : h.Hosts access 0 := Hooks.keeping_hosts _ _ _
  have made : p.Made := by
    have hdelay : (Number.whole 250 : Number Rat).isNegative = false := by decide +kernel
    have hquota : (Number.whole 1 : Number Rat).isNegative = false := by decide +kernel
    have hmake : Constant.make (.whole 250 : Number Rat) (some (.whole 1)) (codesOf [503])
        = .ok ⟨.whole 250, some (.whole 1), codesOf [503], 0⟩ := by
      simp [Constant.make, hdelay, hquota]
    exact .constant hmake
  have spared : (h.sparing 0).Go access.Spared := Hooks.keeping_spared _ _ _
  have hothers : (h.sparing 0).Go (access.Operated p) :=
    spared.mono fun _ _ hs => hs.operated
  exact ⟨hosts, made, hothers, spared, execute_forgets hosts made false 11 r rfl,
    by decide +kernel⟩

end executions

end Redial
