import Redial.Proofs.Backoff.Exact
import Redial.Proofs.Backoff.Pauses
import Redial.Proofs.Playback

/-! # How long a run pauses in total

    An exponential policy grants no pause once more than its limit has passed since its
    reset.  The clock has gone on by every pause since then.  So before the last pause
    they come to less than the limit and one millisecond, because the time is cut off to
    whole milliseconds before it is compared, and the last pause is drawn from the
    interval below the cap, widened by the factor.

    The invariant says this after every question to the policy: the clock is at least as
    far beyond the reset as the pauses are long. -/

namespace Redial

open Backoff

variable {σ : Type}

/-! ## Section 1: Surroundings with a clock -/

/-- The policy stays as it is, and the clock does not go back. -/
def PolicyAccess.Forward (access : PolicyAccess Rat σ) (h : Hooks Rat σ) (s s' : σ) : Prop :=
  access.Spared s s' ∧ h.now s ≤ h.now s'

/-- Surroundings that keep a policy and have a clock.  The clock never goes back, also while
    the policy is asked, and goes on by every pause unless the cancel event ends it. -/
structure Hooks.Times (h : Hooks Rat σ) (access : PolicyAccess Rat σ) (id : Nat) : Prop where
  /-- No call replaces the policy of the request. -/
  requests : h.Preserve fun r => r.policy = .hook id
  /-- No other call changes or calls the policy. -/
  others : (h.sparing id).Go (access.Forward h)
  slept : ∀ span s, h.now s + span ≤ h.now (h.sleep span s)
  waited : ∀ span s, (h.wait span s).1 = false → h.now s + span ≤ h.now (h.wait span s).2
  reset : ∀ {p s}, access.read s = some p → ∀ r,
    let s' := (h.resetPolicy id r s).state
    ∃ now, h.now s ≤ now ∧ now ≤ h.now s' ∧ access.read s' = some (p.reset now)
  required : ∀ {p s}, access.read s = some p → ∀ status r,
    access.Forward h s (h.isBackoffRequired id status r s).state
  /-- The policy is asked at some time, and takes a draw below one. -/
  next : ∀ {p s}, access.read s = some p → ∀ r,
    let o := h.nextBackoff id r s
    ∃ now draw, h.now s ≤ now ∧ now ≤ h.now o.state ∧ 0 ≤ draw ∧ draw < 1 ∧
      o.result = (p.answer now draw).millis.mapError .arithmetic ∧
      access.read o.state = some (p.answer now draw).policy

/-- A policy that is operated without delay is one example. -/
theorem Hooks.Hosts.times {h : Hooks Rat σ} {access : PolicyAccess Rat σ} {id : Nat}
    (hosts : h.Hosts access id) (requests : h.Preserve fun r => r.policy = .hook id)
    (others : (h.sparing id).Go (access.Forward h))
    (slept : ∀ span s, h.now s + span ≤ h.now (h.sleep span s))
    (waited : ∀ span s, (h.wait span s).1 = false →
      h.now s + span ≤ h.now (h.wait span s).2)
    (draws : ∀ s, 0 ≤ access.draw s ∧ access.draw s < 1) : h.Times access id where
  requests := requests
  others := others
  slept := slept
  waited := waited
  reset {p s} hread r := by
    dsimp only
    rw [hosts.resetPolicy hread]
    have hthere : (access.read s).isSome = true := by rw [hread]; rfl
    exact ⟨h.now s, le_rfl, (hosts.now_write _ s).ge, hosts.read_write hthere _⟩
  required {p s} hread status r := by
    rw [hosts.isBackoffRequired hread]
    exact ⟨fun _ hp => hp, le_rfl⟩
  next {p s} hread r := by
    dsimp only
    rw [hosts.nextBackoff hread]
    have hthere : (access.read s).isSome = true := by rw [hread]; rfl
    exact ⟨h.now s, access.draw s, le_rfl, (hosts.now_settle _ s).ge, (draws s).1, (draws s).2,
      rfl, hosts.read_settle hthere _⟩

/-! ## Section 2: What a question to the policy does -/

/-- A bound of the pauses that a policy grants after a reset. -/
def Backoff.Exponential.Bounds (e : Exponential Rat) (ps : List Rat) : Prop :=
  ps.sum * 1000 < e.limit.value + 1 + (1 + e.factor.value) * e.cap.value

/-- The policy after some pauses: it was reset before all of them. -/
structure Since (h : Hooks Rat σ) (access : PolicyAccess Rat σ) (e q : Exponential Rat)
    (ps : List Rat) (s : σ) : Prop where
  kept : access.read s = some (.exponential q)
  same : q = { e with current := q.current, started := q.started }
  within : q.Within
  since : q.started ≤ h.now s
  passed : q.started + ps.sum ≤ h.now s
  bound : e.Bounds ps

variable {h : Hooks Rat σ} {access : PolicyAccess Rat σ} {id : Nat} {e q : Exponential Rat}
  {ps : List Rat} {s s' : σ}

/-- Time passes while the policy is left alone. -/
theorem Since.forward (hs : Since h access e q ps s) (hforward : access.Forward h s s') :
    Since h access e q ps s' :=
  { hs with
    kept := hforward.1 _ hs.kept
    since := hs.since.trans hforward.2
    passed := hs.passed.trans hforward.2 }

/-- The pauses before a granted one end before the limit, and it is at most the cap, widened
    by the factor. -/
theorem Since.granted (hs : Since h access e q ps s) {now draw : Rat} (hnow : h.now s ≤ now)
    (hdraw : 0 ≤ draw ∧ draw < 1) {pause : Int} (hexpired : q.isExpired now = .ok false)
    (hinterval : q.interval draw = .ok pause) : e.Bounds (ps ++ [(pause : Rat) / 1000]) := by
  have hparts : q.limit = e.limit ∧ q.factor = e.factor ∧ q.cap = e.cap := by
    rw [hs.same]
    exact ⟨rfl, rfl, rfl⟩
  have hearlier : ps.sum * 1000 < q.limit.value + 1 := by
    have hpassed := hs.passed
    have hlimit := Exponential.elapsed_lt (hs.since.trans hnow) hexpired
    linarith
  have hlast : (pause : Rat) ≤ (1 + q.factor.value) * q.cap.value := by
    have hfactor := hs.within.factor
    exact (hs.within.interval hdraw hinterval).2.trans
      (mul_le_mul_of_nonneg_left hs.within.current.2 (by linarith))
  unfold Exponential.Bounds
  rw [← hparts.1, ← hparts.2.1, ← hparts.2.2, List.sum_append, List.sum_singleton, add_mul,
    div_mul_cancel₀ _ (by norm_num)]
  linarith

/-- A question for the next pause leaves a policy that was reset at the same time.  If the
    policy grants a pause, this pause is within the bound as well. -/
theorem Since.next (ht : h.Times access id) (hs : Since h access e q ps s) {r r' : Request}
    {millis : Number Rat} {notes : List Note}
    (hnext : h.nextBackoff id r s = ⟨.ok millis, r', s', notes⟩) :
    ∃ q', Since h access e q' ps s' ∧
      (millis.eq stop = false → e.Bounds (ps ++ [millis.value / 1000])) := by
  obtain ⟨now, draw, hfrom, hto, hdraw, hdraw', hresult, hread⟩ := ht.next hs.kept r
  rw [hnext] at hto hresult hread
  have hforward : h.now s ≤ h.now s' := hfrom.trans hto
  rcases Policy.exponential_answer q now draw with
    ⟨f, hmillis, -⟩ | ⟨granted, q', hanswer, hmillis, hpolicy⟩
  · rw [hmillis] at hresult
    cases hresult
  · rw [hmillis] at hresult
    rw [hpolicy] at hread
    cases hresult
    rcases Policy.exponential_next hanswer with
      ⟨-, rfl, rfl⟩ | ⟨pause, current, hexpired, hinterval, hgrown, rfl, rfl⟩
    -- the limit has passed, and the policy stays as it is
    · refine ⟨q', { hs with
        kept := hread
        since := hs.since.trans hforward
        passed := hs.passed.trans hforward }, fun hgo => ?_⟩
      cases hgo
    · refine ⟨_, {
        kept := hread
        same := by rw [hs.same]
        within := hs.within.grown hgrown
        since := hs.since.trans hforward
        passed := hs.passed.trans hforward
        bound := hs.bound }, fun _ => ?_⟩
      exact hs.granted hfrom ⟨hdraw, hdraw'⟩ hexpired hinterval

/-- While a pause goes through, the clock goes on by it. -/
theorem Since.paused (ht : h.Times access id) (hs : Since h access e q ps s) {cancellable : Bool}
    {millis : Number Rat} {span : Rat} {r r' : Request} {events : List (Event Rat)}
    (hfit : Engine.Fit h cancellable millis s span)
    (hpause : Engine.pause h cancellable millis r s = ⟨.ok (), r', s', events⟩)
    (hbound : e.Bounds (ps ++ [millis.value / 1000])) :
    Since h access e q (ps ++ [millis.value / 1000]) s' := by
  have hspan : access.Forward h s s' ∧ h.now s + millis.value / 1000 ≤ h.now s' := by
    cases (Engine.seconds_exact millis).symm.trans hfit.length
    rw [Engine.pause_apply hfit] at hpause
    cases cancellable with
    | false =>
      cases hpause
      exact ⟨ht.others.sleep _ s, ht.slept _ s⟩
    | true =>
      cases hset : (h.wait (millis.value / 1000) s).1 with
      | true =>
        rw [hset] at hpause
        cases hpause
      | false =>
        rw [hset] at hpause
        cases hpause
        exact ⟨ht.others.wait _ s, ht.waited _ s hset⟩
  refine { hs with
    kept := hspan.1.1 _ hs.kept
    since := hs.since.trans hspan.1.2
    passed := ?_
    bound := hbound }
  rw [List.sum_append, List.sum_singleton, ← add_assoc]
  exact (add_le_add_left hs.passed _).trans hspan.2

/-! ## Section 3: Runs -/

/-- The questions that a response raises for the policy carry the invariant on. -/
theorem Since.asked (ht : h.Times access id) {cancellable : Bool} {status : Int} {r : Request}
    {cs : List (Engine.Consult Rat)} {o : Outcome (Event Rat) σ (Option Rat)}
    (hasked : Engine.PolicyAsked h cancellable status r s cs o) (hr : r.policy = .hook id)
    (hs : ∃ q, Since h access e q ps s) :
    Engine.Carried id (fun ps s => ∃ q, Since h access e q ps s) e.Bounds
      (ps ++ cs.flatMap Engine.Consult.pauses) o := by
  obtain ⟨q, hs⟩ := hs
  have hrequest := hasked.preserved ht.requests hr
  -- the policy that is asked is this one, and what it is asked first leaves it alone
  have hfirst : ∀ {policy x r₁ s₁ n₁}, r.policy = .hook policy →
      h.isBackoffRequired policy status r s = ⟨x, r₁, s₁, n₁⟩ →
      policy = id ∧ Since h access e q ps s₁ := by
    intro policy x r₁ s₁ n₁ hook call
    obtain rfl : policy = id := Slot.hook.inj (hook.symm.trans hr)
    have hforward := ht.required hs.kept status r
    rw [call] at hforward
    exact ⟨rfl, hs.forward hforward⟩
  cases hasked with
  | absent empty =>
    rw [empty] at hr
    cases hr
  | misplaced other =>
    rw [other] at hr
    cases hr
  | requiredFailed hook call =>
    rw [show ps ++ _ = ps by simp]
    exact ⟨hs.bound, nofun⟩
  | unneeded hook call =>
    rw [show ps ++ _ = ps by simp]
    exact ⟨hs.bound, fun _ _ => ⟨hrequest, q, (hfirst hook call).2⟩⟩
  | nextFailed hook call next =>
    rw [show ps ++ _ = ps by simp]
    exact ⟨hs.bound, nofun⟩
  | stopped hook call next stop =>
    rw [show ps ++ _ = ps by simp]
    obtain ⟨rfl, hrequired⟩ := hfirst hook call
    obtain ⟨q', hnext, -⟩ := hrequired.next ht next
    exact ⟨hs.bound, fun _ _ => ⟨hrequest, q', hnext⟩⟩
  | unpaused hook call next go unfit =>
    rw [show ps ++ _ = ps by simp]
    exact ⟨hs.bound, nofun⟩
  | @cut _ millis _ _ _ _ _ _ _ _ _ _ hook call next go fit =>
    have hseconds := Engine.seconds_exact millis
    rw [show ps ++ _ = ps ++ [millis.value / 1000] by simp [Engine.Consult.pauses_pause hseconds]]
    obtain ⟨rfl, hrequired⟩ := hfirst hook call
    obtain ⟨q', -, hbound⟩ := hrequired.next ht next
    exact ⟨hbound go, nofun⟩
  | @paused _ millis _ _ _ _ _ _ _ _ _ _ hook call next go fit paused =>
    have hseconds := Engine.seconds_exact millis
    rw [show ps ++ _ = ps ++ [millis.value / 1000] by simp [Engine.Consult.pauses_pause hseconds]]
    obtain ⟨rfl, hrequired⟩ := hfirst hook call
    obtain ⟨q', hnext, hbound⟩ := hrequired.next ht next
    exact ⟨hbound go, fun _ _ => ⟨hrequest, q', hnext.paused ht fit paused (hbound go)⟩⟩

theorem Hooks.Times.paces (ht : h.Times access id) (e : Exponential Rat) (cancellable : Bool) :
    Engine.Paces h cancellable id (fun ps s => ∃ q, Since h access e q ps s) e.Bounds where
  bound := fun ⟨_, hs⟩ => hs.bound
  requests := ht.requests
  calls := ht.others.mono fun _ _ hforward _ ⟨q, hs⟩ => ⟨q, hs.forward hforward⟩
  asked hasked hr _ hs := Since.asked ht hasked hr hs

/-- No pause at all is within the bound. -/
theorem Backoff.Exponential.Within.bounds (he : e.Within) : e.Bounds [] := by
  have hcap : 0 < (1 + e.factor.value) * e.cap.value :=
    mul_pos (by linarith [he.factor.1]) (he.initial.1.trans_le he.initial.2)
  unfold Exponential.Bounds
  rw [List.sum_nil, zero_mul]
  linarith [he.limit]

/-- The reset at the beginning of a run establishes the invariant. -/
theorem Since.reset (ht : h.Times access id) (he : e.Within) {r r' : Request}
    {events : List (Event Rat)} (hr : r.policy = .hook id) (ops : List (Operation Rat))
    (hread : access.read s = some ((Policy.exponential e).after ops))
    (hreset : Engine.resetPolicy h r s = ⟨.ok (), r', s', events⟩) :
    r'.policy = .hook id ∧ ∃ q, Since h access e q [] s' := by
  refine ⟨(Engine.preserves_resetPolicy ht.requests).left hreset hr, ?_⟩
  have hstate : s' = (h.resetPolicy id r s).state := by
    have hleft := congrArg Outcome.state hreset
    unfold Engine.resetPolicy at hleft
    rw [Run.request_bind, hr] at hleft
    exact hleft.symm
  obtain ⟨now, -, hto, hpolicy⟩ := ht.reset hread r
  rw [← hstate] at hto hpolicy
  rw [Policy.reset_after] at hpolicy
  exact ⟨e.reset now, {
    kept := hpolicy
    same := rfl
    within := he.reset now
    since := hto
    passed := by rwa [List.sum_nil, add_zero]
    bound := he.bounds }⟩

/-- The pauses of one execution come to less than the limit and one millisecond and the
    cap, widened by the factor. -/
theorem execute_pauses_lt {h : Hooks Rat σ} {access : PolicyAccess Rat σ} {id : Nat}
    (ht : h.Times access id) {initial factor multiplier cap limit : Number Rat} {codes : Value}
    {made : Rat} {e : Exponential Rat}
    (hmake : Exponential.make initial factor multiplier cap limit codes made = .ok e)
    (ops : List (Operation Rat)) (cancellable : Bool) (attempts : Nat) {r : Request}
    (hr : r.policy = .hook id) {s : σ}
    (hs : access.read s = some ((Policy.exponential e).after ops)) :
    (pauses (Engine.execute h cancellable attempts r s).events).sum * 1000
      < limit.value + 1 + (1 + factor.value) * cap.value := by
  obtain ⟨rfl, he⟩ := Exponential.within_of_make hmake
  obtain ⟨turns, ending, hexecuted, -⟩ := Engine.executed h cancellable attempts r s
  exact hexecuted.paced (ht.paces _ cancellable) he.bounds (Since.reset ht he hr ops hs)

/-! ## Section 4: A clock that only pauses move -/

/-- Surroundings in which nothing takes time but the pauses. -/
def Hooks.ticking (h : Hooks Rat σ) : Hooks Rat (σ × Rat) :=
  { h.beside Rat with
    now := Prod.snd
    sleep := fun span t => (h.sleep span t.1, t.2 + max span 0)
    wait := fun span t => ((h.wait span t.1).1, (h.wait span t.1).2, t.2 + max span 0) }

theorem Hooks.ticking_goes (h : Hooks Rat σ) :
    h.ticking.Go fun t t' => h.ticking.now t ≤ h.ticking.now t' where
  sleep _ _ := le_add_of_nonneg_right (le_max_right _ _)
  wait _ _ := le_add_of_nonneg_right (le_max_right _ _)
  writeSource _ _ _ := le_rfl
  announce _ _ _ := le_rfl
  exchange _ _ _ _ := le_rfl
  resetPolicy _ _ _ := le_rfl
  isBackoffRequired _ _ _ _ := le_rfl
  nextBackoff _ _ _ := le_rfl
  handle _ _ _ _ _ := le_rfl
  onRequest _ _ _ _ := le_rfl
  onRetry _ _ _ _ := le_rfl
  onSuccess _ _ _ _ := le_rfl
  onFailure _ _ _ _ := le_rfl

theorem Hooks.ticking_preserve {P : Request → Prop} {h : Hooks Rat σ} (hp : h.Preserve P) :
    h.ticking.Preserve P where
  writeSource k := Run.preserves_beside (hp.writeSource k)
  announce staged := Run.preserves_beside (hp.announce staged)
  exchange staged body := Run.preserves_beside (hp.exchange staged body)
  resetPolicy k := Run.preserves_beside (hp.resetPolicy k)
  isBackoffRequired k status := Run.preserves_beside (hp.isBackoffRequired k status)
  nextBackoff k := Run.preserves_beside (hp.nextBackoff k)
  handle k response supportsRetry := Run.preserves_beside (hp.handle k response supportsRetry)
  onRequest k info := Run.preserves_beside (hp.onRequest k info)
  onRetry k info := Run.preserves_beside (hp.onRetry k info)
  onSuccess k info := Run.preserves_beside (hp.onSuccess k info)
  onFailure k info := Run.preserves_beside (hp.onFailure k info)

/-- A policy that is kept beside surroundings with such a clock. -/
theorem Hooks.ticking_times {h : Hooks Rat σ} {id : Nat}
    (hp : h.Preserve fun r => r.policy = .hook id) {draw : Rat} (hdraw : 0 ≤ draw ∧ draw < 1) :
    (h.ticking.keeping id draw).Times (besidePolicy (σ × Rat) draw) id := by
  have hT : Chains fun t t' : σ × Rat => h.ticking.now t ≤ h.ticking.now t' :=
    ⟨fun _ => le_rfl, le_trans⟩
  exact (Hooks.keeping_hosts h.ticking id draw).times
    (Hooks.keeping_preserve (Hooks.ticking_preserve hp) id draw)
    (Hooks.keeping_goes hT h.ticking_goes id draw)
    (fun span t => add_le_add_right (le_max_left span 0) t.1.2)
    (fun span t _ => add_le_add_right (le_max_left span 0) t.1.2)
    fun _ => hdraw

/-- A busy server: when a third pause is asked for the limit has passed. -/
theorem execute_pauses_lt_busy :
    let h : Hooks Rat ((Nat × Rat) × Policy Rat) :=
      (Playback.hooks { script := fun _ => .ok ⟨503, "", [], []⟩ }).ticking.keeping 0 (1 / 2)
    let e : Exponential Rat :=
      ⟨.whole 500, .real (1 / 2), .real (3 / 2), .whole 60000, .whole 1000, codesOf [503],
        .whole 500, 0⟩
    let r : Request := { Request.make "GET" (.text "http://a/") none Headers.empty with
      policy := .hook 0 }
    let spans := pauses (Engine.execute h false 11 r ((0, 7), .exponential e)).events
    h.Times (besidePolicy (Nat × Rat) (1 / 2)) 0 ∧
      Exponential.make (.whole 500) (.real (1 / 2)) (.real (3 / 2)) (.whole 60000) (.whole 1000)
        (codesOf [503]) 0 = .ok e ∧
      spans = [1 / 2, 3 / 4] ∧ spans.sum * 1000 < 1000 + 1 + (1 + 1 / 2) * 60000 := by
  intro h e r spans
  have hkeep : (Playback.hooks { script := fun _ => .ok ⟨503, "", [], []⟩ } :
      Hooks Rat Nat).Preserve fun r => r.policy = .hook 0 := Playback.keep _ _
  have htimes : h.Times (besidePolicy (Nat × Rat) (1 / 2)) 0 :=
    Hooks.ticking_times hkeep ⟨by norm_num, by norm_num⟩
  have hwithin : e.Within := by
    constructor <;> norm_num [e, Number.value]
  have hmake : Exponential.make (.whole 500) (.real (1 / 2)) (.real (3 / 2)) (.whole 60000)
      (.whole 1000) (codesOf [503]) 0 = .ok e := hwithin.make
  have hbound := execute_pauses_lt htimes hmake [] false 11 (r := r) rfl
    (s := ((0, 7), .exponential e)) rfl
  exact ⟨htimes, hmake, by decide +kernel, hbound.trans_eq (by norm_num [Number.value])⟩

end Redial
