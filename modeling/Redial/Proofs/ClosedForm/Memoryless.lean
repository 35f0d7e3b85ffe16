import Redial.Proofs.Budget
import Redial.Proofs.Returns

/-! # Hooks without memory

    Hooks without memory decide by the status of a response alone: which statuses a
    handler accepts, and for which a policy wants a pause.  A script then says of each
    of its outcomes whether it is retried, and what request follows on it. -/

namespace Redial

/-! ## Section 1: Decisions -/

/-- What hooks decide by the status of a response alone. -/
structure Decisions where
  /-- Whether a handler of the caller's accepts a status. -/
  accepts : Nat → Int → Bool
  /-- Whether a policy wants a pause for a status. -/
  requires : Nat → Int → Bool

mutual

/-- Whether a handler accepts a status. -/
def Decisions.acceptedBy (d : Decisions) (status : Int) : Handler → Bool
  | .leaf _ id => d.accepts id status
  | .composite parts => d.acceptedByAny status parts

/-- Whether one of several handlers accepts a status. -/
def Decisions.acceptedByAny (d : Decisions) (status : Int) : List Handler → Bool
  | [] => false
  | part :: parts => d.acceptedBy status part || d.acceptedByAny status parts

end

/-- Whether the handler of a request accepts a status. -/
def Decisions.claims (d : Decisions) (r : Request) (status : Int) : Bool :=
  match r.handler with
  | .hook handler => d.acceptedBy status handler
  | _ => false

/-- Whether the policy of a request wants a pause for a status. -/
def Decisions.pauses (d : Decisions) (r : Request) (status : Int) : Bool :=
  match r.policy with
  | .hook policy => d.requires policy status
  | _ => false

/-- The location that a request follows. -/
def Request.directed (r : Request) (raw : RawResponse) : Option String :=
  if r.followRedirects.isSet && Status.isRedirect raw.status then
    (Headers.ofWire raw.headers).field? .location
  else none

/-- Whether a trigger accepts an unsuccessful response. -/
def Decisions.triggers (d : Decisions) (r : Request) (raw : RawResponse) : Bool :=
  d.claims r raw.status || d.pauses r raw.status || (r.directed raw).isSome

/-- Whether an outcome of an exchange is retried as long as there is a budget. -/
def Decisions.retriable (d : Decisions) (r : Request) : Except Fault RawResponse → Bool
  | .error _ => r.retryOnFailure.isSet
  | .ok raw => !Status.isSuccess raw.status && d.triggers r raw

/-- The request after a response that was offered to the triggers. -/
def Decisions.moved (d : Decisions) (r : Request) (raw : RawResponse) : Request :=
  if d.claims r raw.status || d.pauses r raw.status then r
  else match r.directed raw with
    | some location => r.redirected raw.status location
    | none => r

/-- The request after an outcome that is retried. -/
def Decisions.turned (d : Decisions) (r : Request) : Except Fault RawResponse → Request
  | .error _ => r
  | .ok raw => d.moved r raw

/-- The request of the next attempt, with the budget that is left. -/
def Decisions.next (d : Decisions) (r : Request) (outcome : Except Fault RawResponse)
    (left : Nat) : Request :=
  { d.turned r outcome with retries := .whole (left : Int) }

/-- The request of attempt `i`, after a request with budget `b` at place `k` of a
    script. -/
def Decisions.requestAt (d : Decisions) (script : Nat → Except Fault RawResponse) :
    Nat → Nat → Nat → Request → Request
  | 0, _, _, r => r
  | i + 1, k, b, r => d.requestAt script i (k + 1) (b - 1) (d.next r (script k) (b - 1))

section decisions

variable (d : Decisions)

/-- An outcome leaves the request as it is, or redirects it. -/
theorem Decisions.turned_cases (r : Request) (outcome : Except Fault RawResponse) :
    d.turned r outcome = r ∨ ∃ status target, d.turned r outcome = r.redirected status target := by
  cases outcome with
  | error f => exact .inl rfl
  | ok raw =>
    unfold turned moved
    dsimp only
    split
    · exact .inl rfl
    · split
      · exact .inr ⟨_, _, rfl⟩
      · exact .inl rfl

/-- A response that no trigger accepts leaves the request as it is. -/
theorem Decisions.moved_untriggered {r : Request} {raw : RawResponse}
    (hnone : d.triggers r raw = false) : d.moved r raw = r := by
  unfold triggers at hnone
  obtain ⟨hdecided, hdirected⟩ := Bool.or_eq_false_iff.mp hnone
  unfold moved
  rw [hdecided, Option.isNone_iff_eq_none.mp (Option.isSome_eq_false_iff.mp hdirected)]
  rfl

theorem Decisions.turned_funded {b : Nat} {r : Request} (hb : Engine.Funded b r)
    (outcome : Except Fault RawResponse) : Engine.Funded b (d.turned r outcome) := by
  rcases d.turned_cases r outcome with hsame | ⟨status, target, hmoved⟩
  · rwa [hsame]
  · rw [hmoved]
    exact hb

theorem Decisions.next_placed {r : Request} (hr : r.Placed) (outcome : Except Fault RawResponse)
    (left : Nat) : (d.next r outcome left).Placed := by
  unfold next
  rcases d.turned_cases r outcome with hsame | ⟨status, target, hmoved⟩
  · rw [hsame]
    exact hr.spent _
  · rw [hmoved]
    exact (hr.redirected status target).spent _

/-- A redirect that is followed and a spent retry change none of the settings by which
    outcomes are retried. -/
theorem Decisions.retriable_next (r : Request) (outcome : Except Fault RawResponse) (left : Nat) :
    d.retriable (d.next r outcome left) = d.retriable r := by
  -- the only settings that the decision reads
  have hkept : ∀ r', r'.handler = r.handler → r'.policy = r.policy →
      r'.followRedirects = r.followRedirects → r'.retryOnFailure = r.retryOnFailure →
      d.retriable r' = d.retriable r := by
    intro r' hhandler hpolicy hfollow hresend
    funext o
    cases o with
    | error f => simp only [retriable, hresend]
    | ok raw =>
      simp only [retriable, triggers, claims, pauses, Request.directed, hhandler, hpolicy, hfollow]
  unfold next
  rcases d.turned_cases r outcome with hsame | ⟨status, target, hmoved⟩
  · rw [hsame]
    exact hkept _ rfl rfl rfl rfl
  · rw [hmoved]
    exact hkept _ rfl rfl rfl rfl

theorem Decisions.requestAt_funded (script : Nat → Except Fault RawResponse) {i k b : Nat}
    {r : Request} (hb : Engine.Funded b r) (hi : i ≤ b) :
    Engine.Funded (b - i) (d.requestAt script i k b r) := by
  -- each step moves the request one place on and leaves it one retry less
  induction i generalizing k b r with
  | zero => exact hb
  | succ i ih =>
    have hrest := ih (k := k + 1) (r := d.next r (script k) (b - 1)) (b := b - 1) rfl (by omega)
    rwa [show b - 1 - i = b - (i + 1) by omega] at hrest

end decisions

/-! ## Section 2: Hooks without memory -/

/-- A call that answers a value and changes neither the request nor the place in a
    script. -/
def Run.Answers {ε σ α : Type} (place : σ → Nat) (a : α) (x : Run ε σ α) : Prop :=
  ∀ r s, ∃ s' e, x r s = ⟨.ok a, r, s', e⟩ ∧ place s' = place s

/-- The outcomes of a script are responses and failures of the exchange; its redirects
    go to absolute URLs, and each of its responses can be read as text. -/
structure PlainScript (decode : Decoder) (script : Nat → Except Fault RawResponse) : Prop where
  failures : ∀ {k f}, script k = .error f → f.isExchange = true
  locations : ∀ {k raw location}, script k = .ok raw → Status.isRedirect raw.status = true →
    (Headers.ofWire raw.headers).field? .location = some location →
    ∃ l, Url.parse location.toList = .ok l ∧ l.isAbsolute = true
  charsets : ∀ {k raw} method target, script k = .ok raw →
    ∃ text, (Response.ofRaw raw method target).textBy decode = .ok text

/-- Hooks that decide by the status alone, and a transport that plays a script; `place`
    tells how far the script has been played. -/
structure Memoryless {R σ : Type} [Arith R] (h : Hooks R σ) (d : Decisions) (place : σ → Nat)
    (script : Nat → Except Fault RawResponse) : Prop where
  debug : h.debug = false
  sleep : ∀ span s, place (h.sleep span s) = place s
  /-- The clock makes at least the sleeps that a system's clock makes. -/
  checkPause : ∀ span s, Engine.checkSleep span = .ok () → h.checkPause false span s = .ok ()
  announce : ∀ staged, (h.announce staged).Answers place ()
  writeSource : ∀ id, (h.writeSource id).Returns fun r s => (r, place s)
  exchange : ∀ staged body r s, ∃ s' notes,
    h.exchange staged body r s = ⟨script (place s), r, s', notes⟩ ∧ place s' = place s + 1
  resetPolicy : ∀ id, (h.resetPolicy id).Answers place ()
  isBackoffRequired : ∀ id status, (h.isBackoffRequired id status).Answers place
    (d.requires id status)
  /-- A pause is never refused, and has a length in seconds that can be slept. -/
  nextBackoff : ∀ id r s, ∃ millis s' notes,
    h.nextBackoff id r s = ⟨.ok millis, r, s', notes⟩ ∧ place s' = place s ∧
      millis.eq Backoff.stop = false ∧
      ∃ span : R, Engine.seconds millis = .ok span ∧ Engine.checkSleep span = .ok ()
  handle : ∀ id response supportsRetry, (h.handle id response supportsRetry).Answers place
    (d.accepts id response.status)
  onRequest : ∀ id info, (h.onRequest id info).Answers place ()
  onRetry : ∀ id info, (h.onRetry id info).Answers place ()
  onSuccess : ∀ id info, (h.onSuccess id info).Answers place ()
  onFailure : ∀ id info, (h.onFailure id info).Answers place ()

theorem Run.Answers.returns {ε σ α : Type} {place : σ → Nat} {a : α} {x : Run ε σ α}
    (hx : x.Answers place a) : x.Returns fun r s => (r, place s) := by
  intro r s
  obtain ⟨s', e, hrun, hplace⟩ := hx r s
  exact ⟨a, r, s', e, hrun, Prod.ext rfl hplace⟩

/-- A run that returns and leaves the request and the place alone. -/
theorem Run.Returns.left {ε σ α : Type} {place : σ → Nat} {x : Run ε σ α}
    (hx : x.Returns fun r s => (r, place s)) {r r' : Request} {s s' : σ} {a : Except Fault α}
    {e : List ε} (run : x r s = ⟨a, r', s', e⟩) : r' = r ∧ place s' = place s := by
  obtain ⟨_, r₁, s₁, e₁, hrun, hkept⟩ := hx r s
  rw [run] at hrun
  cases hrun
  exact Prod.mk.inj hkept

theorem Run.Returns.preserves {ε σ α : Type} {place : σ → Nat} {x : Run ε σ α}
    {P : Request → Prop} (hx : x.Returns fun r s => (r, place s)) : x.Preserves P := by
  intro r s hr
  have hleft : (x r s).request = r := (hx.left (r := r) (s := s) rfl).1
  rwa [hleft]

namespace Memoryless

variable {R σ : Type} [Arith R] {h : Hooks R σ} {d : Decisions} {place : σ → Nat}
  {script : Nat → Except Fault RawResponse}

theorem returning (hm : Memoryless h d place script) : h.Return fun r s => (r, place s) where
  resetPolicy id := (hm.resetPolicy id).returns
  isBackoffRequired id status := (hm.isBackoffRequired id status).returns
  nextBackoff id := by
    intro r s
    obtain ⟨millis, s', notes, hnext, hplace, -⟩ := hm.nextBackoff id r s
    exact ⟨millis, r, s', notes, hnext, Prod.ext rfl hplace⟩
  handle id response supportsRetry := (hm.handle id response supportsRetry).returns
  onRequest id info := (hm.onRequest id info).returns
  onRetry id info := (hm.onRetry id info).returns
  onSuccess id info := (hm.onSuccess id info).returns
  onFailure id info := (hm.onFailure id info).returns

/-- Hooks without memory leave the request alone. -/
theorem preserve (hm : Memoryless h d place script) (P : Request → Prop) : h.Preserve P where
  writeSource id := (hm.writeSource id).preserves
  announce staged := (hm.announce staged).returns.preserves
  exchange staged body := by
    intro r s hr
    obtain ⟨s', notes, hexchange, -⟩ := hm.exchange staged body r s
    rwa [hexchange]
  resetPolicy id := (hm.returning.resetPolicy id).preserves
  isBackoffRequired id status := (hm.returning.isBackoffRequired id status).preserves
  nextBackoff id := (hm.returning.nextBackoff id).preserves
  handle id response supportsRetry := (hm.returning.handle id response supportsRetry).preserves
  onRequest id info := (hm.returning.onRequest id info).preserves
  onRetry id info := (hm.returning.onRetry id info).preserves
  onSuccess id info := (hm.returning.onSuccess id info).preserves
  onFailure id info := (hm.returning.onFailure id info).preserves

end Memoryless

/-- Playback has no memory if its handlers go by the status, and all its pauses can be
    made. -/
theorem Playback.memoryless {R : Type} [Arith R] (p : Playback R) (accepts : Nat → Int → Bool)
    (haccepts : ∀ id response, p.accepts id response = accepts id response.status)
    (hgo : ∀ id, (p.pauses id).eq Backoff.stop = false)
    (hspan : ∀ id, ∃ span : R,
      Engine.seconds (p.pauses id) = .ok span ∧ Engine.checkSleep span = .ok ()) :
    Memoryless p.hooks ⟨accepts, p.requires⟩ id p.script where
  debug := rfl
  sleep _ _ := rfl
  checkPause _ _ hspan := hspan
  announce _ := fun _ s => ⟨s, [], rfl, rfl⟩
  writeSource _ := Run.returns_pure []
  exchange _ _ := fun _ s => ⟨s + 1, [], rfl, rfl⟩
  resetPolicy _ := fun _ s => ⟨s, [], rfl, rfl⟩
  isBackoffRequired _ _ := fun _ s => ⟨s, [], rfl, rfl⟩
  nextBackoff id := fun _ s => ⟨p.pauses id, s, [], rfl, rfl, hgo id, hspan id⟩
  handle id response _ := fun r s => by
    refine ⟨s, [], ?_, rfl⟩
    show (⟨.ok (p.accepts id response), r, s, []⟩ : Outcome Note Nat Bool) = _
    rw [haccepts id response]
  onRequest _ _ := fun _ s => ⟨s, [], rfl, rfl⟩
  onRetry _ _ := fun _ s => ⟨s, [], rfl, rfl⟩
  onSuccess _ _ := fun _ s => ⟨s, [], rfl, rfl⟩
  onFailure _ _ := fun _ s => ⟨s, [], rfl, rfl⟩

end Redial
