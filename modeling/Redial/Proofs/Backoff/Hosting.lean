import Redial.Backoff.Policy
import Redial.Proofs.Account.Course
import Redial.Proofs.Likeness.Travel
import Redial.Proofs.Widening

/-! # Surroundings that keep a policy of the library

    An execution knows a policy by its number and calls it through the surroundings,
    which keep it somewhere in their state.  `PolicyAccess` says where, and
    `Hooks.Hosts` that the calls with that number are the operations of the policy,
    on the clock and the draws of the surroundings.  What the policy is asked
    elsewhere, and by whom, stays open. -/

namespace Redial

open Backoff

variable {R σ : Type}

/-! ## Section 1: Hosts -/

/-- Where a policy is kept in the state of the surroundings, and whence it takes its draws. -/
structure PolicyAccess (R σ : Type) where
  /-- The policy, if there is one. -/
  read : σ → Option (Policy R)
  write : Policy R → σ → σ
  /-- The next draw. -/
  draw : σ → R
  /-- Uses up the next draw. -/
  dropDraw : σ → σ

/-- What an answer leaves: the policy afterwards, and the draws without the one it took. -/
def PolicyAccess.settle (access : PolicyAccess R σ) (a : Answer R) (s : σ) : σ :=
  if a.drew then access.dropDraw (access.write a.policy s) else access.write a.policy s

/-- What an answer writes to the debug log. -/
def Backoff.Answer.notes (debug : Bool) (a : Answer R) : List Note :=
  match a.line with
  | some line => if debug then [.log .exponential line] else []
  | none => []

/-- Surroundings in which the calls to a policy are the operations of the policy that is
    kept there. -/
structure Hooks.Hosts [Arith R] (h : Hooks R σ) (access : PolicyAccess R σ) (id : Nat) :
    Prop where
  read_write : ∀ {s}, (access.read s).isSome = true → ∀ p,
    access.read (access.write p s) = some p
  write_write : ∀ p q s, access.write q (access.write p s) = access.write q s
  now_write : ∀ p s, h.now (access.write p s) = h.now s
  read_dropDraw : ∀ s, access.read (access.dropDraw s) = access.read s
  now_dropDraw : ∀ s, h.now (access.dropDraw s) = h.now s
  resetPolicy : ∀ {p s}, access.read s = some p → ∀ r,
    h.resetPolicy id r s = ⟨.ok (), r, access.write (p.reset (h.now s)) s, []⟩
  isBackoffRequired : ∀ {p s}, access.read s = some p → ∀ status r,
    h.isBackoffRequired id status r s = ⟨p.requires status, r, s, []⟩
  nextBackoff : ∀ {p s}, access.read s = some p → ∀ r,
    h.nextBackoff id r s =
      ⟨(p.answer (h.now s) (access.draw s)).millis.mapError .arithmetic, r,
        access.settle (p.answer (h.now s) (access.draw s)) s,
        (p.answer (h.now s) (access.draw s)).notes h.debug⟩

namespace Hooks.Hosts

variable [Arith R] {h : Hooks R σ} {access : PolicyAccess R σ} {id : Nat}

theorem read_settle (hosts : h.Hosts access id) {s : σ} (hs : (access.read s).isSome = true)
    (a : Answer R) : access.read (access.settle a s) = some a.policy := by
  unfold PolicyAccess.settle
  split
  · rw [hosts.read_dropDraw, hosts.read_write hs]
  · exact hosts.read_write hs a.policy

theorem now_settle (hosts : h.Hosts access id) (a : Answer R) (s : σ) :
    h.now (access.settle a s) = h.now s := by
  unfold PolicyAccess.settle
  split
  · rw [hosts.now_dropDraw, hosts.now_write]
  · exact hosts.now_write a.policy s

end Hooks.Hosts

/-! ## Section 2: All calls but those to a policy -/

/-- The surroundings in which the calls to a policy do nothing. -/
def Hooks.sparing (h : Hooks R σ) (id : Nat) : Hooks R σ :=
  { h with
    resetPolicy := fun k => if k = id then pure () else h.resetPolicy k
    isBackoffRequired := fun k status =>
      if k = id then pure false else h.isBackoffRequired k status
    nextBackoff := fun k => if k = id then pure stop else h.nextBackoff k }

/-- A policy that is there stays as it is. -/
def PolicyAccess.Spared (access : PolicyAccess R σ) (s s' : σ) : Prop :=
  ∀ p, access.read s = some p → access.read s' = some p

/-- Where all other calls go, and those to the policy as well, all calls go. -/
theorem Hooks.Go.of_sparing {T : σ → σ → Prop} {h : Hooks R σ} {id : Nat}
    (hh : (h.sparing id).Go T) (hreset : (h.resetPolicy id).Goes T)
    (hrequired : ∀ status, (h.isBackoffRequired id status).Goes T)
    (hnext : (h.nextBackoff id).Goes T) : h.Go T where
  sleep := hh.sleep
  wait := hh.wait
  writeSource := hh.writeSource
  announce := hh.announce
  exchange := hh.exchange
  resetPolicy k := by
    by_cases hk : k = id
    · rwa [hk]
    · have hother := hh.resetPolicy k
      simp only [Hooks.sparing, if_neg hk] at hother
      exact hother
  isBackoffRequired k status := by
    by_cases hk : k = id
    · rw [hk]
      exact hrequired status
    · have hother := hh.isBackoffRequired k status
      simp only [Hooks.sparing, if_neg hk] at hother
      exact hother
  nextBackoff k := by
    by_cases hk : k = id
    · rwa [hk]
    · have hother := hh.nextBackoff k
      simp only [Hooks.sparing, if_neg hk] at hother
      exact hother
  handle := hh.handle
  onRequest := hh.onRequest
  onRetry := hh.onRetry
  onSuccess := hh.onSuccess
  onFailure := hh.onFailure

/-! ## Section 3: Parts that call no policy -/

namespace Engine

mutual

/-- Handlers are asked alike where the surroundings handle and log alike. -/
theorem ask_congr {k h : Hooks R σ} (hhandle : k.handle = h.handle) (hdebug : k.debug = h.debug)
    (response : Response) (supportsRetry : Bool) : ∀ handler,
    ask k response supportsRetry handler = ask h response supportsRetry handler
  | .leaf _ id => by
    unfold ask
    rw [hhandle]
  | .composite parts => by
    unfold ask
    exact askInOrder_congr hhandle hdebug response supportsRetry parts

theorem askInOrder_congr {k h : Hooks R σ} (hhandle : k.handle = h.handle)
    (hdebug : k.debug = h.debug) (response : Response) (supportsRetry : Bool) : ∀ parts,
    askInOrder k response supportsRetry parts = askInOrder h response supportsRetry parts
  | [] => by
    unfold askInOrder
    rfl
  | part :: parts => by
    unfold askInOrder
    rw [ask_congr hhandle hdebug, askInOrder_congr hhandle hdebug response supportsRetry parts,
      hdebug]

end

/-- A content is written alike where the surroundings write, compress, decode and log
    alike. -/
theorem writeContent_congr {k h : Hooks R σ} (hwrite : k.writeSource = h.writeSource)
    (hcompress : k.compress = h.compress) (hdecode : k.decode = h.decode)
    (hdebug : k.debug = h.debug) (c : Content) :
    writeContent k c = writeContent h c := by
  induction c with
  | bytes mediaType data => rfl
  | source src => exact congrFun hwrite src.id
  | gzip inner ih =>
    unfold writeContent
    rw [ih, hcompress]
  | logging inner limit ih =>
    unfold writeContent
    rw [ih, hdecode, hdebug]

/-- A transmission is performed alike where the surroundings write, compress, decode, log
    and exchange alike. -/
theorem transmit_congr {k h : Hooks R σ} (hwrite : k.writeSource = h.writeSource)
    (hcompress : k.compress = h.compress) (hdecode : k.decode = h.decode)
    (hdebug : k.debug = h.debug) (hannounce : k.announce = h.announce)
    (hreads : k.readsBody = h.readsBody) (hexchange : k.exchange = h.exchange)
    (staged : Staged) : transmit k staged = transmit h staged := by
  unfold transmit readBody
  simp only [writeContent_congr hwrite hcompress hdecode hdebug, hannounce, hreads, hexchange]

/-- An exchange calls no policy. -/
theorem exchange_sparing (h : Hooks R σ) (id : Nat) (staged : Staged) :
    exchange (h.sparing id) staged = exchange h staged := by
  unfold exchange
  rw [transmit_congr (k := h.sparing id) (h := h) rfl rfl rfl rfl rfl rfl rfl]

variable [Arith R]

section resetting

variable (h : Hooks R σ) (reset : Nat → Hook σ Unit) (cancellable : Bool)
  (callbacks : Slot Callbacks) (start : R)

/-- An attempt resets no policy. -/
theorem attempt_resetting (n : Nat) :
    attempt { h with resetPolicy := reset } cancellable callbacks start n
      = attempt h cancellable callbacks start n := by
  have hask : ∀ response, askHandler { h with resetPolicy := reset } response
      = (askHandler h response : Run (Event R) σ Bool) := by
    intro response
    unfold askHandler
    simp only [ask_congr (k := { h with resetPolicy := reset }) (h := h) rfl rfl]
  have htransmit : ∀ staged, transmit { h with resetPolicy := reset } staged
      = transmit h staged := transmit_congr rfl rfl rfl rfl rfl rfl rfl
  unfold attempt takeResponse offer
  simp only [hask, htransmit]
  rfl

theorem attempts_resetting (limit n : Nat) :
    attempts { h with resetPolicy := reset } cancellable callbacks start limit n
      = attempts h cancellable callbacks start limit n := by
  induction limit generalizing n with
  | zero => rfl
  | succ limit ih =>
    unfold attempts
    simp only [attempt_resetting, ih]

end resetting

end Engine

/-! ## Section 4: The reset at the beginning -/

namespace Engine

variable [Arith R] {h : Hooks R σ} {access : PolicyAccess R σ} {id : Nat}

theorem resetPolicy_hosted (hosts : h.Hosts access id) {r : Request} (hpolicy : r.policy = .hook id)
    {s : σ} {p : Policy R} (hread : access.read s = some p) :
    resetPolicy h r s = ⟨.ok (), r, access.write (p.reset (h.now s)) s, [.policyReset]⟩ := by
  unfold resetPolicy
  rw [Run.request_bind, hpolicy]
  show (Run.emit .policyReset >>= fun _ => Run.ofHook (h.resetPolicy id)) r s = _
  rw [Run.emit_bind, Run.ofHook_eq (hosts.resetPolicy hread r)]
  rfl

/-- The method is refused, whatever the state is, or attempts are made with the policy as
    it is after its reset. -/
theorem execute_hosted (hosts : h.Hosts access id) {r : Request} (hpolicy : r.policy = .hook id)
    (cancellable : Bool) (limit : Nat) :
    (∃ f, ∀ s, execute h cancellable limit r s = ⟨.error f, r, s, []⟩) ∨
    ∀ {s p}, access.read s = some p → execute h cancellable limit r s =
      (attempts h cancellable r.callbacks (h.now s) limit 0 r
        (access.write (p.reset (h.now s)) s)).after [.policyReset] := by
  obtain ⟨x, hmethod⟩ := checkMethod_uniform h r
  cases x with
  | error f => exact .inl ⟨f, fun s => Run.bind_error (hmethod s)⟩
  | ok _ =>
    refine .inr fun {s p} hread => ?_
    have hnow : h.now (access.write (p.reset (h.now s)) s) = h.now s := hosts.now_write _ s
    unfold execute
    rw [Run.bind_ok (hmethod s), Run.bind_ok (resetPolicy_hosted hosts hpolicy hread),
      Run.request_bind, Run.state_bind, hnow, Outcome.after_nil]

end Engine

/-! ## Section 5: Surroundings beside a policy -/

section keeping

variable [Arith R]

/-- The same surroundings, with a policy kept beside their state that draws the same every
    time. -/
def Hooks.keeping (h : Hooks R σ) (id : Nat) (draw : R) : Hooks R (σ × Policy R) :=
  { h.beside (Policy R) with
    resetPolicy := fun k =>
      if k = id then fun r t => ⟨.ok (), r, (t.1, t.2.reset (h.now t.1)), []⟩
      else (h.resetPolicy k).beside
    isBackoffRequired := fun k status =>
      if k = id then fun r t => ⟨t.2.requires status, r, t, []⟩
      else (h.isBackoffRequired k status).beside
    nextBackoff := fun k =>
      if k = id then fun r t =>
        ⟨(t.2.answer (h.now t.1) draw).millis.mapError .arithmetic, r,
          (t.1, (t.2.answer (h.now t.1) draw).policy),
          (t.2.answer (h.now t.1) draw).notes h.debug⟩
      else (h.nextBackoff k).beside }

/-- A policy that is kept beside the state of the surroundings. -/
def besidePolicy (σ : Type) (draw : R) : PolicyAccess R (σ × Policy R) where
  read t := some t.2
  write p t := (t.1, p)
  draw _ := draw
  dropDraw t := t

theorem Hooks.keeping_hosts (h : Hooks R σ) (id : Nat) (draw : R) :
    (h.keeping id draw).Hosts (besidePolicy σ draw) id where
  read_write _ _ := rfl
  write_write _ _ _ := rfl
  now_write _ _ := rfl
  read_dropDraw _ := rfl
  now_dropDraw _ := rfl
  resetPolicy := by
    rintro _ ⟨s, p⟩ ⟨⟩ r
    rw [show (h.keeping id draw).resetPolicy id = _ from if_pos rfl]
    rfl
  isBackoffRequired := by
    rintro _ ⟨s, p⟩ ⟨⟩ status r
    rw [show (h.keeping id draw).isBackoffRequired id status = _ from if_pos rfl]
  nextBackoff := by
    rintro _ ⟨s, p⟩ ⟨⟩ r
    rw [show (h.keeping id draw).nextBackoff id = _ from if_pos rfl]
    unfold PolicyAccess.settle
    split <;> rfl

/-- Nothing else knows of the policy: all other calls go as they went without it. -/
theorem Hooks.keeping_goes {T : σ → σ → Prop} {h : Hooks R σ} (hT : Chains T) (hh : h.Go T)
    (id : Nat) (draw : R) :
    ((h.keeping id draw).sparing id).Go fun t t' =>
      (besidePolicy σ draw).Spared t t' ∧ T t.1 t'.1 where
  sleep span t := ⟨fun _ hp => hp, hh.sleep span t.1⟩
  wait span t := ⟨fun _ hp => hp, hh.wait span t.1⟩
  writeSource k r t := ⟨fun _ hp => hp, hh.writeSource k r t.1⟩
  announce staged r t := ⟨fun _ hp => hp, hh.announce staged r t.1⟩
  exchange staged body r t := ⟨fun _ hp => hp, hh.exchange staged body r t.1⟩
  resetPolicy k := by
    by_cases hk : k = id <;> simp only [Hooks.sparing, Hooks.keeping, hk, if_true, if_false]
    · exact fun _ t => ⟨fun _ hp => hp, hT.refl t.1⟩
    · exact fun r t => ⟨fun _ hp => hp, hh.resetPolicy k r t.1⟩
  isBackoffRequired k status := by
    by_cases hk : k = id <;> simp only [Hooks.sparing, Hooks.keeping, hk, if_true, if_false]
    · exact fun _ t => ⟨fun _ hp => hp, hT.refl t.1⟩
    · exact fun r t => ⟨fun _ hp => hp, hh.isBackoffRequired k status r t.1⟩
  nextBackoff k := by
    by_cases hk : k = id <;> simp only [Hooks.sparing, Hooks.keeping, hk, if_true, if_false]
    · exact fun _ t => ⟨fun _ hp => hp, hT.refl t.1⟩
    · exact fun r t => ⟨fun _ hp => hp, hh.nextBackoff k r t.1⟩
  handle k response supportsRetry r t :=
    ⟨fun _ hp => hp, hh.handle k response supportsRetry r t.1⟩
  onRequest k info r t := ⟨fun _ hp => hp, hh.onRequest k info r t.1⟩
  onRetry k info r t := ⟨fun _ hp => hp, hh.onRetry k info r t.1⟩
  onSuccess k info r t := ⟨fun _ hp => hp, hh.onSuccess k info r t.1⟩
  onFailure k info r t := ⟨fun _ hp => hp, hh.onFailure k info r t.1⟩

theorem Hooks.keeping_spared (h : Hooks R σ) (id : Nat) (draw : R) :
    ((h.keeping id draw).sparing id).Go (besidePolicy σ draw).Spared := by
  have hT : Chains fun _ _ : σ => True := ⟨fun _ => trivial, fun _ _ => trivial⟩
  have hh : h.Go fun _ _ => True := by constructor <;> simp [Run.Goes]
  exact (keeping_goes hT hh id draw).mono fun _ _ => And.left

/-- A policy that is kept beside the state changes no request. -/
theorem Hooks.keeping_preserve {P : Request → Prop} {h : Hooks R σ} (hp : h.Preserve P)
    (id : Nat) (draw : R) : (h.keeping id draw).Preserve P where
  writeSource k := Run.preserves_beside (hp.writeSource k)
  announce staged := Run.preserves_beside (hp.announce staged)
  exchange staged body := Run.preserves_beside (hp.exchange staged body)
  resetPolicy k :=
    Run.preserves_ite (fun _ _ hr => hr) (Run.preserves_beside (hp.resetPolicy k))
  isBackoffRequired k status :=
    Run.preserves_ite (fun _ _ hr => hr) (Run.preserves_beside (hp.isBackoffRequired k status))
  nextBackoff k :=
    Run.preserves_ite (fun _ _ hr => hr) (Run.preserves_beside (hp.nextBackoff k))
  handle k response supportsRetry := Run.preserves_beside (hp.handle k response supportsRetry)
  onRequest k info := Run.preserves_beside (hp.onRequest k info)
  onRetry k info := Run.preserves_beside (hp.onRetry k info)
  onSuccess k info := Run.preserves_beside (hp.onSuccess k info)
  onFailure k info := Run.preserves_beside (hp.onFailure k info)

end keeping

end Redial
