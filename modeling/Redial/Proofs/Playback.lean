import Redial.Body.Gzip
import Redial.Engine.Pause
import Redial.Proofs.Likeness.Basic

/-! # Playback

    Surroundings that play a fixed script.  The transport answers the exchange number
    `k` by entry `k`, whatever is sent; handlers, policies and pauses are fixed
    functions.  Nothing changes the request, and the state only counts exchanges.  So
    playback is like itself in every sense in which equal states are alike. -/

namespace Redial

/-- What the surroundings of a run answer, by the numbers of the hooks. -/
structure Playback (R : Type) where
  /-- What exchange number `k` comes to. -/
  script : Nat → Except Fault RawResponse
  /-- Whether a handler accepts a response. -/
  accepts : Nat → Response → Bool := fun _ _ => false
  /-- Whether a policy requires a pause for a status. -/
  requires : Nat → Int → Bool := fun _ _ => false
  /-- The pauses of a policy, in milliseconds. -/
  pauses : Nat → Number R := fun _ => .whole 0

namespace Playback

variable {R γ : Type} [Arith R] {φ : Request → γ}

/-- The surroundings that play a script. -/
def hooks (p : Playback R) : Hooks R Nat where
  debug := false
  now _ := Arith.zero
  sleep _ k := k
  checkPause cancellable span _ := Engine.systemCheck cancellable false span
  isCancelled _ := false
  wait _ k := (false, k)
  decode := decodeNamed
  compress data := data
  writeSource _ := pure []
  supports _ := true
  transportName := "Playback"
  announce _ := pure ()
  readsBody := false
  exchange _ _ := fun r k => ⟨p.script k, r, k + 1, []⟩
  resetPolicy _ := pure ()
  isBackoffRequired id status := pure (p.requires id status)
  nextBackoff id := pure (p.pauses id)
  handle id response _ := pure (p.accepts id response)
  onRequest _ _ := pure ()
  onRetry _ _ := pure ()
  onSuccess _ _ := pure ()
  onFailure _ _ := pure ()

/-- Playback leaves the request alone. -/
theorem keep (p : Playback R) : p.hooks.Keep φ := fun _ =>
  { writeSource := fun _ => Run.preserves_pure _
    announce := fun _ => Run.preserves_pure _
    exchange := fun _ _ _ _ hr => hr
    resetPolicy := fun _ => Run.preserves_pure _
    isBackoffRequired := fun _ _ => Run.preserves_pure _
    nextBackoff := fun _ => Run.preserves_pure _
    handle := fun _ _ _ => Run.preserves_pure _
    onRequest := fun _ _ => Run.preserves_pure _
    onRetry := fun _ _ => Run.preserves_pure _
    onSuccess := fun _ _ => Run.preserves_pure _
    onFailure := fun _ _ => Run.preserves_pure _ }

/-- Playback with a transport that reads the bodies, with or without a debug log. -/
def reading (p : Playback R) (debug : Bool) : Hooks R Nat :=
  { p.hooks with debug := debug, readsBody := true, compress := Gzip.encode }

/-- Reading the bodies changes no request either. -/
theorem keep_reading (p : Playback R) (debug : Bool) : (p.reading debug).Keep φ := fun value =>
  { p.keep value with }

section likeness

variable {β : Type} {L : Likeness R Nat β} {debug₁ debug₂ : Bool}

/-- Playback is like itself, whatever is compared, as far as it logs alike. -/
theorem alike (p : Playback R)
    (hlog : debug₁ = debug₂ ∨ ∀ channel text, L.shown (.log channel text) = none) :
    Hooks.Alike L (p.reading debug₁) (p.reading debug₂) where
  log := hlog
  now _ := rfl
  decode := rfl
  supports := rfl
  transportName := rfl
  resetPolicy _ := Likeness.alike_pure rfl
  isBackoffRequired _ _ := Likeness.alike_pure rfl
  nextBackoff _ := Likeness.alike_pure rfl
  handle _ _ _ := Likeness.alike_pure rfl
  onRequest _ _ := Likeness.alike_pure rfl
  onRetry _ _ := Likeness.alike_pure rfl
  onSuccess _ _ := Likeness.alike_pure rfl
  onFailure _ _ := Likeness.alike_pure rfl

theorem alikeInTime (p : Playback R) :
    Hooks.AlikeInTime L (p.reading debug₁) (p.reading debug₂) where
  sleep _ _ _ hs := hs
  checkPause _ _ _ _ _ := rfl
  isCancelled _ := rfl
  wait _ _ _ hs := ⟨rfl, hs⟩

/-- From the same place in the script, exchanges come to the same. -/
theorem alike_exchange (p : Playback R) (hstate : L.state = Eq) (s₁ s₂ : Staged)
    (body₁ body₂ : List UInt8) :
    L.Alike .never Eq (Run.ofHook ((p.reading debug₁).exchange s₁ body₁))
      (Run.ofHook ((p.reading debug₂).exchange s₂ body₂)) := by
  intro r₁ r₂ k₁ k₂ hr hk
  rw [hstate] at hk
  subst hk
  refine .inl ⟨Likeness.Ends.same _, hr, ?_, rfl⟩
  rw [hstate]
  rfl

end likeness

end Playback

end Redial
