import Redial.Proofs.FutureSteps

/-! # The protocol of a future

    Cancellations and invocations come in any order, and what is true of all of them
    together is said of paths.  It follows from what every step keeps and from what no
    step takes back: a path begins with a future that is fresh, and so the task is
    executed at most once, and a future that is done stays as it is.

    `Task.run` takes such a path, whatever it executes. -/

namespace Redial

namespace Task

variable {R σ : Type} {a : CancelAccess σ} {held : σ → Prop} {c c' c'' : Situation σ} {act : Act}
  {acts : List Act}

/-! ## Section 1: Paths -/

/-- What every step with a label of one kind raises by one, and no other step changes, counts
    these labels along a path. -/
theorem Path.counts (ha : a.Lawful held) (measure : Situation σ → Nat) (test : Act → Bool)
    (hstep : ∀ {c act c'}, c.Sound a held → Step a held c act c' →
      measure c' = measure c + (test act).toNat)
    (hc : c.Sound a held) (hp : Path a held c acts c') :
    measure c' = measure c + acts.countP test := by
  induction hp with
  | nil => rfl
  | @cons c m c' act acts step _ ih =>
    have hfirst := hstep hc step
    have hrest := ih (step.sound ha hc)
    have hone : (if test act = true then 1 else 0) = (test act).toNat := by
      cases test act <;> rfl
    rw [List.countP_cons, hone]
    omega

/-- What no step takes back stays. -/
theorem Path.stays (ha : a.Lawful held) {P : Situation σ → Prop}
    (hstep : ∀ {c act c'}, c.Sound a held → Step a held c act c' → P c → P c')
    (hc : c.Sound a held) (hp : Path a held c acts c') (hP : P c) : P c' := by
  induction hp with
  | nil => exact hP
  | cons step _ ih => exact ih (step.sound ha hc) (hstep hc step hP)

/-- The task was started as often as its execution was called. -/
theorem Path.started (ha : a.Lawful held) (hc : c.Sound a held) (hp : Path a held c acts c') :
    (a.read c'.state).hasStarted.toNat
      = (a.read c.state).hasStarted.toNat + acts.countP Act.isExecutes :=
  hp.counts ha (fun c => (a.read c.state).hasStarted.toNat) Act.isExecutes
    (fun hc hs => (hs.moves ha hc).started) hc

/-- A task that was not started at the end was not started before. -/
theorem Path.not_started (ha : a.Lawful held) (hc : c.Sound a held) (hp : Path a held c acts c')
    (hidle : (a.read c'.state).hasStarted = false) : (a.read c.state).hasStarted = false := by
  have hstarted := hp.started ha hc
  rw [hidle, Bool.toNat_false] at hstarted
  cases hbefore : (a.read c.state).hasStarted with
  | false => rfl
  | true =>
    rw [hbefore, Bool.toNat_true] at hstarted
    omega

/-- A label of a path is the label of one of its steps. -/
theorem Path.step_of_mem (hp : Path a held c acts c') (hact : act ∈ acts) :
    ∃ before after m m', Path a held c before m ∧ Step a held m act m' ∧
      Path a held m' after c' := by
  obtain ⟨before, after, rfl⟩ := List.append_of_mem hact
  obtain ⟨m, hbefore, hafter⟩ := hp.split
  cases hafter with
  | cons step rest => exact ⟨before, after, m, _, hbefore, step, rest⟩

/-- What is neither the future nor its event. -/
def Beside (a : CancelAccess σ) {γ : Type} (φ : σ → γ) : Prop :=
  (∀ f s, φ (a.write f s) = φ s) ∧ ∀ s, φ (a.signal s) = φ s

/-- While the task is not started, nothing touches the request, nor anything of the
    surroundings but the future and its event. -/
theorem Path.untouched (ha : a.Lawful held) (hc : c.Sound a held) (hp : Path a held c acts c')
    (hidle : (a.read c'.state).hasStarted = false) :
    c'.request = c.request ∧ ∀ {γ : Type} (φ : σ → γ), Beside a φ → φ c'.state = φ c.state := by
  induction hp with
  | nil => exact ⟨rfl, fun _ _ => rfl⟩
  | @cons c m c' act acts step rest ih =>
    have hm := step.sound ha hc
    obtain ⟨hrequest, hstate⟩ := ih hm hidle
    have hnone : c.active = [] := hc.idle ((Path.cons step rest).not_started ha hc hidle)
    have hstep : m.request = c.request ∧
        ∀ {γ : Type} (φ : σ → γ), Beside a φ → φ m.state = φ c.state := by
      cases step with
      | signal => exact ⟨rfl, fun φ hφ => hφ.2 c.state⟩
      | cancel | skipped | executes | resolves => exact ⟨rfl, fun φ hφ => hφ.1 _ c.state⟩
      | refused | ends | rejected => exact ⟨rfl, fun _ _ => rfl⟩
      | works active =>
        -- nothing works while nothing is under way
        rw [hnone] at active
        cases active
    exact ⟨hrequest.trans hstep.1, fun φ hφ => (hstate φ hφ).trans (hstep.2 φ hφ)⟩

/-- Every cancellation returns whether the task was not started yet, and has set the event. -/
theorem Path.answers (ha : a.Lawful held) (hc : c.Sound a held) (hp : Path a held c acts c')
    {answer : Bool} (hact : .cancel answer ∈ acts) :
    a.isSignalled c'.state = true ∧
      ((a.read c.state).hasStarted = true → answer = false) ∧
      ((a.read c'.state).hasStarted = false → answer = true) := by
  obtain ⟨before, after, m, m', hbefore, hstep, hafter⟩ := hp.step_of_mem hact
  have hm := hbefore.sound ha hc
  have hm' := hstep.sound ha hm
  obtain ⟨hanswer, -⟩ := (hstep.moves ha hm).answer
  refine ⟨?_, fun hstarted => ?_, fun hidle => ?_⟩
  -- the event was set before, by the step that made the call
  · have hcalls : 0 < m.calls := by
      cases hstep with
      | cancel call => omega
    have hevent := hstep.signalled ha hm (hm.event hcalls)
    exact hafter.stays ha (fun hc hs => hs.signalled ha hc) hm' hevent
  · have hcount := hbefore.started ha hc
    rw [hstarted, Bool.toNat_true] at hcount
    cases hbegun : (a.read m.state).hasStarted with
    | true => rw [hanswer, hbegun]; rfl
    | false =>
      rw [hbegun, Bool.toNat_false] at hcount
      omega
  · have hbegun := (Path.cons hstep hafter).not_started ha hm hidle
    rw [hanswer, hbegun]
    rfl

/-- The execution is called once at most. -/
theorem Path.executes_once (ha : a.Lawful held) (hc : c.Sound a held)
    (hp : Path a held c acts c') : acts.countP Act.isExecutes ≤ 1 := by
  have hcount := hp.started ha hc
  have hone := Bool.toNat_le (a.read c'.state).hasStarted
  omega

/-- A step that begins no invocation does not call the execution. -/
theorem Act.not_executes (hact : act.isInvocation = false) : ¬ act.isExecutes = true := by
  cases act <;> first | exact Bool.false_ne_true | cases hact

/-- A cancellation before the first invocation keeps the task from being started. -/
theorem Path.cancelled_first (ha : a.Lawful held) (hc : c.Sound a held)
    (hidle : (a.read c.state).hasStarted = false) {before after : List Act} {answer : Bool}
    (hp : Path a held c (before ++ .cancel answer :: after) c')
    (hbefore : ∀ act ∈ before, act.isInvocation = false) :
    (a.read c'.state).hasStarted = false := by
  obtain ⟨m, hfirst, hlast⟩ := hp.split
  have hm := hfirst.sound ha hc
  have hcount := hfirst.started ha hc
  have hnone : before.countP Act.isExecutes = 0 :=
    List.countP_eq_zero.mpr fun act hact => Act.not_executes (hbefore act hact)
  rw [hidle, hnone] at hcount
  -- so the cancellation finds a future that can be cancelled, and nothing takes that back
  have hidle' : (a.read m.state).hasStarted = false := Bool.toNat_eq_zero.mp hcount
  cases hlast with
  | @cons _ m' _ _ _ step rest =>
    have hcancelled : (a.read m'.state).isCancelled = true := (step.moves ha hm).answer.2 hidle'
    have hstays : (a.read c'.state).isCancelled = true :=
      rest.stays ha (P := fun c => (a.read c.state).isCancelled = true)
        (fun hc hs => (hs.moves ha hc).cancelled) (step.sound ha hm) hcancelled
    exact Future.not_started_of_cancelled hstays

/-- A cancellation after the execution was called is told that it is too late. -/
theorem Path.cancelled_late (ha : a.Lawful held) (hc : c.Sound a held) {before after : List Act}
    {answer : Bool} (hp : Path a held c (before ++ .executes :: after) c')
    (hact : .cancel answer ∈ after) : answer = false := by
  obtain ⟨m, hfirst, hlast⟩ := hp.split
  have hm := hfirst.sound ha hc
  cases hlast with
  | @cons _ m' _ _ _ step rest =>
    have hstarted := (step.moves ha hm).started
    have hmore := Bool.toNat_le (a.read m'.state).hasStarted
    have hbegun : (a.read m'.state).hasStarted = true := by
      rw [← Bool.toNat_eq_one]
      simp only [Act.isExecutes, Bool.toNat_true] at hstarted
      omega
    exact (rest.answers ha (step.sound ha hm) hact).2.1 hbegun

/-- A future that is done stays done, with the same result. -/
theorem Path.done (ha : a.Lawful held) (hc : c.Sound a held) (hp : Path a held c acts c')
    (hdone : (a.read c.state).isDone = true) :
    (a.read c'.state).isDone = true ∧ (a.read c'.state).result = (a.read c.state).result := by
  refine hp.stays ha
    (P := fun m => (a.read m.state).isDone = true ∧
      (a.read m.state).result = (a.read c.state).result)
    (fun hm hs hkept => ?_) hc ⟨hdone, rfl⟩
  obtain ⟨hstays, hsame⟩ := (hs.moves ha hm).done hkept.1
  exact ⟨hstays, hsame.trans hkept.2⟩

/-- An execution that has ended did so before, or with this step. -/
theorem Step.ended_before (hs : Step a held c act c') {x : Except Fault Response}
    (hx : .ended x ∈ c'.active) : .ended x ∈ c.active ∨ act = .ends x := by
  cases hs with
  | signal | cancel | refused | skipped | works => exact .inl hx
  | executes =>
    have hcases := List.mem_append.mp hx
    simpa using hcases
  | @ends before after active y =>
    rw [active]
    simp only [List.mem_append, List.mem_cons] at hx ⊢
    rcases hx with hbefore | hnew | hafter
    · exact .inl (.inl hbefore)
    · cases hnew
      exact .inr rfl
    · exact .inl (.inr (.inr hafter))
  | @resolves before after y future active | @rejected before after y f active =>
    rw [active]
    simp only [List.mem_append, List.mem_cons] at hx ⊢
    exact .inl (hx.imp_right .inr)

theorem Path.ended_before (hp : Path a held c acts c') {x : Except Fault Response}
    (hx : .ended x ∈ c'.active) : .ended x ∈ c.active ∨ .ends x ∈ acts := by
  induction hp with
  | nil => exact .inl hx
  | cons step _ ih =>
    rcases ih hx with hfirst | hlater
    · rcases step.ended_before hfirst with hbefore | rfl
      · exact .inl hbefore
      · exact .inr List.mem_cons_self
    · exact .inr (List.mem_cons_of_mem _ hlater)

/-- The future is given what the execution came to, while it runs, and that is its result. -/
theorem Path.outcome (ha : a.Lawful held) (hc : c.Sound a held) {before after : List Act}
    {x : Except Fault Response} (hp : Path a held c (before ++ .resolves x :: after) c') :
    ∃ m, Path a held c before m ∧ a.read m.state = .running ∧ .ended x ∈ m.active ∧
      (a.read c'.state).result = x := by
  obtain ⟨m, hfirst, hlast⟩ := hp.split
  have hm := hfirst.sound ha hc
  cases hlast with
  | @cons _ m' _ _ _ step rest =>
    have hm' := step.sound ha hm
    have hmoves := step.moves ha hm
    have hmem : .ended x ∈ m.active := by
      cases step with
      | resolves active resolve => rw [active]; simp
    have hrunning := (hm.running hmem).1
    generalize hfuture : a.read m'.state = future at hmoves
    rw [hrunning] at hmoves
    cases hmoves with
    | keep _ leaves => cases leaves
    | finish =>
      have hdone : (a.read m'.state).isDone = true := by rw [hfuture]; rfl
      have hresult := (rest.done ha hm' hdone).2
      rw [hfuture] at hresult
      exact ⟨m, hfirst, hrunning, hmem, hresult⟩

/-- The result of an execution that has ended can be given to the future. -/
theorem Situation.Sound.resolvable (hc : c.Sound a held) {x : Except Fault Response}
    (hx : .ended x ∈ c.active) : ∃ c', Step a held c (.resolves x) c' := by
  obtain ⟨hrunning, hactive⟩ := hc.running hx
  have hresolve : (a.read c.state).resolve x = .ok (.finished x) := by rw [hrunning]; rfl
  exact ⟨_, @Step.resolves _ _ _ _ [] [] _ _ hactive hresolve⟩

/-! ## Section 2: What a path keeps -/

/-- What is true of every interleaving of cancellations and invocations. -/
structure Kept (a : CancelAccess σ) (held : σ → Prop) (c : Situation σ) (acts : List Act)
    (c' : Situation σ) : Prop where
  /-- The execution is called at most once. -/
  once : acts.countP Act.isExecutes ≤ 1
  /-- After a cancellation before the first invocation the execution is not called, the request
      and what is kept beside the future are as they were, and every cancellation succeeded. -/
  cancelledFirst : ∀ before answer after, acts = before ++ .cancel answer :: after →
    (∀ act ∈ before, act.isInvocation = false) →
      acts.countP Act.isExecutes = 0 ∧ c'.request = c.request ∧
      (∀ {γ : Type} (φ : σ → γ), Beside a φ → φ c'.state = φ c.state) ∧
      ∀ b, .cancel b ∈ acts → b = true
  /-- After the execution was called no cancellation succeeds. -/
  cancelledLate : ∀ before after, acts = before ++ .executes :: after →
    ∀ b, .cancel b ∈ after → b = false
  /-- Every cancellation has set the cancel event. -/
  event : ∀ b, .cancel b ∈ acts → a.isSignalled c'.state = true
  /-- The future takes all that it is given. -/
  accepted : ∀ f, .rejected f ∉ acts
  /-- It is given a result once for every execution that has ended, if not right now. -/
  resolved : acts.countP Act.isResolves + c'.active.countP Phase.isEnded
    = acts.countP Act.isEnds
  resolvedOnce : acts.countP Act.isResolves ≤ 1
  resolvable : ∀ x, .ended x ∈ c'.active → ∃ c'', Step a held c' (.resolves x) c''
  /-- It is given the result while it runs, what the execution came to, and holds this. -/
  outcome : ∀ before x after, acts = before ++ .resolves x :: after →
    .ends x ∈ before ∧ (∃ m, Path a held c before m ∧ a.read m.state = .running) ∧
      (a.read c'.state).result = x
  /-- Nothing changes when it is done. -/
  final : (a.read c'.state).isDone = true → ∀ later c'', Path a held c' later c'' →
    (a.read c''.state).isDone = true ∧ (a.read c''.state).result = (a.read c'.state).result

theorem Path.kept (ha : a.Lawful held) (hc : c.Fresh a held) (hp : Path a held c acts c') :
    Kept a held c acts c' := by
  have hsound := hc.sound
  have hsound' := hp.sound ha hsound
  have hidle : (a.read c.state).hasStarted = false := by rw [hc.future]; rfl
  have hunfinished : (a.read c.state).isFinished = false := by rw [hc.future]; rfl
  have hfinished := hp.counts ha (fun c => (a.read c.state).isFinished.toNat) Act.isResolves
    (fun hc hs => (hs.moves ha hc).finished) hsound
  have hended := hp.counts ha
    (fun c => c.active.countP Phase.isEnded + (a.read c.state).isFinished.toNat) Act.isEnds
    (fun hc hs => hs.ended ha hc) hsound
  simp only [hc.active, hunfinished, List.countP_nil, Bool.toNat_false, Nat.zero_add]
    at hfinished hended
  -- both measures begin at zero: what is left of them are the labels that were counted
  have hone := Bool.toNat_le (a.read c'.state).isFinished
  constructor
  case once => exact hp.executes_once ha hsound
  case cancelledFirst =>
    rintro before answer after rfl hbefore
    have hidle' := hp.cancelled_first ha hsound hidle hbefore
    have hcount := hp.started ha hsound
    rw [hidle, hidle', Bool.toNat_false, Nat.zero_add] at hcount
    obtain ⟨hrequest, hstate⟩ := hp.untouched ha hsound hidle'
    exact ⟨hcount.symm, hrequest, hstate, fun b hb => (hp.answers ha hsound hb).2.2 hidle'⟩
  case cancelledLate =>
    rintro before after rfl b hb
    exact hp.cancelled_late ha hsound hb
  case event => exact fun b hb => (hp.answers ha hsound hb).1
  case accepted =>
    intro f hf
    obtain ⟨_, _, m, _, hfirst, hstep, _⟩ := hp.step_of_mem hf
    exact Step.not_rejected ha (hfirst.sound ha hsound) f hstep
  case resolved => omega
  case resolvedOnce => omega
  case resolvable => exact fun x hx => hsound'.resolvable hx
  case outcome =>
    rintro before x after rfl
    obtain ⟨m, hfirst, hrunning, hmem, hresult⟩ := hp.outcome ha hsound
    refine ⟨?_, ⟨m, hfirst, hrunning⟩, hresult⟩
    rcases hfirst.ended_before hmem with hbefore | hends
    · rw [hc.active] at hbefore
      cases hbefore
    · exact hends
  case final => exact fun hdone later c'' hlater => hlater.done ha hsound' hdone

end Task

end Redial
