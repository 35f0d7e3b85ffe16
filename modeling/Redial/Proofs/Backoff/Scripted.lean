import Redial.Proofs.Backoff.Histories
import Redial.Scenario.Surroundings

/-! # Policies in scripted surroundings

    Scripted surroundings keep the policies in a list, and a policy stands at the place
    that its number says.  The calls to a policy of the library are its operations on
    the scripted clock and the scripted draws.  All other calls play actions, which make
    new policies and put them on the request, but change none.

    So an execution in scripted surroundings carries nothing over from the history of a
    policy, and leaves a history of it. -/

namespace Redial.Scenario

open Backoff

/-! ## Section 1: The calls to a policy -/

/-- Where scripted surroundings keep a policy of the library. -/
def libraryAccess (id : Nat) : PolicyAccess Float World where
  read w :=
    match w.policies[id]? with
    | some (.library p) => some p
    | _ => none
  write p w := setPolicy w id (.library p)
  draw := World.draw
  dropDraw := World.dropDraw

theorem libraryAccess_read {id : Nat} {w : World} {p : Policy Float} :
    (libraryAccess id).read w = some p ↔ w.policies[id]? = some (.library p) := by
  unfold libraryAccess
  dsimp only
  split <;> simp_all

theorem dropDraw_policies (w : World) : w.dropDraw.policies = w.policies := by
  unfold World.dropDraw
  split <;> rfl

theorem dropDraw_clock (w : World) : w.dropDraw.clock = w.clock := by
  unfold World.dropDraw
  split <;> rfl

/-- A policy of the library answers by the clock and the next draw. -/
theorem playLibrary_apply (debug : Bool) (id : Nat) (p : Policy Float) (r : Request) (w : World) :
    playLibrary debug id p r w =
      ⟨(p.answer w.clock w.draw).millis.mapError .arithmetic, r,
        (libraryAccess id).settle (p.answer w.clock w.draw) w,
        (p.answer w.clock w.draw).notes debug⟩ := by
  unfold playLibrary
  rw [Run.state_bind]
  rcases p.answer w.clock w.draw with ⟨f | millis, policy, drew, line⟩ <;>
    cases drew <;> cases line <;> cases debug <;> rfl

theorem playPause_library (debug : Bool) {id : Nat} {w : World} {p : Policy Float}
    (hread : (libraryAccess id).read w = some p) (r : Request) :
    playPause debug id r w = playLibrary debug id p r w := by
  have hnext : playNext debug id r w =
      (playLibrary debug id p >>= fun n => pure (.number n)) r w := by
    unfold playNext
    rw [Run.state_bind, libraryAccess_read.mp hread]
  unfold playPause
  rcases hrun : playLibrary debug id p r w with ⟨f | millis, r', w', notes⟩
  · rw [Run.bind_error hrun] at hnext
    exact Run.bind_error hnext
  · rw [Run.bind_ok hrun, Run.pure_apply, Outcome.after_mk, List.append_nil] at hnext
    -- a number is read as it is
    have hpause : readPause (.number millis) r' w' = ⟨.ok millis, r', w', []⟩ := rfl
    rw [Run.bind_ok hnext, hpause, Outcome.after_mk, List.append_nil]

/-- Scripted surroundings keep a policy of the library under its number. -/
theorem surroundings_hosts (debug : Bool) (t : TransportSpec) (signal : Option Nat) (id : Nat) :
    (surroundings debug t signal).Hosts (libraryAccess id) id where
  read_write := by
    intro w hw p
    obtain ⟨q, hq⟩ := Option.isSome_iff_exists.mp hw
    obtain ⟨hlength, -⟩ := List.getElem?_eq_some_iff.mp (libraryAccess_read.mp hq)
    exact libraryAccess_read.mpr (List.getElem?_set_self hlength)
  write_write p q w := by
    show setPolicy (setPolicy w id _) id _ = setPolicy w id _
    simp [setPolicy]
  now_write _ _ := rfl
  read_dropDraw w := by
    show (match w.dropDraw.policies[id]? with | some (.library p) => some p | _ => none) = _
    rw [dropDraw_policies]
    rfl
  now_dropDraw := dropDraw_clock
  resetPolicy := by
    intro p w hread r
    have hkept := libraryAccess_read.mp hread
    show playReset id r w = _
    unfold playReset
    rw [Run.state_bind, hkept]
    rfl
  isBackoffRequired := by
    intro p w hread status r
    have hkept := libraryAccess_read.mp hread
    show playRequired id status r w = _
    unfold playRequired
    rw [Run.state_bind, hkept]
    show (Run.lift (p.requires status) : Hook World Bool) r w = _
    cases p.requires status <;> rfl
  nextBackoff := by
    intro p w hread r
    show playPause debug id r w = _
    rw [playPause_library debug hread, playLibrary_apply]
    rfl

/-! ## Section 2: All other calls -/

/-- Policies are only added. -/
def Grown (w w' : World) : Prop := ∃ more, w'.policies = w.policies ++ more

theorem chains_grown : Chains Grown where
  refl _ := ⟨[], (List.append_nil _).symm⟩
  trans := by
    rintro w w' w'' ⟨more, hmore⟩ ⟨most, hmost⟩
    exact ⟨more ++ most, by rw [hmost, hmore, List.append_assoc]⟩

theorem Grown.of_same {w w' : World} (hs : w'.policies = w.policies) : Grown w w' :=
  ⟨[], by rw [hs, List.append_nil]⟩

/-- A policy that is there keeps its place. -/
theorem Grown.spared {w w' : World} (hg : Grown w w') (id : Nat) :
    (libraryAccess id).Spared w w' := by
  obtain ⟨more, hmore⟩ := hg
  intro p hread
  have hkept := libraryAccess_read.mp hread
  rw [libraryAccess_read, hmore, List.getElem?_append_left (List.getElem?_eq_some_iff.mp hkept).1]
  exact hkept

/-- A policy that is put in its place leaves those of other numbers. -/
theorem setPolicy_spared {k id : Nat} (hk : k ≠ id) (w : World) (p : PolicyState) :
    (libraryAccess id).Spared w (setPolicy w k p) := by
  intro q hread
  rw [libraryAccess_read] at hread ⊢
  rw [← hread]
  exact List.getElem?_set_ne hk

/-! ## Section 3: Making things -/

theorem makeContent_policies {w : World} {spec : ContentSpec} {made : Content × World}
    (hmake : w.makeContent spec = .ok made) : made.2.policies = w.policies := by
  induction spec generalizing w made with
  | text mediaType text | data mediaType data | chunks mediaType chunks length failing kind =>
    cases hmake
    rfl
  | gzip inner ih =>
    unfold World.makeContent at hmake
    obtain ⟨⟨c, w'⟩, hinner, hmake⟩ := ok_of_bind hmake
    cases hmake
    have hkept : w'.policies = w.policies := ih hinner
    exact hkept
  | logging inner limit ih =>
    unfold World.makeContent at hmake
    obtain ⟨⟨c, w'⟩, hinner, hmake⟩ := ok_of_bind hmake
    obtain ⟨n, -, hmake⟩ := ok_of_bind hmake
    cases hmake
    have hkept : w'.policies = w.policies := ih hinner
    exact hkept

theorem makeContent?_grown {w : World} {spec : Option ContentSpec}
    {made : Option Content × World} (hmake : w.makeContent? spec = .ok made) :
    Grown w made.2 := by
  unfold World.makeContent? at hmake
  cases spec with
  | none =>
    cases hmake
    exact .of_same rfl
  | some spec =>
    obtain ⟨made', hspec, rfl⟩ := ok_of_map hmake
    exact .of_same (makeContent_policies hspec)

mutual

theorem makeHandler_policies (w : World) : ∀ spec, (w.makeHandler spec).2.policies = w.policies
  | .rules name rules => by
    unfold World.makeHandler
    rfl
  | .composite parts => by
    unfold World.makeHandler
    exact makeHandlers_policies w parts

theorem makeHandlers_policies (w : World) :
    ∀ specs, (w.makeHandlers specs).2.policies = w.policies
  | [] => by
    unfold World.makeHandlers
    rfl
  | spec :: specs => by
    unfold World.makeHandlers
    exact (makeHandlers_policies _ specs).trans (makeHandler_policies w spec)

end

theorem makeCallback_policies (w : World) (rules : Option (List CallRule)) :
    (w.makeCallback rules).2.policies = w.policies := by
  cases rules <;> rfl

theorem makeCallbacksSlot_policies (w : World) (spec : Option CallbacksSpec) :
    (w.makeCallbacksSlot spec).2.policies = w.policies := by
  match spec with
  | none => rfl
  | some (.mk a b c d) =>
    show ((((w.makeCallback a).2.makeCallback b).2.makeCallback c).2.makeCallback d).2.policies = _
    simp only [makeCallback_policies]

theorem cancelFuture_grown {w : World} {index : Int} {made : Bool × World}
    (hmake : w.cancelFuture index = .ok made) : Grown w made.2 := by
  unfold World.cancelFuture at hmake
  obtain ⟨⟨id, f⟩, -, hmake⟩ := ok_of_bind hmake
  cases hmake
  exact .of_same rfl

theorem setRandom_policies (w : World) (draws : Option (List Float)) :
    (w.setRandom draws).policies = w.policies := by
  cases draws <;> rfl

theorem makePolicySlot_grown {w : World} {spec : Option PolicySpec} {made : Slot Nat × World}
    (hmake : w.makePolicySlot spec = .ok made) : Grown w made.2 := by
  unfold World.makePolicySlot at hmake
  cases spec with
  | none =>
    cases hmake
    exact .of_same rfl
  | some spec =>
    obtain ⟨p, -, hmake⟩ := ok_of_bind hmake
    cases hmake
    exact ⟨[p], rfl⟩

/-! ## Section 4: Actions -/

theorem changeRequest_state (f : Request → Except Fault Request) (r : Request) (w : World) :
    (changeRequest f r w).state = w := by
  unfold changeRequest
  rw [Run.request_bind]
  cases f r <;> rfl

theorem changeWorld_grown {f : World → World} (hf : ∀ w, (f w).policies = w.policies) :
    (changeWorld f).Goes Grown := fun _ w => .of_same (hf w)

theorem changeRequest_grown (f : Request → Except Fault Request) :
    (changeRequest f).Goes Grown := by
  intro r w
  rw [changeRequest_state]
  exact chains_grown.refl w

/-- What makes something from the state, keeps the rest and goes on. -/
theorem goes_making {α β : Type} (make : World → Except Fault (α × World)) (f : α → Hook World β)
    (hmake : ∀ w made, make w = .ok made → Grown w made.2) (hf : ∀ a, (f a).Goes Grown) :
    (do
      let w ← Run.state
      let (a, w) ← Run.lift (make w)
      Run.setState w
      f a : Hook World β).Goes Grown := by
  intro r w
  rw [Run.state_bind]
  cases hmade : make w with
  | error f => exact chains_grown.refl w
  | ok made => exact chains_grown.trans (hmake w made hmade) (hf made.1 r made.2)

theorem act_grown (a : Action) : (act a).Goes Grown := by
  cases a with
  | assign name value => exact changeRequest_grown _
  | setHeader name value => exact changeRequest_grown _
  | addHeader name value => exact changeRequest_grown _
  | deleteHeader name => exact changeRequest_grown _
  | content spec =>
    exact goes_making (fun w => w.makeContent? spec)
      (fun content => changeRequest fun r => .ok { r with content := content })
      (fun _ _ => makeContent?_grown) fun _ => changeRequest_grown _
  | handler spec =>
    intro r w
    have hmade : (w.makeHandlerSlot spec).2.policies = w.policies := by
      cases spec with
      | none => rfl
      | some spec => exact makeHandler_policies w spec
    exact chains_grown.trans (.of_same hmade) (changeRequest_grown (fun r =>
      .ok { r with handler := (w.makeHandlerSlot spec).1 }) r (w.makeHandlerSlot spec).2)
  | policy spec =>
    refine Run.goes_bind chains_grown (changeWorld_grown fun w => setRandom_policies w _)
      fun _ => ?_
    exact goes_making (fun w => w.makePolicySlot spec)
      (fun slot => changeRequest fun r => .ok { r with policy := slot })
      (fun _ _ => makePolicySlot_grown) fun _ => changeRequest_grown _
  | callbacks spec =>
    intro r w
    exact chains_grown.trans (.of_same (makeCallbacksSlot_policies w spec))
      (changeRequest_grown (fun r => .ok { r with callbacks := (w.makeCallbacksSlot spec).1 }) r
        (w.makeCallbacksSlot spec).2)
  | raise kind message => exact Run.goes_throw chains_grown _
  | cancel => exact changeWorld_grown fun _ => rfl
  | cancelFuture index =>
    exact goes_making (fun w => w.cancelFuture index)
      (fun answer => Run.emit (.seen (.cancelAnswered answer)))
      (fun _ _ => cancelFuture_grown) fun _ => Run.goes_emit chains_grown _
  | advance seconds => exact changeWorld_grown fun _ => rfl

theorem actAll_grown (actions : List Action) : (actAll actions).Goes Grown := by
  induction actions with
  | nil => exact Run.goes_pure chains_grown ()
  | cons a actions ih => exact Run.goes_bind chains_grown (act_grown a) fun _ => ih

/-! ## Section 5: The calls of an execution -/

/-- What goes on from a state with the same policies. -/
theorem grown_from {α : Type} {x : Hook World α} (hx : x.Goes Grown) {w w' : World}
    (hs : w'.policies = w.policies) (r : Request) : Grown w (x r w').state :=
  chains_grown.trans (.of_same hs) (hx r w')

theorem playHandler_grown (id : Nat) (response : Response) (supportsRetry : Bool) :
    (playHandler id response supportsRetry).Goes Grown := by
  intro r w
  unfold playHandler
  rw [Run.state_bind, Run.request_bind]
  cases w.leaves[id]? with
  | none => exact chains_grown.refl w
  | some leaf =>
    simp only [Run.emit_bind, Outcome.after_state]
    cases firstRule? response.status leaf.rules with
    | none => exact chains_grown.refl w
    | some i =>
      rcases hrule : leaf.rules[i]? with _ | ⟨⟨statuses, times, actions, answer⟩, used⟩ <;>
        simp only [hrule]
      · exact chains_grown.refl w
      · rw [Run.setState_bind]
        exact grown_from (Run.goes_bind chains_grown (actAll_grown _)
          fun _ => Run.goes_pure chains_grown _) rfl r

theorem playCallback_grown (id : Nat) : (playCallback id).Goes Grown := by
  intro r w
  unfold playCallback
  rw [Run.state_bind]
  cases w.callbacks[id]? with
  | none => exact chains_grown.refl w
  | some c => exact grown_from (actAll_grown _) rfl r

theorem playSource_grown (id : Nat) : (playSource id).Goes Grown := by
  intro r w
  unfold playSource
  rw [Run.state_bind]
  cases w.sources[id]? with
  | none => exact chains_grown.refl w
  | some s =>
    dsimp only
    rw [Run.setState_bind]
    split <;> exact .of_same rfl

theorem playExchange_grown (script : List ExchangeSpec) : (playExchange script).Goes Grown := by
  intro r w
  unfold playExchange
  rw [Run.state_bind, Run.setState_bind]
  refine grown_from (Run.goes_bind chains_grown (actAll_grown _) fun _ => ?_) ?_ r
  · split
    · exact Run.goes_pure chains_grown _
    · exact Run.goes_throw chains_grown _
  · split <;> rfl

theorem exchangeByClient_grown (script : List ExchangeSpec) (s : Staged) (body : List UInt8) :
    (exchangeByClient script s body).Goes Grown := by
  have hlift : ∀ {α : Type} (x : Except Fault α), (Run.lift x : Hook World α).Goes Grown :=
    fun x => Run.goes_lift chains_grown x
  unfold exchangeByClient
  refine Run.goes_bind chains_grown (hlift _) fun u => ?_
  refine Run.goes_bind chains_grown (hlift _) fun _ => ?_
  refine Run.goes_bind chains_grown (hlift _) fun _ => ?_
  refine Run.goes_bind chains_grown (hlift _) fun _ => ?_
  refine Run.goes_bind chains_grown (Run.goes_emit chains_grown _) fun _ => ?_
  refine Run.goes_bind chains_grown (playExchange_grown script) fun raw => ?_
  refine Run.goes_bind chains_grown (hlift _) fun _ => ?_
  cases Client.location? raw.headers with
  | none => exact Run.goes_pure chains_grown _
  | some location =>
    dsimp only
    split
    · exact Run.goes_bind chains_grown (hlift _) fun _ => Run.goes_pure chains_grown _
    · exact Run.goes_pure chains_grown _

theorem chains_spared (id : Nat) : Chains (libraryAccess id).Spared where
  refl _ _ hp := hp
  trans hfirst hsecond p hp := hsecond p (hfirst p hp)

theorem playReset_spared {k id : Nat} (hk : k ≠ id) :
    (playReset k).Goes (libraryAccess id).Spared := by
  intro r w
  unfold playReset
  rw [Run.state_bind]
  match w.policies[k]? with
  | none => exact (chains_spared id).refl w
  | some (.library p) => exact setPolicy_spared hk w _
  | some (.script codes millis actions _) => exact setPolicy_spared hk w _

theorem playRequired_grown (k : Nat) (status : Int) : (playRequired k status).Goes Grown := by
  intro r w
  unfold playRequired
  rw [Run.state_bind]
  match w.policies[k]? with
  | none => exact chains_grown.refl w
  | some (.library p) => exact Run.goes_lift chains_grown _ r w
  | some (.script codes _ actions _) =>
    refine Run.goes_bind chains_grown (actAll_grown actions) (fun _ => ?_) r w
    cases codes <;> exact Run.goes_pure chains_grown _

theorem playLibrary_spared (debug : Bool) {k id : Nat} (hk : k ≠ id) (p : Policy Float) :
    (playLibrary debug k p).Goes (libraryAccess id).Spared := by
  intro r w
  rw [playLibrary_apply]
  have hset := setPolicy_spared hk w (.library (p.answer w.clock w.draw).policy)
  unfold PolicyAccess.settle
  split
  · exact (chains_spared id).trans hset (Grown.spared (.of_same (dropDraw_policies _)) id)
  · exact hset

theorem playPause_spared (debug : Bool) {k id : Nat} (hk : k ≠ id) :
    (playPause debug k).Goes (libraryAccess id).Spared := by
  have hT := chains_spared id
  have hnext : (playNext debug k).Goes (libraryAccess id).Spared := by
    intro r w
    unfold playNext
    rw [Run.state_bind]
    match w.policies[k]? with
    | none => exact hT.refl w
    | some (.library p) =>
      exact Run.goes_bind hT (playLibrary_spared debug hk p) (fun _ => Run.goes_pure hT _) r w
    | some (.script codes millis actions asked) => exact setPolicy_spared hk w _
  refine Run.goes_bind hT hnext fun millis => ?_
  unfold readPause
  cases millis.number? with
  | none => exact Run.goes_bind hT (Run.goes_emit hT _) fun _ => Run.goes_throw hT _
  | some n => exact Run.goes_pure hT n

theorem wait_policies (w : World) (id : Nat) (seconds : Float) :
    (w.wait id seconds).2.policies = w.policies := by
  unfold World.wait
  split
  · rfl
  · split
    · split <;> rfl
    · rfl

/-- All calls of an execution but those to a policy leave it alone: they only add policies,
    and those to another policy change that one. -/
theorem surroundings_spared (debug : Bool) (t : TransportSpec) (signal : Option Nat) (id : Nat) :
    ((surroundings debug t signal).sparing id).Go (libraryAccess id).Spared where
  sleep _ _ := Grown.spared (.of_same rfl) id
  wait span w := by
    cases signal with
    | none => exact Grown.spared (.of_same rfl) id
    | some k => exact Grown.spared (.of_same (wait_policies w k span)) id
  writeSource k r w := (playSource_grown k r w).spared id
  announce staged := by
    obtain ⟨kind, _⟩ := t
    cases kind with
    | client => exact Run.goes_pure (chains_spared id) ()
    | _ => exact Run.goes_emit (chains_spared id) _
  exchange staged body r w := by
    have hexchange : ((surroundings debug t signal).exchange staged body).Goes Grown := by
      obtain ⟨kind, script, _, readsBody⟩ := t
      have hplayed : (do
          if readsBody then reportBody staged body
          playExchange script : Hook World RawResponse).Goes Grown := by
        split
        · exact Run.goes_bind chains_grown (Run.goes_emit chains_grown _)
            fun _ => playExchange_grown script
        · exact playExchange_grown script
      cases kind with
      | client => exact exchangeByClient_grown script staged body
      | _ => exact hplayed
    exact (hexchange r w).spared id
  resetPolicy k := by
    by_cases hk : k = id
    · simp only [Hooks.sparing, if_pos hk]
      exact Run.goes_pure (chains_spared id) ()
    · simp only [Hooks.sparing, if_neg hk]
      exact playReset_spared hk
  isBackoffRequired k status := by
    by_cases hk : k = id
    · simp only [Hooks.sparing, if_pos hk]
      exact Run.goes_pure (chains_spared id) false
    · simp only [Hooks.sparing, if_neg hk]
      exact fun r w => (playRequired_grown k status r w).spared id
  nextBackoff k := by
    by_cases hk : k = id
    · simp only [Hooks.sparing, if_pos hk]
      exact Run.goes_pure (chains_spared id) stop
    · simp only [Hooks.sparing, if_neg hk]
      exact playPause_spared debug hk
  handle k response supportsRetry r w := (playHandler_grown k response supportsRetry r w).spared id
  onRequest k _ r w := (playCallback_grown k r w).spared id
  onRetry k _ r w := (playCallback_grown k r w).spared id
  onSuccess k _ r w := (playCallback_grown k r w).spared id
  onFailure k _ r w := (playCallback_grown k r w).spared id

/-! ## Section 6: Executions -/

section executions

variable {id : Nat} {w : World} (debug : Bool) (t : TransportSpec) (signal : Option Nat)
  (cancellable : Bool) (limit : Nat)

/-- Whatever a policy of the library went through, a scripted execution on a request with it
    reports and answers the same, and leaves the same request. -/
theorem scripted_same (hw : ((libraryAccess id).read w).isSome = true) (p : Policy Float)
    (ops₁ ops₂ : List (Operation Float)) {r : Request} (hpolicy : r.policy = .hook id) :
    let h := surroundings debug t signal
    let o₁ := Engine.execute h cancellable limit r ((libraryAccess id).write (p.after ops₁) w)
    let o₂ := Engine.execute h cancellable limit r ((libraryAccess id).write (p.after ops₂) w)
    o₁.events = o₂.events ∧ o₁.result = o₂.result ∧ o₁.request = o₂.request :=
  execute_same (surroundings_hosts debug t signal id) cancellable limit hpolicy hw ops₁ ops₂

/-- Whatever the scripts do, a scripted execution leaves a history of every policy. -/
theorem scripted_operated (hw : ((libraryAccess id).read w).isSome = true) (p : Policy Float)
    (ops : List (Operation Float)) (r : Request) :
    ∃ ops', (libraryAccess id).read (Engine.execute (surroundings debug t signal) cancellable
      limit r ((libraryAccess id).write (p.after ops) w)).state = some (p.after ops') :=
  execute_operated (surroundings_hosts debug t signal id)
    ((surroundings_spared debug t signal id).mono fun _ _ hs => hs.operated) cancellable limit r
    hw ops

/-- A constant policy with a quota grants as many pauses as a scripted execution asks it for,
    up to the quota. -/
theorem scripted_granted (hw : ((libraryAccess id).read w).isSome = true) {q : Constant Float}
    (made : (Policy.constant q).Made) {quota : Number Float} {m : Nat}
    (hquota : q.quota = some quota) (hm : quota.exact = .finite m) (ops : List (Operation Float))
    {r : Request} (hpolicy : r.policy = .hook id) :
    let answers := (Engine.execute ((surroundings debug t signal).tallied id) cancellable limit r
      ((libraryAccess id).write ((Policy.constant q).after ops) w, [])).state.2
    answers.countP grants = min m answers.length :=
  (execute_granted (surroundings_hosts debug t signal id) (surroundings_spared debug t signal id)
    made hquota hm cancellable limit hw (.inl hpolicy)).2

end executions

end Redial.Scenario
