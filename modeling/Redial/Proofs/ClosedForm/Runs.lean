import Redial.Proofs.ClosedForm.Attempts
import Redial.Proofs.ExactTimes

/-! # The closed form of a run

    With hooks that have no memory the whole run follows from the script.  The leading
    retriable outcomes are retried as far as the budget goes, the next outcome ends the
    run, and every attempt sends the request that the outcomes before it made.

    A redirect rewrites the request between two attempts, so the induction is over
    courses that begin at any place of the script with any request and budget. -/

namespace Redial

namespace Engine

variable {R σ : Type} [Arith R] {h : Hooks R σ} {d : Decisions} {place : σ → Nat}
  {script : Nat → Except Fault RawResponse} {callbacks : Slot Callbacks} {start : R} {n : Nat}

/-! ## Section 1: Runs -/

/-- The requests that are sent over `n` retries, after a request with budget `b` at
    place `k`. -/
def sendings (d : Decisions) (script : Nat → Except Fault RawResponse) (n k b : Nat)
    (r : Request) : List Staged :=
  (List.range (n + 1)).map fun i => stagedOf false (d.requestAt script i k b r)

omit [Arith R] in
theorem sendings_succ (n k b : Nat) (r : Request) :
    sendings d script (n + 1) k b r
      = stagedOf false r :: sendings d script n (k + 1) (b - 1) (d.next r (script k) (b - 1)) := by
  unfold sendings
  rw [List.range_succ_eq_map, List.map_cons, List.map_map]
  rfl

/-- The closed form of a run that made `n` retries, from place `k` of a script and a
    request with budget `b`. -/
structure Closes (decode : Decoder) (d : Decisions) (place : σ → Nat)
    (script : Nat → Except Fault RawResponse) (k b : Nat) (r : Request) (n : Nat)
    (o : Outcome (Event R) σ (Option Response)) : Prop where
  /-- The retries are as many as the budget allows. -/
  within : n ≤ b
  /-- Every outcome that is retried is retriable. -/
  retried : ∀ i < n, d.retriable r (script (k + i)) = true
  /-- A run that has a budget left ended at an outcome that is not retriable. -/
  final : n < b → d.retriable r (script (k + n)) = false
  sent : Redial.sent o.events = sendings d script n k b r
  request : o.request = d.requestAt script n k b r
  ends : Ends decode o.request (script (k + n)) o.result
  place : place o.state = k + n + 1

/-- A course from any place of the script, with any request and budget, has the closed
    form. -/
theorem Course.closes (hm : Memoryless h d place script) (hs : PlainScript h.decode script)
    (hcallbacks : callbacks.Harmless) {b : Nat} {r : Request} {s : σ}
    (hr : r.Placed) (hb : Funded b r) {turns : List (Turn R σ)} {ending : Ending}
    {o : Outcome (Event R) σ (Option Response)}
    (hc : Course h false callbacks start n r s turns (some ending) o) :
    ∃ m, Closes h.decode d place script (place s) b r m o := by
  generalize hending : some ending = e at hc
  -- the course after a retry begins one place on, with the next request and budget
  induction hc generalizing b with
  | cut => cases hending
  | @last n r s t ending' o attempt =>
    obtain ⟨hsent, hplace, hdecided⟩ := attempt.decides hm hs hcallbacks hr hb
    cases hagain : d.retriable r (script (place s)) && decide (0 < b) with
    | true =>
      rw [hagain] at hdecided
      cases hdecided.1
    | false =>
      rw [hagain, if_neg Bool.false_ne_true] at hdecided
      obtain ⟨-, hrequest, hends⟩ := hdecided
      refine ⟨0, Nat.zero_le b, nofun, fun hleft => ?_, hsent, hrequest, ?_, hplace⟩
      · rwa [decide_eq_true hleft, Bool.and_true] at hagain
      · rw [hrequest]
        exact hends
  | @again n r r' s s' t e turns ending' o attempt rest ih =>
    obtain ⟨hsent, hplace, hdecided⟩ := attempt.decides hm hs hcallbacks hr hb
    cases hagain : d.retriable r (script (place s)) && decide (0 < b) with
    | false =>
      rw [hagain, if_neg Bool.false_ne_true] at hdecided
      obtain ⟨⟨_, hnone⟩, -⟩ := hdecided
      cases hnone
    | true =>
      rw [hagain, if_pos rfl] at hdecided
      obtain ⟨-, hrequest⟩ := hdecided
      obtain ⟨hretriable, hpositive⟩ := Bool.and_eq_true_iff.mp hagain
      have hfunds : 0 < b := of_decide_eq_true hpositive
      have hnext : r' = d.next r (script (place s)) (b - 1) := hrequest
      have hmoved : place s' = place s + 1 := hplace
      have hplaced : r'.Placed := by
        rw [hnext]
        exact d.next_placed hr _ _
      have hfunded : Funded (b - 1) r' := by
        rw [hnext]
        rfl
      obtain ⟨m, hwithin, hretried, hfinal, hsents, hlast, hends, hplaces⟩ :=
        ih hplaced hfunded hending
      rw [hmoved, hnext] at hsents hlast
      rw [hmoved] at hends hplaces
      have hkept : d.retriable r' = d.retriable r := by
        rw [hnext, d.retriable_next]
      rw [hmoved, hkept] at hretried hfinal
      -- attempt `i` of the rest is attempt `i + 1` of the whole course
      have hindex : ∀ i, place s + 1 + i = place s + (i + 1) := fun i => by omega
      refine ⟨m + 1, by omega, ?_, ?_, ?_, hlast, ?_, ?_⟩
      · intro i hi
        cases i with
        | zero => exact hretriable
        | succ i =>
          rw [← hindex]
          exact hretried i (by omega)
      · intro hleft
        rw [← hindex]
        exact hfinal (by omega)
      · have hfirst : Redial.sent e = [stagedOf false r] := hsent
        rw [Outcome.after_events, sent_append, hfirst, hsents, sendings_succ]
        rfl
      · rwa [← hindex]
      · rw [Outcome.after_state, hplaces, hindex]

/-- For hooks without memory the whole run follows from the script.  Its leading
    retriable outcomes are retried as far as the budget goes, and the next outcome
    ends the run: a failure of the exchange is raised again, and a response is
    returned or raised as an error.  Each attempt sends the request as the outcomes
    before it made it, and each retry takes one from the budget. -/
theorem execute_closed_form (hm : Memoryless h d place script)
    (hs : PlainScript h.decode script) {b : Nat} {r : Request} (hr : r.Placed)
    (hb : Funded b r) {s : σ} (hmethod : (checkMethod h r s).result = .ok ()) :
    ∃ n o, (∀ limit, b < limit → execute h false limit r s = o) ∧
      Closes h.decode d place script (place s) b r n o ∧ Funded (b - n) o.request := by
  obtain ⟨o, turns, ending, hlimit, hexecuted⟩ :=
    execute_ends (fun _ => hm.preserve _) hb false s
  cases hexecuted with
  | refused method =>
    rw [method] at hmethod
    cases hmethod
  | unreset method reset =>
    obtain ⟨r', s', e, hreset, -⟩ := returns_resetPolicy hm.returning hr s
    rw [hreset] at reset
    cases reset
  | @run r' s' e turns ending o method reset course =>
    obtain ⟨r₁, s₁, e₁, hreset, hkept⟩ := returns_resetPolicy hm.returning hr s
    rw [reset] at hreset
    obtain ⟨-, rfl, rfl, rfl⟩ := Outcome.mk.inj hreset
    obtain ⟨rfl, hplace⟩ := Prod.mk.inj hkept
    obtain ⟨n, hcloses⟩ := course.closes hm hs hr.callbacks hr hb
    rw [hplace] at hcloses
    have hunsent : Redial.sent e = [] := by
      rw [← sent_own, resetPolicy_own reset, sent_resetEvents]
    refine ⟨n, o.after e, hlimit, ?_, ?_⟩
    · refine { hcloses with sent := ?_ }
      rw [Outcome.after_events, sent_append, hunsent, List.nil_append]
      exact hcloses.sent
    · rw [Outcome.after_request, hcloses.request]
      exact d.requestAt_funded script hb hcloses.within

/-- A site that redirects forever, for a budget of two: three transmissions, and the last
    redirect is raised as an error. -/
theorem execute_closed_form_redirected :
    let raw : RawResponse := ⟨302, "", [("location", "http://b/")], []⟩
    let h : Hooks Rat Nat := Playback.hooks ⟨fun _ => .ok raw, fun _ _ => false,
      fun _ _ => false, fun _ => .whole 0⟩
    let d : Decisions := ⟨fun _ _ => false, fun _ _ => false⟩
    let r : Request := { Request.make "GET" (.text "http://a/") none Headers.empty with
      retries := .whole 2 }
    Memoryless h d id (fun _ => .ok raw) ∧ PlainScript decodeNamed (fun _ => .ok raw) ∧ r.Placed ∧
      Funded 2 r ∧ (checkMethod h r 0).result = .ok () ∧
      ∃ o, (∀ limit, 2 < limit → execute h false limit r 0 = o) ∧
        Closes decodeNamed d id (fun _ => .ok raw) 0 2 r 2 o := by
  intro raw h d r
  have hm : Memoryless h d id (fun _ => .ok raw) :=
    Playback.memoryless _ _ (fun _ _ => rfl)
      (fun _ => (by decide +kernel : (Number.whole 0 : Number Rat).eq Backoff.stop = false))
      fun _ => ⟨0 / 1000, rfl, (checkSleep_exact _).trans (by norm_num)⟩
  have hs : PlainScript decodeNamed (fun _ => .ok raw) := {
    failures := fun hf => by cases hf
    locations := fun hraw _ hlocation => by
      cases hraw
      have hfield : (Headers.ofWire raw.headers).field? .location = some "http://b/" := by
        decide +kernel
      cases hfield.symm.trans hlocation
      have habsolute : (Url.parse "http://b/".toList).toOption.map (·.isAbsolute) = some true := by
        decide +kernel
      cases hparse : Url.parse "http://b/".toList with
      | error f =>
        rw [hparse] at habsolute
        cases habsolute
      | ok l =>
        rw [hparse] at habsolute
        exact ⟨l, rfl, Option.some.inj habsolute⟩
    charsets := fun _ _ hraw => by
      cases hraw
      refine ⟨_, Response.text_eq _ fun hnull => ?_⟩
      rw [Response.nullNamed_iff] at hnull
      have hset : (MediaType.charset ((Headers.ofWire raw.headers).field? .contentType)
          MediaType.defaultCharset).toList.contains '\x00' = false := by decide +kernel
      exact Bool.false_ne_true (hset.symm.trans hnull) }
  have hr : r.Placed := {
    handler := fun _ => nofun
    policy := fun _ => nofun
    callbacks := fun _ => nofun
    transport := rfl
    content := fun _ => nofun }
  have hmethod : (checkMethod h r 0).result = .ok () := rfl
  obtain ⟨n, o, hlimit, hcloses, -⟩ := execute_closed_form hm hs hr rfl hmethod
  have hretriable : d.retriable r (.ok raw) = true := by decide +kernel
  have hn : n = 2 := by
    have hwithin : n ≤ 2 := hcloses.within
    have hfinal : ¬ n < 2 := fun hleft => by
      rw [hcloses.final hleft] at hretriable
      cases hretriable
    omega
  subst hn
  exact ⟨hm, hs, hr, rfl, hmethod, o, hlimit, hcloses⟩

/-! ## Section 2: Pauses and texts that end a run -/

/-- Whether a run ended with a fault of its numbers. -/
def endedAtNumber : Except Fault (Option Response) → Bool
  | .error (.arithmetic _) => true
  | _ => false

/-- Whether a run ended with a fault of a character set. -/
def endedAtText : Except Fault (Option Response) → Bool
  | .error (.charset _) => true
  | _ => false

/-- Without the conditions on pauses and texts a run may end otherwise.  A pause that is
    not negative but cannot be made ends it before the first retry, although the outcome
    is retriable and there is a budget left.  A response that the decoder refuses ends it
    with the fault of the decoder in place of its own error. -/
theorem plain_run_ends_otherwise :
    (let pause : Number Float := .whole (Nat.pow 10 400)
      let script : Nat → Except Fault RawResponse := fun k =>
        if k = 0 then .ok ⟨503, "", [], []⟩ else .ok ⟨200, "", [], []⟩
      let h : Hooks Float Nat := Playback.hooks ⟨script, fun _ _ => false,
        fun _ status => status == 503, fun _ => pause⟩
      let r : Request := { Request.make "GET" (.text "http://a/") none Headers.empty with
        policy := .hook 0 }
      pause.isNegative = false ∧ Funded 10 r ∧
        Decisions.retriable ⟨fun _ _ => false, fun _ status => status == 503⟩ r (script 0) = true ∧
        ∀ limit, 10 < limit → endedAtNumber (execute h false limit r 0).result = true ∧
          (Redial.sent (execute h false limit r 0).events).length = 1) ∧
    (let raw : RawResponse := ⟨404, "", [("Content-Type", "text/plain; charset=idna")], [120]⟩
      let h : Hooks Rat Nat := { Playback.hooks { script := fun _ => .ok raw } with
        decode := fun name bytes => if name = "idna" ∧ bytes ≠ [] then
            .error (.refused "UnicodeError" "Unsupported error handling replace")
          else decodeNamed name bytes }
      let r : Request := Request.make "GET" (.text "http://a/") none Headers.empty
      ¬ (Response.ofRaw raw r.method r.url).NullNamed ∧ Funded 10 r ∧
        Decisions.retriable ⟨fun _ _ => false, fun _ _ => false⟩ r (.ok raw) = false ∧
        ∀ limit, 10 < limit → endedAtText (execute h false limit r 0).result = true) := by
  -- a run that ended under one limit is the same under every higher one
  have hends : ∀ {R : Type} [Arith R] {h : Hooks R Nat} {r : Request}
      {ended : Except Fault (Option Response) → Bool}, ended (.ok none) = false →
      ended (execute h false 11 r 0).result = true → ∀ limit, 10 < limit →
      execute h false limit r 0 = execute h false 11 r 0 := by
    intro R _ h r ended hnone hended limit hlimit
    refine execute_mono hlimit fun hcut => ?_
    rw [hcut, hnone] at hended
    cases hended
  refine ⟨?_, ?_⟩
  · intro pause script h r
    have hended : endedAtNumber (execute h false 11 r 0).result = true := by decide +kernel
    refine ⟨by decide +kernel, rfl, by decide +kernel, fun limit hlimit => ?_⟩
    rw [hends rfl hended limit hlimit]
    exact ⟨hended, by decide +kernel⟩
  · intro raw h r
    have hended : endedAtText (execute h false 11 r 0).result = true := by decide +kernel
    refine ⟨?_, rfl, by decide +kernel, fun limit hlimit => ?_⟩
    · rw [Response.nullNamed_iff]
      decide +kernel
    · rw [hends rfl hended limit hlimit]
      exact hended

end Engine

end Redial
