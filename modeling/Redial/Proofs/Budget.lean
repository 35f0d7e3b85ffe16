import Redial.Proofs.Account.Preserved
import Redial.Proofs.Playback

/-! # The retry budget

    A request has one budget for retries of every kind.  The engine takes one from it
    in one place, and asks before in two ways: a failed exchange is retried unless the
    budget is zero, a response is offered to the triggers if the budget is positive.
    For an integer budget that the surroundings leave alone both say the same, so that

    * a run ends by itself, within one attempt more than the budget;
    * the attempts that were sent and the budget that is left always add up, where
      the ending decides whether the last attempt cost a retry. -/

namespace Redial

/-! ## Section 1: Integer budgets -/

namespace Number

variable {R : Type} [Arith R] {a : Number R} {m : Int}

theorem exact_of_int? (ha : a.int? = some m) : a.exact = .finite (m : Rat) := by
  cases a with
  | whole n =>
    cases ha
    rfl
  | truth b =>
    cases ha
    cases b <;> rfl
  | real x => cases ha

theorem isZero_of_int? (ha : a.int? = some m) : a.isZero = true ↔ m = 0 := by
  have hz : (whole 0 : Number R).exact = .finite ((0 : Int) : Rat) := rfl
  rw [isZero, eq, exact_of_int? ha, hz, Exact.eq, beq_iff_eq]
  exact Rat.intCast_inj

theorem isPositive_of_int? (ha : a.int? = some m) : a.isPositive = true ↔ 0 < m := by
  have hz : (whole 0 : Number R).exact = .finite ((0 : Int) : Rat) := rfl
  rw [isPositive, lt, exact_of_int? ha, hz, Exact.lt, decide_eq_true_iff]
  exact Rat.intCast_lt_intCast

theorem sub_one_of_int? (ha : a.int? = some m) : a.sub (.whole 1) = .ok (.whole (m - 1)) := by
  rw [sub, lift, ha]
  rfl

end Number

namespace Engine

variable {R σ : Type}

/-- A request with an integer budget. -/
def Funded (b : Nat) (r : Request) : Prop := r.retries.int? = some (b : Int)

/-- A positive integer budget can be spent. -/
theorem Funded.spent_eq {b : Nat} {r : Request} (hr : Funded (b + 1) r) :
    spent? r = .ok { r with retries := .whole (b : Int) } := by
  have hsub : ((b + 1 : Nat) : Int) - 1 = (b : Int) := by omega
  have hnonneg : (Number.whole (b : Int) : Number Float).isNegative = false := by
    have hz : (Number.whole 0 : Number Float).exact = .finite ((0 : Int) : Rat) := rfl
    have hb : (Number.whole (b : Int) : Number Float).exact = .finite ((b : Int) : Rat) := rfl
    rw [Number.isNegative, Number.lt, hz, hb, Exact.lt, decide_eq_false_iff_not,
      Rat.intCast_lt_intCast]
    omega
  have hset : r.setRetries (.number (.whole (b : Int)))
      = .ok { r with retries := .whole (b : Int) } := by
    have hcheck : checkNonNegative Setting.retries.name (.number (.whole (b : Int)))
        = .ok (.whole (b : Int)) := by
      simp only [checkNonNegative, Value.number?, hnonneg, Bool.false_eq_true, if_false]
    unfold Request.setRetries
    rw [hcheck]
    rfl
  unfold spent?
  rw [Number.sub_one_of_int? hr, hsub]
  exact hset

/-! ## Section 2: One attempt -/

variable [Arith R] {h : Hooks R σ} {cancellable : Bool} {callbacks : Slot Callbacks} {start : R}

/-- An answer leads to a retry only if there is a budget left. -/
theorem Settled.funded {t : Turn R σ} {reason : Reason} {waited : R} {e : List (Event R)} {b : Nat}
    (hb : Funded b t.answered)
    (hs : Settled h cancellable t (.ok (some (reason, waited))) e) : 0 < b := by
  cases hs with
  | resent answer again unasked =>
    simp only [Turn.resends, Bool.and_eq_true, Bool.not_eq_true'] at again
    have hzero : ¬ (b : Int) = 0 := by
      rw [← Number.isZero_of_int? hb, again.2]
      exact nofun
    omega
  | offered answer bad funded run questions =>
    have hpositive : 0 < (b : Int) := (Number.isPositive_of_int? hb).mp funded
    omega

/-- One attempt: a retry costs one, and everything else leaves the budget alone. -/
theorem Attempted.budget (hk : h.Keep fun r => r.retries) {n b : Nat} {r : Request} {s : σ}
    {t : Option (Turn R σ)} {ending : Option Ending} {o : Outcome (Event R) σ (Option Response)}
    (hb : Funded b r) (ha : Attempted h cancellable callbacks start n r s t ending o) :
    ∃ left, Funded left o.request ∧ left ≤ b ∧
      t.toList.length + left = b + ending.elim 0 Ending.free := by
  have hp : ∀ left, h.Preserve (Funded left) := fun left =>
    hk.preserve fun retries => retries.int? = some (left : Int)
  have hanswers : ∀ turn, t = some turn → Funded b turn.answered := by
    rintro turn rfl
    exact ha.answered (hp b) hb
  cases ha with
  | cancelled => exact ⟨b, hb, Nat.le_refl b, Nat.zero_add b⟩
  | unsent clear run =>
    have hopened : Funded b _ := (preserves_opening (hp b) cancellable callbacks n).left run hb
    exact ⟨b, hopened, Nat.le_refl b, Nat.zero_add b⟩
  | @broken t f r₁ s₁ e₁ e₂ clear opened run₁ run₂ answer unasked closing =>
    exact ⟨b, hanswers t rfl, Nat.le_refl b, Nat.add_comm 1 b⟩
  | @taken t r₁ s₁ e₁ e₂ e₃ trigger ending o clear opened run₁ run₂ settled closed =>
    have hanswered : Funded b t.answered := hanswers t rfl
    have hsettled : Funded b t.settled :=
      settled.preserved (hp b) (fun _ _ _ hr => hr) hanswered
    rcases closed.preserved with
      ⟨reason, waited, r', rfl, hspent, hending, hleft⟩ | ⟨⟨e, rfl, hfree⟩, hleft⟩
    -- a retry is made only with a budget left, so that one can be taken from it
    · obtain ⟨left, rfl⟩ : ∃ left, b = left + 1 :=
        ⟨b - 1, by have := settled.funded hanswered; omega⟩
      cases hspent.symm.trans hsettled.spent_eq
      refine ⟨left, hleft _ (hp left) rfl, Nat.le_succ left, ?_⟩
      rcases hending with rfl | rfl <;> exact Nat.add_comm 1 left
    · refine ⟨b, hleft _ (hp b) hsettled, Nat.le_refl b, ?_⟩
      rw [Option.elim_some, hfree]
      exact Nat.add_comm 1 b

/-! ## Section 3: Runs -/

/-- The attempts that were sent and the budget that is left add up, over a course of
    any length. -/
theorem Course.budget (hk : h.Keep fun r => r.retries) {n b : Nat} {r : Request} {s : σ}
    {turns : List (Turn R σ)} {ending : Option Ending}
    {o : Outcome (Event R) σ (Option Response)} (hb : Funded b r)
    (hc : Course h cancellable callbacks start n r s turns ending o) :
    ∃ left, Funded left o.request ∧ left ≤ b ∧
      turns.length + left = b + ending.elim 0 Ending.free := by
  -- the sum of what was sent and what is left is carried from attempt to attempt
  induction hc generalizing b with
  | cut => exact ⟨b, hb, Nat.le_refl b, Nat.zero_add b⟩
  | last attempt => exact attempt.budget hk hb
  | @again n r r' s s' t e turns ending o attempt rest ih =>
    obtain ⟨left, hleft, -, hfirst⟩ := attempt.budget hk hb
    obtain ⟨last, hlast, hle, hrest⟩ := ih hleft
    have hone : 1 + left = b + 0 := hfirst
    refine ⟨last, hlast, by omega, ?_⟩
    rw [List.length_cons]
    omega

theorem Executed.budget (hk : h.Keep fun r => r.retries) {b : Nat} {r : Request} {s : σ}
    {turns : List (Turn R σ)} {ending : Option Ending}
    {o : Outcome (Event R) σ (Option Response)} (hb : Funded b r)
    (he : Executed h cancellable r s turns ending o) :
    ∃ left, Funded left o.request ∧ left ≤ b ∧
      turns.length + left = b + ending.elim 0 Ending.free := by
  have hp : h.Preserve (Funded b) := hk.preserve fun retries => retries.int? = some (b : Int)
  cases he with
  | refused => exact ⟨b, hb, Nat.le_refl b, Nat.zero_add b⟩
  | unreset method reset =>
    exact ⟨b, (preserves_resetPolicy hp).left reset hb, Nat.le_refl b, Nat.zero_add b⟩
  | run method reset course =>
    obtain ⟨left, hleft, hle, hsum⟩ := course.budget hk ((preserves_resetPolicy hp).left reset hb)
    exact ⟨left, hleft, hle, hsum⟩

/-- A run ends by itself within one attempt more than its budget. -/
theorem execute_over (hk : h.Keep fun r => r.retries) {b : Nat} {r : Request} (hb : Funded b r)
    (cancellable : Bool) (s : σ) :
    (execute h cancellable (b + 1) r s).result ≠ .ok none := by
  intro hcut
  obtain ⟨turns, ending, hexecuted, hlimit⟩ := executed h cancellable (b + 1) r s
  have hnone : ending = none := hexecuted.over.mp hcut
  obtain ⟨left, -, -, hsum⟩ := hexecuted.budget hk hb
  -- a run that was cut off would have sent one request more than its budget
  rw [hlimit hnone, hnone, Option.elim_none] at hsum
  omega

/-- Every run ends by itself, in one way under every limit above its budget. -/
theorem execute_ends (hk : h.Keep fun r => r.retries) {b : Nat} {r : Request} (hb : Funded b r)
    (cancellable : Bool) (s : σ) :
    ∃ o turns ending, (∀ limit, b < limit → execute h cancellable limit r s = o) ∧
      Executed h cancellable r s turns (some ending) o := by
  have hover := execute_over hk hb cancellable s
  obtain ⟨turns, ending, hexecuted, -⟩ := executed h cancellable (b + 1) r s
  cases ending with
  | none => exact absurd (hexecuted.over.mpr rfl) hover
  | some ending =>
    exact ⟨_, turns, ending, fun limit hlimit => execute_mono hlimit hover, hexecuted⟩

/-! ## Section 4: Sequences of runs -/

/-- How often a run sent its request again. -/
def resends {α : Type} (o : Outcome (Event R) σ α) : Nat := (sent o.events).length - 1

/-- How often several runs sent their request again, all together. -/
def resendsOfAll {α : Type} : List (Outcome (Event R) σ α) → Nat
  | [] => 0
  | o :: os => resends o + resendsOfAll os

/-- The request that several runs leave, one after the other. -/
def lastRequest {α : Type} (r : Request) : List (Outcome (Event R) σ α) → Request
  | [] => r
  | o :: os => lastRequest o.request os

/-- How often runs one after the other on one request resend it, and the budget that
    they leave, come to no more than the budget that it had at first. -/
theorem trail_resends {b : Nat} {r : Request} {s : σ}
    (calls : List (Hooks R σ × Bool × Nat))
    (hk : ∀ call ∈ calls, call.1.Keep fun r => r.retries) (hb : Funded b r) :
    let runs := Run.trail (fun call : Hooks R σ × Bool × Nat =>
      execute call.1 call.2.1 call.2.2) r s calls
    ∃ left, Funded left (lastRequest r runs) ∧ resendsOfAll runs + left ≤ b := by
  induction calls generalizing b r s with
  | nil => exact ⟨b, hb, by rw [Run.trail, resendsOfAll]; omega⟩
  | cons call calls ih =>
    obtain ⟨turns, ending, hexecuted, -⟩ := executed call.1 call.2.1 call.2.2 r s
    obtain ⟨between, hbetween, hle, hsum⟩ := hexecuted.budget (hk call List.mem_cons_self) hb
    obtain ⟨left, hleft, hrest⟩ := ih (s := (execute call.1 call.2.1 call.2.2 r s).state)
      (fun c hc => hk c (List.mem_cons_of_mem call hc)) hbetween
    -- only the first transmission of a run is no retry, and it may be missing
    have hfirst : resends (execute call.1 call.2.1 call.2.2 r s) + between ≤ b := by
      have hfree : ending.elim 0 Ending.free ≤ 1 := by
        cases ending with
        | none => exact Nat.zero_le 1
        | some ending => cases ending <;> decide
      rw [resends, hexecuted.sent_eq, List.length_map]
      omega
    refine ⟨left, hleft, ?_⟩
    rw [Run.trail, resendsOfAll]
    omega

/-! ## Section 5: The budget of a run -/

/-- For an integer budget that the surroundings leave alone, every run ends by itself
    after at most one attempt more than the budget, and what it sent and what it left
    add up: a run that returns a response or raises the error of its last attempt, or
    that is cancelled in a pause, sent one request more than it spent retries; a run
    that is cancelled as an attempt begins sent one request for each.  No sequence of
    runs resends the request more often than the budget allows. -/
theorem execute_spends_budget (hk : h.Keep fun r => r.retries) {b : Nat} {r : Request}
    (hb : Funded b r) (cancellable : Bool) (s : σ) :
    (∃ o, o.result ≠ .ok none ∧ (∀ limit, b < limit → execute h cancellable limit r s = o) ∧
      ∃ turns ending left, Executed h cancellable r s turns (some ending) o ∧
        ending.Answers o.result ∧ Funded left o.request ∧ left ≤ b ∧
        (sent o.events).length ≤ b + 1 ∧
        (sent o.events).length = turns.length ∧
        (ending ∈ [.succeeded, .returned, .rejected, .lost, .cancelledPausing] →
          (sent o.events).length = 1 + (b - left)) ∧
        (ending = .cancelled → (sent o.events).length = b - left) ∧
        (sent o.events).length = ending.free + (b - left)) ∧
    ∀ calls : List (Hooks R σ × Bool × Nat),
      (∀ call ∈ calls, call.1.Keep fun r => r.retries) →
      let runs := Run.trail (fun call => execute call.1 call.2.1 call.2.2) r s calls
      ∃ left, Funded left (lastRequest r runs) ∧ resendsOfAll runs + left ≤ b := by
  refine ⟨?_, fun calls hcalls => trail_resends calls hcalls hb⟩
  obtain ⟨o, turns, ending, hlimit, hexecuted⟩ := execute_ends hk hb cancellable s
  obtain ⟨left, hleft, hle, hsum⟩ := hexecuted.budget hk hb
  rw [Option.elim_some] at hsum
  have hover : o.result ≠ .ok none := fun hcut => by cases hexecuted.over.mp hcut
  have hsent : (sent o.events).length = turns.length := by
    rw [hexecuted.sent_eq, List.length_map]
  have hfree : ending.free ≤ 1 := by cases ending <;> decide
  have hlength : turns.length = ending.free + (b - left) := by omega
  refine ⟨o, hover, hlimit, turns, ending, left, hexecuted, hexecuted.answers, hleft, hle, ?_⟩
  rw [hsent]
  refine ⟨by omega, rfl, ?_, ?_, hlength⟩
  · intro hending
    have hone : ∀ e ∈ [Ending.succeeded, .returned, .rejected, .lost, .cancelledPausing],
        e.free = 1 := by decide
    rw [hlength, hone ending hending]
  · rintro rfl
    rw [hlength]
    exact Nat.zero_add _

/-- A transport that always fails: three attempts, for a budget of two. -/
theorem execute_spends_budget_failing :
    let h : Hooks Rat Nat := Playback.hooks
      ⟨fun _ => .error (.raised "ConnectError" ⟨.exchange, ""⟩),
      fun _ _ => false, fun _ _ => false, fun _ => .whole 0⟩
    let r : Request := { Request.make "GET" (.text "http://a/") none Headers.empty with
      retries := .whole 2, retryOnFailure := .bool true }
    (h.Keep fun r => r.retries) ∧ Funded 2 r ∧
      ∃ o, o.result ≠ .ok none ∧ (∀ limit, 2 < limit → execute h false limit r 0 = o) ∧
        (sent o.events).length ≤ 3 := by
  intro h r
  have hk : h.Keep fun r => r.retries := Playback.keep _
  have hb : Funded 2 r := rfl
  obtain ⟨⟨o, hresult, hlimit, turns, ending, left, -, -, -, -, hsent, -⟩, -⟩ :=
    execute_spends_budget hk hb false 0
  exact ⟨hk, hb, o, hresult, hlimit, hsent⟩

end Engine

end Redial
