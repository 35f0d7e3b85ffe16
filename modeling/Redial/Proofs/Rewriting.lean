import Mathlib.Data.List.Chain
import Redial.Proofs.Retries

/-! # Requests that are rewritten

    With surroundings that leave the request alone, only an accepted redirect rewrites
    it, and a rewritten request is sent.  So

    * from one transmission to the next everything stays but the budget, unless a
      redirect was accepted;
    * the method and the content are given up at most once, both together, when a `POST`
      is answered with 303;
    * a run leaves the request that it sent last, unless it ends midway: the cancel event
      is found set, the retry cannot be paid for, the callback that is told of the retry
      or of the next attempt raises, or that attempt cannot be staged. -/

namespace Redial.Engine

variable {R σ : Type} [Arith R] {h : Hooks R σ} {cancellable : Bool} {callbacks : Slot Callbacks}
  {start : R} {n : Nat}

/-! ## Section 1: From one attempt to the next -/

/-- The attempts of a course are staged from the requests that they begin with, and follow
    one another, the first one from the request of the course. -/
theorem Course.follows (hk : h.Keep fun r => r) {r : Request} {s : σ} {turns : List (Turn R σ)}
    {ending : Option Ending} {o : Outcome (Event R) σ (Option Response)}
    (hc : Course h cancellable callbacks start n r s turns ending o) :
    (∀ t ∈ turns.head?, t.opened = r) ∧ (∀ t ∈ turns, t.staged = stagedOf h.debug t.opened) ∧
      turns.IsChain fun t t' => t.FollowedBy t'.opened := by
  induction hc with
  | cut => exact ⟨by simp, by simp, .nil⟩
  | @last n r s t ending o attempt =>
    cases t with
    | none => exact ⟨by simp, by simp, .nil⟩
    | some t =>
      obtain ⟨hopened, -, hstaged, -⟩ := attempt.begins hk
      rw [← hopened] at hstaged
      exact ⟨by simp [hopened], by simp [hstaged], .singleton t⟩
  | @again n r r' s s' t e turns ending o attempt rest ih =>
    obtain ⟨hopened, -, hstaged, -⟩ := attempt.begins hk
    obtain ⟨reason, waited, next, hleads, hspent, -⟩ := attempt.retried hk
    obtain ⟨hhead, hrest, hchain⟩ := ih
    rw [← hopened] at hstaged
    refine ⟨by simp [hopened], List.forall_mem_cons.mpr ⟨hstaged, hrest⟩, ?_⟩
    refine hchain.cons fun t' ht' => ?_
    rw [hhead t' ht']
    exact hleads.followedBy hspent

/-! ## Section 2: The last request -/

/-- What a run leaves that sent these attempts last: the request of the last one, which
    accepted no redirect, or midway to another attempt one that may follow it. -/
def Left (turns : List (Turn R σ)) (ending : Option Ending) (first last : Request) : Prop :=
  (turns = [] → ending.all Ending.midway = true ∧ last = first) ∧
    ∀ t ∈ turns.getLast?,
      (∃ e, ending = some e ∧ e.midway = false) ∧ last = t.opened ∧ ¬ t.Moved ∨
        ending.all Ending.midway = true ∧ t.FollowedBy last

theorem Course.left (hk : h.Keep fun r => r) {r : Request} {s : σ} {turns : List (Turn R σ)}
    {ending : Option Ending} {o : Outcome (Event R) σ (Option Response)}
    (hc : Course h cancellable callbacks start n r s turns ending o) :
    Left turns ending r o.request := by
  induction hc with
  | cut => exact ⟨fun _ => ⟨rfl, rfl⟩, by simp⟩
  | @last n r s t ending o attempt =>
    cases t with
    | none => exact ⟨fun _ => attempt.unsent_eq hk, by simp⟩
    | some t =>
      refine ⟨nofun, fun t' ht' => ?_⟩
      obtain rfl : t = t' := by simpa using ht'
      obtain ⟨hopened, -⟩ := attempt.begins hk
      rcases attempt.ends hk with ⟨hending, hsame, hstay⟩ | ⟨hending, hfollowed⟩
      · exact .inl ⟨⟨ending, rfl, hending⟩, hsame.trans hopened.symm, hstay⟩
      · exact .inr ⟨hending, hfollowed⟩
  | @again n r r' s s' t e turns ending o attempt rest ih =>
    obtain ⟨reason, waited, next, hleads, hspent, -⟩ := attempt.retried hk
    obtain ⟨hnil, hlast⟩ := ih
    refine ⟨nofun, fun t' ht' => ?_⟩
    cases turns with
    | nil =>
      -- nothing was sent after this attempt, so the run leaves what it led to
      obtain ⟨hending, hsame⟩ := hnil rfl
      obtain rfl : t = t' := by simpa using ht'
      refine .inr ⟨hending, ?_⟩
      rw [Outcome.after_request, hsame]
      exact hleads.followedBy hspent
    | cons next turns => exact hlast t' (by simpa using ht')

/-- An attempt whose answer was offered to no trigger, for want of a budget, is the last
    one, and the run leaves its request. -/
theorem unfunded_last {turns : List (Turn R σ)} {ending : Option Ending} {first last : Request}
    (hchain : turns.IsChain fun t t' => t.FollowedBy t'.opened)
    (hleft : Left turns ending first last) {t : Turn R σ} (ht : t ∈ turns) {response : Response}
    (answer : t.answer = .ok response) (spent : t.opened.retries.isPositive = false) :
    turns.getLast? = some t ∧ last = t.opened := by
  -- a failed exchange leads on by itself, but a response must be paid for
  have hnot : ∀ r, ¬ t.FollowedBy r := by
    rintro r ⟨reason, waited, next, left, hleads, -, -⟩
    cases hleads with
    | failure answer' =>
      rw [answer] at answer'
      cases answer'
    | accepted _ _ funded =>
      rw [spent] at funded
      cases funded
  obtain ⟨before, after, rfl⟩ := List.append_of_mem ht
  cases after with
  | nil =>
    have hlast : (before ++ [t]).getLast? = some t := by simp
    rcases hleft.2 t hlast with ⟨-, hsame, -⟩ | ⟨-, hfollowed⟩
    · exact ⟨hlast, hsame⟩
    · exact absurd hfollowed (hnot _)
  | cons t' after =>
    have hfollowed : t.FollowedBy t'.opened :=
      (List.isChain_cons_cons.mp (List.isChain_append.mp hchain).2.1).1
    exact absurd hfollowed (hnot _)

/-! ## Section 3: The method and the content -/

/-- The requests of a run, with the one that it leaves, keep their method and content, or
    give them up once: at a 303 that answers a `POST`. -/
inductive RewrittenOnce (first : Request) (turns : List (Turn R σ)) (last : Request) : Prop where
  | never (kept : ∀ q ∈ turns.map Turn.opened ++ [last],
      q.method = first.method ∧ q.content = first.content) :
      RewrittenOnce first turns last
  | once (before after : List (Turn R σ)) (t : Turn R σ) {response : Response}
      (split : turns = before ++ t :: after) (answer : t.answer = .ok response)
      (seeOther : response.status = Status.seeOther) (moved : t.Moved)
      (post : first.method = "POST")
      (kept : ∀ q ∈ (before ++ [t]).map Turn.opened,
        q.method = first.method ∧ q.content = first.content)
      (given : ∀ q ∈ after.map Turn.opened ++ [last], q.method = "GET" ∧ q.content = none) :
      RewrittenOnce first turns last

/-- What may follow an attempt keeps the method and the content, or gives them up. -/
theorem Turn.FollowedBy.rewrites {t : Turn R σ} {r : Request} (hf : t.FollowedBy r) :
    r.method = t.opened.method ∧ r.content = t.opened.content ∨
      (∃ response, t.answer = .ok response ∧ response.status = Status.seeOther) ∧ t.Moved ∧
        t.opened.method = "POST" ∧ r.method = "GET" ∧ r.content = none := by
  obtain ⟨reason, waited, next, left, hleads, hunmoved, rfl⟩ := hf
  cases hleads with
  | failure => exact .inl ⟨rfl, rfl⟩
  | @accepted response _ _ _ answer bad funded accepted =>
    cases accepted with
    | handler | backoff => exact .inl ⟨rfl, rfl⟩
    | redirect rule moved =>
      cases hloses : t.opened.losesContent response.status with
      | false =>
        left
        simp [Request.redirected, hloses]
      | true =>
        have hboth : response.status = Status.seeOther ∧ t.opened.method = "POST" := by
          simpa [Request.losesContent] using hloses
        refine .inr ⟨⟨response, answer, hboth.1⟩, ⟨_, moved⟩, hboth.2, ?_⟩
        simp [Request.redirected, hloses]

/-- One attempt more in front: what it gives up is not given up again, as the method is no
    `POST` any more. -/
theorem RewrittenOnce.cons {t : Turn R σ} {turns : List (Turn R σ)} {next last : Request}
    (hf : t.FollowedBy next) (hrest : RewrittenOnce next turns last) :
    RewrittenOnce t.opened (t :: turns) last := by
  rcases hf.rewrites with ⟨hmethod, hcontent⟩ | ⟨⟨response, answer, hstatus⟩, hmoved, hpost,
    hget, hnone⟩
  · cases hrest with
    | never kept =>
      rw [hmethod, hcontent] at kept
      exact .never (List.forall_mem_cons.mpr ⟨⟨rfl, rfl⟩, kept⟩)
    | once before after u split answer seeOther moved post kept given =>
      rw [hmethod, hcontent] at kept
      rw [hmethod] at post
      exact .once (t :: before) after u (congrArg (t :: ·) split) answer seeOther moved post
        (List.forall_mem_cons.mpr ⟨⟨rfl, rfl⟩, kept⟩) given
  -- the content is given up here, so the rest begins with a `GET` and keeps it
  · cases hrest with
    | never kept =>
      rw [hget, hnone] at kept
      exact .once [] turns t rfl answer hstatus hmoved hpost (by simp) kept
    | once _ _ _ _ _ _ _ post =>
      rw [hget] at post
      exact absurd post (by decide)

theorem Course.rewrittenOnce (hk : h.Keep fun r => r) {r : Request} {s : σ}
    {turns : List (Turn R σ)} {ending : Option Ending}
    {o : Outcome (Event R) σ (Option Response)}
    (hc : Course h cancellable callbacks start n r s turns ending o) :
    RewrittenOnce r turns o.request := by
  induction hc with
  | cut => exact .never (by simp)
  | @last n r s t ending o attempt =>
    cases t with
    | none =>
      obtain ⟨-, hsame⟩ := attempt.unsent_eq hk
      exact .never (by simp [hsame])
    | some t =>
      obtain ⟨hopened, -⟩ := attempt.begins hk
      rcases attempt.ends hk with ⟨-, hsame, -⟩ | ⟨-, hfollowed⟩
      · exact .never (by simp [hsame, hopened])
      · rw [← hopened]
        exact .cons hfollowed (.never (by simp))
  | @again n r r' s s' t e turns ending o attempt rest ih =>
    obtain ⟨hopened, -⟩ := attempt.begins hk
    obtain ⟨reason, waited, next, hleads, hspent, -⟩ := attempt.retried hk
    rw [← hopened]
    exact ih.cons (hleads.followedBy hspent)

/-! ## Section 4: Runs -/

/-- With surroundings that leave the request alone, a run sends requests of which each is
    the one before, up to the budget, unless a redirect was accepted in between; gives up
    the method and the content at most once; and leaves the request that it sent last,
    unless it ends midway to another attempt.  In particular a redirect that finds no
    budget leaves the request untouched, and so does a run that sends nothing. -/
theorem execute_rewrites_and_sends (hk : h.Keep fun r => r) (cancellable : Bool) (limit : Nat)
    (r : Request) (s : σ) :
    ∃ turns ending o, execute h cancellable limit r s = o ∧
      Executed h cancellable r s turns ending o ∧
      (∀ e, ending = some e → e.Answers o.result) ∧
      sent o.events = turns.map Turn.staged ∧
      (∀ t ∈ turns, t.staged = stagedOf h.debug t.opened) ∧
      (∀ t ∈ turns.head?, t.opened = r) ∧
      (turns.IsChain fun t t' => t.FollowedBy t'.opened) ∧
      RewrittenOnce r turns o.request ∧
      (∀ t ∈ turns.getLast?, ∀ e, ending = some e → e.midway = false →
        o.request = t.opened ∧ t.staged = stagedOf h.debug o.request ∧ ¬ t.Moved) ∧
      (∀ t ∈ turns.getLast?, ending.all Ending.midway = true → t.FollowedBy o.request) ∧
      (turns = [] → o.request = r) ∧
      ∀ t ∈ turns, ∀ response, t.answer = .ok response →
        t.opened.retries.isPositive = false →
        turns.getLast? = some t ∧ o.request = t.opened := by
  obtain ⟨turns, ending, hexecuted, -⟩ := executed h cancellable limit r s
  refine ⟨turns, ending, _, rfl, hexecuted, ?_, hexecuted.sent_eq, ?_⟩
  · rintro e rfl
    exact hexecuted.answers
  have hreset : ∀ {r' s' e x}, resetPolicy h r s = ⟨x, r', s', e⟩ → r' = r :=
    fun run => kept_eq (fun _ hp => preserves_resetPolicy hp) hk run
  generalize execute h cancellable limit r s = o at hexecuted
  cases hexecuted with
  | refused => exact ⟨by simp, by simp, .nil, .never (by simp), by simp⟩
  | unreset method reset =>
    obtain rfl := hreset reset
    exact ⟨by simp, by simp, .nil, .never (by simp), by simp⟩
  | run method reset course =>
    obtain rfl := hreset reset
    obtain ⟨hhead, hstaged, hchain⟩ := course.follows hk
    have hleft := course.left hk
    refine ⟨hstaged, hhead, hchain, course.rewrittenOnce hk, ?_, ?_, fun hnil => (hleft.1 hnil).2,
      fun t ht response answer spent => unfunded_last hchain hleft ht answer spent⟩
    · rintro t ht e rfl hending
      rcases hleft.2 t ht with ⟨-, hsame, hstay⟩ | ⟨hmidway, -⟩
      · have hsent := hstaged t (List.mem_of_mem_getLast? ht)
        exact ⟨hsame, by rw [Outcome.after_request, hsame, hsent], hstay⟩
      · rw [Option.all_some, hending] at hmidway
        cases hmidway
    · intro t ht hmidway
      rcases hleft.2 t ht with ⟨⟨e, rfl, hending⟩, -⟩ | ⟨-, hfollowed⟩
      · rw [Option.all_some, hending] at hmidway
        cases hmidway
      · exact hfollowed

/-- A `POST` that is answered with 303 and then succeeds: the content is not sent again, and
    the run leaves the `GET` that it sent last. -/
theorem execute_rewrites_and_sends_see_other :
    let h : Hooks Rat Nat := Playback.hooks ⟨fun
        | 0 => .ok ⟨303, "", [("Location", "http://b/")], []⟩
        | _ => .ok ⟨200, "", [], []⟩,
      fun _ _ => false, fun _ _ => false, fun _ => .whole 0⟩
    let r := Request.make "POST" (.text "http://a/") (some (.bytes none [1, 2])) Headers.empty
    (h.Keep fun r => r) ∧
      (sent (execute h false 11 r 0).events).map (fun s => (s.method, s.content.isSome))
        = [("POST", true), ("GET", false)] ∧
      ∃ turns ending o, execute h false 11 r 0 = o ∧ Executed h false r 0 turns ending o ∧
        RewrittenOnce r turns o.request ∧
        ∀ t ∈ turns.getLast?, ∀ e, ending = some e → e.midway = false → o.request = t.opened := by
  intro h r
  have hk : h.Keep fun r => r := Playback.keep _
  refine ⟨hk, by decide +kernel, ?_⟩
  obtain ⟨turns, ending, o, hrun, hexecuted, -, -, -, -, -, honce, hlast, -⟩ :=
    execute_rewrites_and_sends hk false 11 r 0
  exact ⟨turns, ending, o, hrun, hexecuted, honce, fun t ht e he hmidway =>
    (hlast t ht e he hmidway).1⟩

end Redial.Engine
