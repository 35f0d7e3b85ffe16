import Mathlib.Data.List.Chain
import Redial.Proofs.Widening

/-! # Handlers in a tree

    A composition asks its parts in order, and a part may be a composition itself.  Only
    the handlers of the caller's at the leaves do anything.  However they are nested,
    they are asked from left to right, each with the request and the state that the one
    before it left, up to the first that accepts or raises a fault: an acceptance ends
    the asking on every level that it passes, and so does a fault.

    `Polls` says what it is to ask a plain list of leaves.  A tree is related to the list
    of its leaves, one case for each of its constructors, on surroundings that list the
    questions beside their state.  Since one composition of all the leaves has the same
    leaves, and a list is polled in one way only, the two cannot be told apart by what
    they answer, whom they ask and what they leave.

    What the nesting shows in is the debug log: every composition that passes an
    acceptance on writes a line about it, so that a tree may write more of them at the
    end. -/

namespace Redial

variable {R σ : Type}

/-! ## Section 1: Leaves -/

/-- A handler of the caller's as a composition holds it. -/
structure Handler.Leaf where
  kind : String
  id : Nat

namespace Handler

/-- The leaf on its own. -/
def Leaf.handler (l : Leaf) : Handler := .leaf l.kind l.id

mutual

/-- The handlers of the caller's in a handler, from left to right. -/
def leaves : Handler → List Leaf
  | .leaf kind id => [⟨kind, id⟩]
  | .composite parts => leavesOf parts

/-- The handlers of the caller's in several handlers, from left to right. -/
def leavesOf : List Handler → List Leaf
  | [] => []
  | part :: parts => part.leaves ++ leavesOf parts

end

/-- One composition of all the leaves. -/
def flat (h : Handler) : Handler := .composite (h.leaves.map Leaf.handler)

theorem leavesOf_map_handler (ls : List Leaf) : leavesOf (ls.map Leaf.handler) = ls := by
  induction ls with
  | nil => rfl
  | cons l ls ih => exact congrArg (l :: ·) ih

/-- Flattening loses no leaf. -/
theorem leaves_flat (h : Handler) : h.flat.leaves = h.leaves := leavesOf_map_handler h.leaves

/-- Compositions without leaves vanish, and all others are opened. -/
example :
    (Handler.composite [.composite [], .composite [.leaf "A" 0, .composite [.leaf "B" 1]],
      .leaf "A" 0]).flat = .composite [.leaf "A" 0, .leaf "B" 1, .leaf "A" 0] := rfl

end Handler

/-! ## Section 2: Questions -/

/-- A question to a handler of the caller's: all that it is given, and the state in which
    it is asked. -/
structure Question (σ : Type) where
  id : Nat
  response : Response
  supportsRetry : Bool
  request : Request
  state : σ

/-- What comes of a question. -/
def Question.outcome (h : Hooks R σ) (q : Question σ) : Outcome Note σ Bool :=
  h.handle q.id q.response q.supportsRetry q.request q.state

/-- The surroundings with a list of the questions to handlers beside their state. -/
def Hooks.listening (h : Hooks R σ) : Hooks R (σ × List (Question σ)) :=
  { h.beside (List (Question σ)) with
    handle := fun id response supportsRetry r t =>
      let o := h.handle id response supportsRetry r t.1
      ⟨o.result, o.request, (o.state, t.2 ++ [⟨id, response, supportsRetry, r, t.1⟩]), o.events⟩ }

/-- Listing the questions changes nothing else. -/
theorem Hooks.listening_widens (h : Hooks R σ) : h.listening.Widens Prod.fst h :=
  { h.beside_widens (List (Question σ)) with handle := fun _ _ _ _ _ => rfl }

/-! ## Section 3: Polls -/

/-- Leaves are asked in turn about a response: the questions, and what it comes to. -/
inductive Polls (h : Hooks R σ) (response : Response) (supportsRetry : Bool) :
    List Handler.Leaf → Request → σ → List (Question σ) → Outcome Note σ Bool → Prop where
  /-- There is nobody to be asked. -/
  | nobody {r : Request} {s : σ} : Polls h response supportsRetry [] r s [] ⟨.ok false, r, s, []⟩
  /-- The first declines, and the others are asked with what it left. -/
  | declined {l : Handler.Leaf} {ls : List Handler.Leaf} {r r' : Request} {s s' : σ}
      {notes : List Note} {qs : List (Question σ)} {o : Outcome Note σ Bool}
      (asked : h.handle l.id response supportsRetry r s = ⟨.ok false, r', s', notes⟩)
      (others : Polls h response supportsRetry ls r' s' qs o) :
      Polls h response supportsRetry (l :: ls) r s (⟨l.id, response, supportsRetry, r, s⟩ :: qs)
        (o.after notes)
  /-- The first accepts or raises a fault, and nobody else is asked. -/
  | settled {l : Handler.Leaf} {ls : List Handler.Leaf} {r : Request} {s : σ}
      {o : Outcome Note σ Bool} (asked : h.handle l.id response supportsRetry r s = o)
      (final : o.result ≠ .ok false) :
      Polls h response supportsRetry (l :: ls) r s [⟨l.id, response, supportsRetry, r, s⟩] o

/-- Questions that were put to leaves in turn, up to the first that accepted or raised a
    fault. -/
structure InTurn (h : Hooks R σ) (response : Response) (supportsRetry : Bool)
    (ls : List Handler.Leaf) (r : Request) (s : σ) (qs : List (Question σ))
    (result : Except Fault Bool) : Prop where
  /-- They go to the leaves from the left, and none is left out. -/
  ids : qs.map Question.id <+: ls.map Handler.Leaf.id
  /-- All are about the response. -/
  given : ∀ q ∈ qs, q.response = response ∧ q.supportsRetry = supportsRetry
  /-- The first is put with the request and the state as they were, -/
  first : ∀ q ∈ qs.head?, q.request = r ∧ q.state = s
  /-- and every other one with what the one before it left. -/
  onward : qs.IsChain fun p q =>
    q.request = (p.outcome h).request ∧ q.state = (p.outcome h).state
  /-- All but the last were declined. -/
  declined : ∀ q ∈ qs.dropLast, (q.outcome h).result = .ok false
  /-- The last was declined only if it was put to the last leaf; otherwise its answer or
      its fault is the result. -/
  ending : (qs.length = ls.length ∧ (∀ q ∈ qs, (q.outcome h).result = .ok false) ∧
      result = .ok false) ∨
    ∃ q, qs.getLast? = some q ∧ (q.outcome h).result ≠ .ok false ∧
      result = (q.outcome h).result

namespace Polls

variable {h : Hooks R σ} {response : Response} {supportsRetry : Bool}
  {ls ms : List Handler.Leaf} {r r' : Request} {s s' : σ} {qs ps : List (Question σ)}
  {o p : Outcome Note σ Bool}

/-- A list is polled in one way only. -/
theorem unique (ho : Polls h response supportsRetry ls r s qs o)
    (hp : Polls h response supportsRetry ls r s ps p) : qs = ps ∧ o = p := by
  induction ho generalizing ps p with
  | nobody =>
    cases hp
    exact ⟨rfl, rfl⟩
  | declined asked others ih =>
    cases hp with
    | declined asked' others' =>
      obtain ⟨-, rfl, rfl, rfl⟩ := Outcome.mk.inj (asked.symm.trans asked')
      obtain ⟨rfl, rfl⟩ := ih others'
      exact ⟨rfl, rfl⟩
    | settled asked' final =>
      rw [← asked', asked] at final
      exact absurd rfl final
  | settled asked final =>
    cases hp with
    | declined asked' others' =>
      rw [← asked, asked'] at final
      exact absurd rfl final
    | settled asked' final' => exact ⟨rfl, asked.symm.trans asked'⟩

/-- Where all of the first leaves decline, those behind them are asked with what they
    left. -/
theorem append_declined {notes : List Note}
    (hls : Polls h response supportsRetry ls r s qs ⟨.ok false, r', s', notes⟩)
    (hms : Polls h response supportsRetry ms r' s' ps p) :
    Polls h response supportsRetry (ls ++ ms) r s (qs ++ ps) (p.after notes) := by
  generalize ho : (⟨.ok false, r', s', notes⟩ : Outcome Note σ Bool) = o at hls
  induction hls generalizing notes with
  | nobody =>
    obtain ⟨-, rfl, rfl, rfl⟩ := Outcome.mk.inj ho
    exact hms
  | @declined l ls r r₁ s s₁ before qs o asked others ih =>
    obtain ⟨result, r₂, s₂, more⟩ := o
    obtain ⟨rfl, rfl, rfl, rfl⟩ := Outcome.mk.inj ho
    rw [← Outcome.after_after]
    exact .declined asked (ih rfl)
  | settled asked final =>
    rw [← ho] at final
    exact absurd rfl final

/-- Where one of the first leaves accepts or raises, those behind them are not asked. -/
theorem append_settled (hls : Polls h response supportsRetry ls r s qs o)
    (final : o.result ≠ .ok false) (ms : List Handler.Leaf) :
    Polls h response supportsRetry (ls ++ ms) r s qs o := by
  induction hls with
  | nobody => exact absurd rfl final
  | declined asked others ih => exact .declined asked (ih final)
  | settled asked final => exact .settled asked final

/-- What is polled is asked in turn. -/
theorem inTurn (ho : Polls h response supportsRetry ls r s qs o) :
    InTurn h response supportsRetry ls r s qs o.result := by
  induction ho with
  | nobody =>
    refine ⟨List.prefix_rfl, ?_, ?_, .nil, ?_, .inl ⟨rfl, ?_, rfl⟩⟩
    all_goals simp
  | @settled l ls r s o asked final =>
    have houtcome : Question.outcome h ⟨l.id, response, supportsRetry, r, s⟩ = o := asked
    refine ⟨⟨ls.map Handler.Leaf.id, rfl⟩, ?_, ?_, .singleton _, ?_,
      .inr ⟨_, List.getLast?_singleton, ?_⟩⟩
    · simp
    · simp
    · simp
    · rw [houtcome]
      exact ⟨final, rfl⟩
  | @declined l ls r r' s s' notes qs o asked others ih =>
    have houtcome : Question.outcome h ⟨l.id, response, supportsRetry, r, s⟩
        = ⟨.ok false, r', s', notes⟩ := asked
    refine ⟨List.cons_prefix_cons.mpr ⟨rfl, ih.ids⟩, ?_, ?_, ?_, ?_, ?_⟩
    · exact List.forall_mem_cons.mpr ⟨⟨rfl, rfl⟩, ih.given⟩
    · simp
    · rw [List.isChain_cons, houtcome]
      exact ⟨ih.first, ih.onward⟩
    · intro q hq
      cases qs with
      | nil => exact absurd hq List.not_mem_nil
      | cons q' qs =>
        rcases List.mem_cons.mp hq with rfl | hq
        · rw [houtcome]
        · exact ih.declined q hq
    · rcases ih.ending with ⟨hlength, hdeclined, hresult⟩ | ⟨q, hlast, hfinal⟩
      · refine .inl ⟨congrArg Nat.succ hlength, ?_, hresult⟩
        exact List.forall_mem_cons.mpr ⟨by rw [houtcome], hdeclined⟩
      · refine .inr ⟨q, ?_, hfinal⟩
        rw [List.getLast?_cons, hlast]
        rfl

end Polls

/-! ## Section 4: Trees -/

/-- The lines that compositions write at the end: each tells that a part has handled the
    response.  Without an acceptance there are none, nor where the debug log is not
    written. -/
structure Closing (debug : Bool) (response : Response) (result : Except Fault Bool)
    (lines : List Note) : Prop where
  handled : ∀ line ∈ lines, ∃ kind, line =
    .log .handler (kind ++ " handled status " ++ toString response.status)
  quiet : debug = false ∨ result ≠ .ok true → lines = []

theorem Closing.none (debug : Bool) (response : Response) (result : Except Fault Bool) :
    Closing debug response result [] := ⟨nofun, fun _ => rfl⟩

/-- A composition that passes an acceptance on writes one line more. -/
theorem Closing.passed_on {debug : Bool} {response : Response} {lines : List Note}
    (hc : Closing debug response (.ok true) lines) (kind : String) :
    Closing debug response (.ok true) (lines ++ if debug then
      [.log .handler (kind ++ " handled status " ++ toString response.status)] else []) where
  handled line hline := by
    rcases List.mem_append.mp hline with hline | hline
    · exact hc.handled line hline
    · split at hline
      · exact ⟨kind, List.mem_singleton.mp hline⟩
      · exact absurd hline List.not_mem_nil
  quiet hquiet := by
    rcases hquiet with hdebug | hresult
    · rw [hc.quiet (.inl hdebug), hdebug]
      rfl
    · exact absurd rfl hresult

namespace Engine

/-- A run on listening surroundings polls some leaves.  All that it adds is lines at the
    end. -/
def AsksFor (h : Hooks R σ) (response : Response) (supportsRetry : Bool)
    (ls : List Handler.Leaf) (x : Hook (σ × List (Question σ)) Bool) : Prop :=
  ∀ r s earlier, ∃ qs o lines, Polls h response supportsRetry ls r s qs o ∧
    Closing h.debug response o.result lines ∧
    x r (s, earlier) = ⟨o.result, o.request, (o.state, earlier ++ qs), o.events ++ lines⟩

variable {h : Hooks R σ} {response : Response} {supportsRetry : Bool}

theorem asksFor_nobody : AsksFor h response supportsRetry [] (pure false) := by
  intro r s earlier
  refine ⟨[], _, [], .nobody, Closing.none _ _ _, ?_⟩
  rw [List.append_nil]
  rfl

theorem asksFor_leaf (l : Handler.Leaf) :
    AsksFor h response supportsRetry [l] (h.listening.handle l.id response supportsRetry) := by
  intro r s earlier
  by_cases hresult : (h.handle l.id response supportsRetry r s).result = .ok false
  · rcases hrun : h.handle l.id response supportsRetry r s with ⟨result, r', s', notes⟩
    obtain rfl : result = .ok false := by rw [hrun] at hresult; exact hresult
    refine ⟨_, _, [], .declined hrun .nobody, Closing.none _ _ _, ?_⟩
    simp [Hooks.listening, hrun]
  · refine ⟨_, _, [], .settled rfl hresult, Closing.none _ _ _, ?_⟩
    rw [List.append_nil]
    rfl

/-- A part is asked, and the others if it declines. -/
theorem asksFor_next {ls ms : List Handler.Leaf} {x y : Hook (σ × List (Question σ)) Bool}
    (hx : AsksFor h response supportsRetry ls x) (hy : AsksFor h response supportsRetry ms y)
    (kind : String) :
    AsksFor h response supportsRetry (ls ++ ms) (do
      if ← x then
        Run.log h.debug .handler (kind ++ " handled status " ++ toString response.status)
        return true
      else y) := by
  intro r s earlier
  obtain ⟨qs, ⟨result, r', s', notes⟩, lines, polls, closing, hrun⟩ := hx r s earlier
  match result with
  | .error f =>
    refine ⟨qs, _, lines, polls.append_settled nofun ms, closing, ?_⟩
    rw [Run.bind_error hrun]
  | .ok true =>
    refine ⟨qs, _, _, polls.append_settled nofun ms, closing.passed_on kind, ?_⟩
    rw [Run.bind_ok hrun]
    simp [Run.bind_ok (Run.log_apply _ _ _ _ _)]
  | .ok false =>
    obtain rfl : lines = [] := closing.quiet (.inr nofun)
    obtain ⟨ps, o, lines, polls', closing', hrun'⟩ := hy r' s' (earlier ++ qs)
    refine ⟨qs ++ ps, _, lines, polls.append_declined polls', closing', ?_⟩
    rw [Run.bind_ok hrun]
    simp [hrun']

mutual

/-- A handler asks for its leaves. -/
theorem asksFor_ask (h : Hooks R σ) (response : Response) (supportsRetry : Bool) : ∀ handler,
    AsksFor h response supportsRetry handler.leaves
      (ask h.listening response supportsRetry handler)
  | .leaf kind id => by
    unfold ask Handler.leaves
    exact asksFor_leaf ⟨kind, id⟩
  | .composite parts => by
    unfold ask Handler.leaves
    exact asksFor_askInOrder h response supportsRetry parts

theorem asksFor_askInOrder (h : Hooks R σ) (response : Response) (supportsRetry : Bool) :
    ∀ parts, AsksFor h response supportsRetry (Handler.leavesOf parts)
      (askInOrder h.listening response supportsRetry parts)
  | [] => by
    unfold askInOrder Handler.leavesOf
    exact asksFor_nobody
  | part :: parts => by
    unfold askInOrder Handler.leavesOf
    exact asksFor_next (asksFor_ask h response supportsRetry part)
      (asksFor_askInOrder h response supportsRetry parts) part.kind

end

/-- A tree of compositions and one composition of all its leaves answer alike: with the
    same result, the same fault included, and they leave the same request and the same
    state.  They put the same questions to the same leaves, in the same order; these are
    put in turn, up to the first leaf that accepts or raises a fault.  What the leaves
    report is the same; after it, each writes at most lines about the acceptance.
    Listing the questions has changed nothing in either. -/
theorem ask_flattens (h : Hooks R σ) (response : Response) (supportsRetry : Bool)
    (handler : Handler) (r : Request) (s : σ) :
    let tree := ask h.listening response supportsRetry handler r (s, [])
    let flat := ask h.listening response supportsRetry handler.flat r (s, [])
    (tree.result = flat.result ∧ tree.request = flat.request ∧ tree.state = flat.state) ∧
    InTurn h response supportsRetry handler.leaves r s tree.state.2 tree.result ∧
    (∃ notes lines lines', tree.events = notes ++ lines ∧ flat.events = notes ++ lines' ∧
      Closing h.debug response tree.result lines ∧
      Closing h.debug response tree.result lines') ∧
    tree.viewed Prod.fst = ask h response supportsRetry handler r s ∧
    flat.viewed Prod.fst = ask h response supportsRetry handler.flat r s := by
  intro tree flat
  obtain ⟨qs, o, lines, polls, closing, htree⟩ :=
    asksFor_ask h response supportsRetry handler r s []
  obtain ⟨qs', o', lines', polls', closing', hflat⟩ :=
    asksFor_ask h response supportsRetry handler.flat r s []
  -- both poll the same leaves, and this can be done in one way only
  rw [Handler.leaves_flat] at polls'
  obtain ⟨rfl, rfl⟩ := polls'.unique polls
  have htree : tree = ⟨o'.result, o'.request, (o'.state, qs'), o'.events ++ lines⟩ := htree
  have hflat : flat = ⟨o'.result, o'.request, (o'.state, qs'), o'.events ++ lines'⟩ := hflat
  refine ⟨?_, ?_, ⟨o'.events, lines, lines', ?_⟩, ?_, ?_⟩
  · rw [htree, hflat]
    exact ⟨rfl, rfl, rfl⟩
  · rw [htree]
    exact polls.inTurn
  · rw [htree, hflat]
    exact ⟨rfl, rfl, closing, closing'⟩
  · exact widens_ask h.listening_widens response supportsRetry handler r (s, [])
  · exact widens_ask h.listening_widens response supportsRetry handler.flat r (s, [])

end Engine

end Redial
