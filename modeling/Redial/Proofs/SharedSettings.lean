import Redial.Config
import Redial.Proofs.Outcome

/-! # Shared settings on a request

    Settings that are shared are given to a request one after the other, in a fixed
    order, and two of them can be refused: the retry budget, which comes first, and the
    logging limit, which comes ninth.  Nothing is taken back.  So a request is left
    with all of the settings, as it was, or with the first eight of them.

    A set of settings is checked as a whole when it is built, and again when another one
    is merged from it, but not when a field is assigned.  What was checked, and whose two
    numbers were not assigned since, is given completely. -/

namespace Redial

/-! ## Section 1: Numbers that may not be negative -/

namespace Value

/-- The value is taken for a number that may not be negative.  A real that compares with
    no number is not below zero, and is taken. -/
structure Counts (v : Value) (n : Number Float) : Prop where
  number : v.number? = some n
  nonneg : n.isNegative = false

/-- The value is refused for a number of this name, with this fault. -/
inductive Refused (name : String) (v : Value) : Fault → Prop where
  | negative {n : Number Float} (number : v.number? = some n) (below : n.isNegative = true) :
      Refused name v (.belowZero name n.text)
  | unordered (number : v.number? = none) : Refused name v (.notOrdered "<" v.kindName "int")

theorem Counts.not_refused {v : Value} {n : Number Float} (hv : v.Counts n) {name : String}
    {f : Fault} : ¬ v.Refused name f := by
  intro hrefused
  cases hrefused with
  | negative number below =>
    obtain rfl := Option.some.inj (hv.number.symm.trans number)
    rw [hv.nonneg] at below
    exact absurd below nofun
  | unordered number =>
    rw [hv.number] at number
    exact absurd number nofun

end Value

section checks

variable {name : String} {v : Value} {f : Fault} {r' : Request}

/-- The check answers by what the value is. -/
theorem checkNonNegative_cases (name : String) (v : Value) :
    (∃ n, checkNonNegative name v = .ok n ∧ v.Counts n) ∨
      ∃ f, checkNonNegative name v = .error f ∧ v.Refused name f := by
  unfold checkNonNegative
  split
  · next n hnumber =>
    by_cases hbelow : n.isNegative = true
    · rw [if_pos hbelow]
      exact .inr ⟨_, rfl, .negative hnumber hbelow⟩
    · rw [if_neg hbelow]
      exact .inl ⟨n, rfl, hnumber, Bool.eq_false_iff.mpr hbelow⟩
  · next hnumber => exact .inr ⟨_, rfl, .unordered hnumber⟩

theorem counts_of_checkNonNegative {n : Number Float} (h : checkNonNegative name v = .ok n) :
    v.Counts n := by
  rcases checkNonNegative_cases name v with ⟨m, hok, hcounts⟩ | ⟨g, herror, -⟩
  · rwa [← Except.ok.inj (hok.symm.trans h)]
  · exact absurd (herror.symm.trans h) nofun

/-- An assignment of a number that may not be negative: it is put in place, -/
theorem counts_of_set {put : Number Float → Request}
    (h : (do let n ← checkNonNegative name v; return put n) = Except.ok r') :
    ∃ n, v.Counts n ∧ r' = put n := by
  obtain ⟨n, hcheck, hput⟩ := ok_of_bind h
  cases hput
  exact ⟨n, counts_of_checkNonNegative hcheck, rfl⟩

/-- or it is refused. -/
theorem refused_of_set {put : Number Float → Request}
    (h : (do let n ← checkNonNegative name v; return put n) = Except.error f) :
    v.Refused name f := by
  rcases checkNonNegative_cases name v with ⟨n, hok, -⟩ | ⟨g, herror, hrefused⟩
  · rw [hok] at h
    cases h
  · rw [herror] at h
    cases h
    exact hrefused

end checks

/-! ## Section 2: One setting after the other -/

namespace Config

/-- Gives a request one of the settings. -/
def give (c : Config) (r : Request) : Setting → Except Fault Request
  | .retries => r.setRetries c.retries
  | .policy => .ok { r with policy := c.policy }
  | .handler => .ok { r with handler := c.handler }
  | .followRedirects => .ok { r with followRedirects := c.followRedirects }
  | .retryOnFailure => .ok { r with retryOnFailure := c.retryOnFailure }
  | .raiseOnError => .ok { r with raiseOnError := c.raiseOnError }
  | .suppressSuffix => .ok { r with suppressSuffix := c.suppressSuffix }
  | .compress => .ok { r with compress := c.compress }
  | .loggingLimit => r.setLoggingLimit c.loggingLimit
  | .logging => .ok { r with logging := c.logging }
  | .callbacks => .ok { r with callbacks := c.callbacks }

/-- Gives a request several settings in order, up to the first that it refuses. -/
def giveAll (c : Config) (r : Request) : List Setting → Except Fault Unit × Request
  | [] => (.ok (), r)
  | s :: rest =>
    match c.give r s with
    | .error f => (.error f, r)
    | .ok r => c.giveAll r rest

/-- Applying shared settings gives them all. -/
theorem applyTo_eq_giveAll (c : Config) (r : Request) :
    c.applyTo r = c.giveAll r Setting.all := by
  simp only [applyTo, Setting.all, giveAll, give, Request.setRetries, Request.setLoggingLimit]
  cases checkNonNegative Setting.retries.name c.retries with
  | error f => rfl
  | ok retries =>
    cases checkNonNegative Setting.loggingLimit.name c.loggingLimit with
    | error f => rfl
    | ok limit => rfl

variable {c : Config} {r r' : Request} {f : Fault}

/-- Only the two numbers can be refused. -/
theorem refused_of_give {s : Setting} (h : c.give r s = .error f) :
    (s = .retries ∧ c.retries.Refused Setting.retries.name f) ∨
      (s = .loggingLimit ∧ c.loggingLimit.Refused Setting.loggingLimit.name f) := by
  cases s with
  | retries => exact .inl ⟨rfl, refused_of_set h⟩
  | loggingLimit => exact .inr ⟨rfl, refused_of_set h⟩
  | _ => exact absurd h nofun

/-- What is given goes on where it went through so far. -/
theorem giveAll_cons_ok {s : Setting} {rest : List Setting} :
    c.giveAll r (s :: rest) = (.ok (), r') ↔
      ∃ given, c.give r s = .ok given ∧ c.giveAll given rest = (.ok (), r') := by
  cases hgive : c.give r s with
  | error f => simp [giveAll, hgive]
  | ok given => simp [giveAll, hgive]

theorem giveAll_append_ok {ss others : List Setting}
    (h : c.giveAll r (ss ++ others) = (.ok (), r')) :
    ∃ given, c.giveAll r ss = (.ok (), given) ∧ c.giveAll given others = (.ok (), r') := by
  induction ss generalizing r with
  | nil => exact ⟨r, rfl, h⟩
  | cons s ss ih =>
    obtain ⟨first, hfirst, hrest⟩ := giveAll_cons_ok.mp h
    obtain ⟨given, hgiven, hothers⟩ := ih hrest
    exact ⟨given, giveAll_cons_ok.mpr ⟨first, hfirst, hgiven⟩, hothers⟩

/-- Where a setting is refused, all settings before it have been given, and no other. -/
theorem giveAll_error {ss : List Setting} (h : c.giveAll r ss = (.error f, r')) :
    ∃ before s after, ss = before ++ s :: after ∧ c.giveAll r before = (.ok (), r') ∧
      c.give r' s = .error f := by
  induction ss generalizing r with
  | nil => cases h
  | cons s rest ih =>
    unfold giveAll at h
    cases hgive : c.give r s with
    | error g =>
      rw [hgive] at h
      cases h
      exact ⟨[], s, rest, rfl, rfl, hgive⟩
    | ok given =>
      rw [hgive] at h
      obtain ⟨before, s', after, rfl, hbefore, hrefused⟩ := ih h
      exact ⟨s :: before, s', after, rfl, giveAll_cons_ok.mpr ⟨given, hgive, hbefore⟩, hrefused⟩

end Config

/-! ## Section 3: What a request is left with -/

namespace Setting

/-- The settings that come before the logging limit. -/
def early : List Setting := [
  .retries, .policy, .handler, .followRedirects, .retryOnFailure, .raiseOnError, .suppressSuffix,
  .compress]

theorem all_eq : all = early ++ [.loggingLimit, .logging, .callbacks] := rfl

/-- A setting has one place in the order. -/
theorem eq_takeWhile {before after : List Setting} {s : Setting}
    (h : all = before ++ s :: after) : before = all.takeWhile (· != s) := by
  have hnodup : (before ++ s :: after).Nodup := h ▸ by decide
  have hbefore : ∀ t ∈ before, (t != s) = true := by
    intro t ht
    exact bne_iff_ne.mpr ((List.nodup_append.mp hnodup).2.2 t ht s List.mem_cons_self)
  rw [h, List.takeWhile_append_of_pos hbefore, List.takeWhile_cons_of_neg (by simp),
    List.append_nil]

end Setting

namespace Config

variable {c : Config} {r r' : Request} {f : Fault}

/-- A request that was given the settings before the logging limit. -/
def begun (c : Config) (retries : Number Float) (r : Request) : Request :=
  { r with
    retries := retries
    policy := c.policy
    handler := c.handler
    followRedirects := c.followRedirects
    retryOnFailure := c.retryOnFailure
    raiseOnError := c.raiseOnError
    suppressSuffix := c.suppressSuffix
    compress := c.compress }

theorem of_giveAll_early (h : c.giveAll r Setting.early = (.ok (), r')) :
    ∃ retries, c.retries.Counts retries ∧ r' = c.begun retries r := by
  obtain ⟨given, hretries, hothers⟩ := giveAll_cons_ok.mp h
  obtain ⟨retries, hcounts, rfl⟩ := counts_of_set hretries
  -- nothing else among them can be refused
  cases hothers
  exact ⟨retries, hcounts, rfl⟩

/-- Where all were given, both numbers counted. -/
theorem of_applyTo_ok (h : c.applyTo r = (.ok (), r')) :
    ∃ retries limit, c.retries.Counts retries ∧ c.loggingLimit.Counts limit ∧
      r' = { c.begun retries r with
        loggingLimit := limit, logging := c.logging, callbacks := c.callbacks } := by
  rw [applyTo_eq_giveAll, Setting.all_eq] at h
  obtain ⟨given, hearly, hlate⟩ := giveAll_append_ok h
  obtain ⟨retries, hretries, rfl⟩ := of_giveAll_early hearly
  obtain ⟨given, hlimit, hothers⟩ := giveAll_cons_ok.mp hlate
  obtain ⟨limit, hcounts, rfl⟩ := counts_of_set hlimit
  cases hothers
  exact ⟨retries, limit, hretries, hcounts, rfl⟩

/-- Where one was refused, it was one of the two numbers, and what comes before it has
    been given. -/
theorem of_applyTo_error (h : c.applyTo r = (.error f, r')) :
    (c.retries.Refused Setting.retries.name f ∧ r' = r) ∨
      ∃ retries, c.retries.Counts retries ∧
        c.loggingLimit.Refused Setting.loggingLimit.name f ∧ r' = c.begun retries r := by
  rw [applyTo_eq_giveAll] at h
  obtain ⟨before, s, after, hall, hbefore, hgive⟩ := giveAll_error h
  rw [Setting.eq_takeWhile hall] at hbefore
  rcases refused_of_give hgive with ⟨rfl, hrefused⟩ | ⟨rfl, hrefused⟩
  · cases hbefore
    exact .inl ⟨hrefused, rfl⟩
  · obtain ⟨retries, hcounts, rfl⟩ := of_giveAll_early hbefore
    exact .inr ⟨retries, hcounts, hrefused, rfl⟩

/-! ## Section 4: Settings that were checked -/

/-- Settings whose two numbers were not assigned since they were checked. -/
inductive Checked : Config → Prop where
  /-- They were built, -/
  | built {fields : List (String × Value)} {c : Config} (made : make fields = .ok c) : Checked c
  /-- or merged from any others, which may be unchecked. -/
  | merged {base c : Config} {fields : List (String × Value)} (made : base.merge fields = .ok c) :
      Checked c
  /-- Other fields of them may have been assigned. -/
  | assigned {base c : Config} (before : Checked base) (retries : c.retries = base.retries)
      (limit : c.loggingLimit = base.loggingLimit) : Checked c

/-- What is replaced is checked. -/
theorem counts_of_replace {base : Config} {fields : List (String × Value)}
    (h : base.replace fields = .ok c) :
    (∃ retries, c.retries.Counts retries) ∧ ∃ limit, c.loggingLimit.Counts limit := by
  obtain ⟨assignments, -, h⟩ := ok_of_bind h
  obtain ⟨_, hcheck, h⟩ := ok_of_bind h
  cases h
  obtain ⟨retries, hretries, hcheck⟩ := ok_of_bind hcheck
  obtain ⟨limit, hlimit, -⟩ := ok_of_bind hcheck
  exact ⟨⟨retries, counts_of_checkNonNegative hretries⟩, limit, counts_of_checkNonNegative hlimit⟩

theorem Checked.counts (hc : c.Checked) :
    (∃ retries, c.retries.Counts retries) ∧ ∃ limit, c.loggingLimit.Counts limit := by
  induction hc with
  | built made => exact counts_of_replace made
  | merged made => exact counts_of_replace made
  | assigned before retries limit ih =>
    rw [retries, limit]
    exact ih

/-! ## Section 5: Applying shared settings -/

/-- Shared settings, whatever was assigned to their fields, are applied completely exactly
    if both numbers count as such; then the request has all eleven, and nothing else has
    changed.  Otherwise the first of the two that is refused says why.  The budget is
    refused before the request is touched.  The logging limit is refused after the eight
    settings before it were given, and the request keeps these and is otherwise as it was.
    Settings whose numbers were not assigned since they were checked are always applied
    completely. -/
theorem applyTo_stops_at_refused (c : Config) (r : Request) :
    let o := c.applyTo r
    (o.1 = .ok () ↔
      (∃ retries, c.retries.Counts retries) ∧ ∃ limit, c.loggingLimit.Counts limit) ∧
    (o.1 = .ok () → ∃ retries limit,
      c.retries.Counts retries ∧ c.loggingLimit.Counts limit ∧ o.2 = { r with
        retries := retries
        policy := c.policy
        handler := c.handler
        followRedirects := c.followRedirects
        retryOnFailure := c.retryOnFailure
        raiseOnError := c.raiseOnError
        suppressSuffix := c.suppressSuffix
        compress := c.compress
        loggingLimit := limit
        logging := c.logging
        callbacks := c.callbacks }) ∧
    (∀ f, o.1 = .error f →
      (c.retries.Refused "number_of_retries" f ∧ o.2 = r) ∨
      ∃ retries, c.retries.Counts retries ∧
        c.loggingLimit.Refused "content_logging_limit" f ∧ o.2 = { r with
          retries := retries
          policy := c.policy
          handler := c.handler
          followRedirects := c.followRedirects
          retryOnFailure := c.retryOnFailure
          raiseOnError := c.raiseOnError
          suppressSuffix := c.suppressSuffix
          compress := c.compress }) ∧
    (c.Checked → o.1 = .ok ()) := by
  intro o
  have hcomplete : (∃ retries, c.retries.Counts retries) ∧ (∃ limit, c.loggingLimit.Counts limit) →
      o.1 = .ok () := by
    rintro ⟨⟨retries, hretries⟩, limit, hlimit⟩
    cases hresult : o.1 with
    | ok _ => rfl
    | error f =>
      rcases of_applyTo_error (Prod.ext hresult rfl) with ⟨hrefused, -⟩ | ⟨-, -, hrefused, -⟩
      · exact absurd hrefused hretries.not_refused
      · exact absurd hrefused hlimit.not_refused
  refine ⟨⟨fun hok => ?_, hcomplete⟩, fun hok => of_applyTo_ok (Prod.ext hok rfl),
    fun f herror => of_applyTo_error (Prod.ext herror rfl), fun hc => hcomplete hc.counts⟩
  obtain ⟨retries, limit, hretries, hlimit, -⟩ := of_applyTo_ok (Prod.ext hok rfl)
  exact ⟨⟨retries, hretries⟩, limit, hlimit⟩

/-- Settings that were built can be made to break off by an assignment.  With a logging
    limit below zero they fail, and the request does not follow redirects any more.  With
    a budget that is a text they fail, and not over a number below zero. -/
theorem applyTo_breaks_off :
    let r := Request.make "GET" (.text "http://a/") none Headers.empty
    ∃ c, Config.make [("follow_redirects", .bool false)] = .ok c ∧
      ((c.assign .loggingLimit (.int (-4))).applyTo r).1 =
        .error (.belowZero "content_logging_limit" "-4") ∧
      ((c.assign .loggingLimit (.int (-4))).applyTo r).2 =
        { r with followRedirects := .bool false } ∧
      ((c.assign .loggingLimit (.int (-4))).applyTo r).2 ≠ r ∧
      ∃ f, ((c.assign .retries (.text "3")).applyTo r).1 = .error f ∧
        ∀ name got, f ≠ .belowZero name got := by
  refine ⟨_, rfl, rfl, rfl, fun hsame => ?_, _, rfl, nofun⟩
  have hfollows := congrArg (fun r : Request => r.followRedirects.isSet) hsame
  exact absurd hfollows (by decide)

end Config

end Redial
