import Redial.Request

/-! # Shared settings

    A set of settings that is built once and applied to several requests.  It is checked
    when it is built, but its fields can be assigned later without a check, so that
    applying it can fail. -/

namespace Redial

/-! ## Section 1: Settings -/

/-- Settings that are not bound to a request. -/
structure Config where
  retries : Value
  policy : Slot Nat
  handler : Slot Handler
  followRedirects : Value
  retryOnFailure : Value
  raiseOnError : Value
  suppressSuffix : Value
  compress : Value
  loggingLimit : Value
  logging : Value
  callbacks : Slot Callbacks

namespace Config

/-- The settings that are assumed. -/
def default : Config where
  retries := .int defaultRetries
  policy := .empty
  handler := .empty
  followRedirects := .bool true
  retryOnFailure := .bool false
  raiseOnError := .bool true
  suppressSuffix := .bool false
  compress := .bool false
  loggingLimit := .int defaultLoggingLimit
  logging := .bool true
  callbacks := .empty

/-- Assigns a field without any check. -/
def assign (c : Config) (s : Setting) (value : Value) : Config :=
  match s with
  | .retries => { c with retries := value }
  | .policy => { c with policy := .ofValue value }
  | .handler => { c with handler := .ofValue value }
  | .followRedirects => { c with followRedirects := value }
  | .retryOnFailure => { c with retryOnFailure := value }
  | .raiseOnError => { c with raiseOnError := value }
  | .suppressSuffix => { c with suppressSuffix := value }
  | .compress => { c with compress := value }
  | .loggingLimit => { c with loggingLimit := value }
  | .logging => { c with logging := value }
  | .callbacks => { c with callbacks := .ofValue value }

/-- Checks the two settings that may not be negative. -/
def check (c : Config) : Except Fault Unit := do
  let _ ← checkNonNegative Setting.retries.name c.retries
  let _ ← checkNonNegative Setting.loggingLimit.name c.loggingLimit
  return ()

/-- Replaces the named fields and checks the result. -/
def replace (c : Config) (fields : List (String × Value)) : Except Fault Config := do
  let assignments ← Setting.readAll .config fields
  let c := assignments.foldl (fun c a => c.assign a.1 a.2) c
  c.check
  return c

/-- The assumed settings with the named fields. -/
def make (fields : List (String × Value)) : Except Fault Config := default.replace fields

/-! ## Section 2: Merging and applying -/

/-- A new set with the named fields; a field that is given as nothing keeps its value. -/
def merge (c : Config) (fields : List (String × Value)) : Except Fault Config :=
  c.replace (fields.filter fun f => !f.2.isNothing)

/-- Equality of the values of two slots. -/
def sameSlot {α : Type} (same : α → α → Bool) : Slot α → Slot α → Bool
  | .empty, .empty => true
  | .hook a, .hook b => same a b
  | .other v, .other w => v.same w
  | _, _ => false

/-- Equality field by field.  Hooks are equal if they are the same hook. -/
def same (a b : Config) : Bool :=
  a.retries.same b.retries && sameSlot (· == ·) a.policy b.policy
    && sameSlot (fun _ _ => false) a.handler b.handler
    && a.followRedirects.same b.followRedirects && a.retryOnFailure.same b.retryOnFailure
    && a.raiseOnError.same b.raiseOnError && a.suppressSuffix.same b.suppressSuffix
    && a.compress.same b.compress && a.loggingLimit.same b.loggingLimit
    && a.logging.same b.logging && sameSlot (· == ·) a.callbacks b.callbacks

/-- Applies the settings to a request, in order.  The second check comes after eight
    settings have been assigned; a request that fails there keeps these. -/
def applyTo (c : Config) (r : Request) : Except Fault Unit × Request :=
  match checkNonNegative Setting.retries.name c.retries with
  | .error f => (.error f, r)
  | .ok retries =>
    let r := { r with
      retries := retries
      policy := c.policy
      handler := c.handler
      followRedirects := c.followRedirects
      retryOnFailure := c.retryOnFailure
      raiseOnError := c.raiseOnError
      suppressSuffix := c.suppressSuffix
      compress := c.compress }
    match checkNonNegative Setting.loggingLimit.name c.loggingLimit with
    | .error f => (.error f, r)
    | .ok limit =>
      (.ok (), { r with
        loggingLimit := limit
        logging := c.logging
        callbacks := c.callbacks })

end Config

end Redial
