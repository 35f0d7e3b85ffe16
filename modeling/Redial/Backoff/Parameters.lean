import Redial.Backoff.Policy

/-! # Parameters given as open values

    Policies made from values of any kind, by the names of the parameters.  A value that
    is no number fails at the first comparison it is needed for, in the order in which
    the parameters are checked. -/

namespace Redial.Backoff

/-! ## Section 1: Single parameters -/

/-- Every given name must be known; the first that is not is reported. -/
def checkNames (made : Configured) (known : List String) :
    List (String × Value) → Except Fault Unit
  | [] => .ok ()
  | (name, _) :: rest =>
    if known.contains name then checkNames made known rest
    else .error (.unknownSetting made name)

/-- A parameter that is given, or else assumed. -/
def parameter (given assumed : List (String × Value)) (name : String) : Value :=
  ((given.lookup name).or (assumed.lookup name)).getD .nothing

/-- The number that a parameter is, for a comparison that names the kind on its left and on
    its right. -/
def comparable (relation : String) (left right : String) (v : Value) :
    Except Fault (Number Float) :=
  match v.number? with
  | some n => .ok n
  | none => .error (.notOrdered relation left right)

/-- The number that a parameter is, for a comparison with an integer on its right. -/
def comparableLeft (relation : String) (v : Value) : Except Fault (Number Float) :=
  comparable relation v.kindName "int" v

/-! ## Section 2: Policies -/

namespace Constant

/-- The parameters that are assumed. -/
def assumed : List (String × Value) := [
  ("delay_millis", .number defaultDelay), ("max_attempts", .nothing),
  ("status_codes", codesOf defaultCodes)]

/-- The policy with the given parameters. -/
def ofNamed (given : List (String × Value)) : Except Fault (Constant Float) := do
  checkNames .constantPolicy (assumed.map Prod.fst) given
  let codes := parameter given assumed "status_codes"
  let delay ← comparableLeft "<" (parameter given assumed "delay_millis")
  let p ← (make delay none codes).mapError .parameter
  match parameter given assumed "max_attempts" with
  | .nothing => return p
  | v =>
    let quota ← comparableLeft "<" v
    (make delay (some quota) codes).mapError .parameter

end Constant

namespace Exponential

/-- The parameters that are assumed. -/
def assumed : List (String × Value) := [
  ("initial_interval_millis", .int 500), ("randomization_factor", .number (.real 0.5)),
  ("multiplier", .number (.real 1.5)), ("max_interval_millis", .int 60000),
  ("max_elapsed_time_millis", .int 900000), ("status_codes", codesOf defaultCodes)]

/-- The policy with the given parameters, made at the given time. -/
def ofNamed (given : List (String × Value)) (now : Float) : Except Fault (Exponential Float) := do
  checkNames .exponentialPolicy (assumed.map Prod.fst) given
  let value := parameter given assumed
  let kind (name : String) : String := (value name).kindName
  let initial ← comparableLeft "<=" (value "initial_interval_millis")
  (checkInitial initial).mapError .parameter
  let factor ←
    comparable "<=" "int" (kind "randomization_factor") (value "randomization_factor")
  (checkFactor factor).mapError .parameter
  let multiplier ← comparableLeft "<" (value "multiplier")
  (checkMultiplier multiplier).mapError .parameter
  let cap ← comparable "<" (kind "max_interval_millis") (kind "initial_interval_millis")
    (value "max_interval_millis")
  (checkCap initial cap).mapError .parameter
  let limit ← comparableLeft "<=" (value "max_elapsed_time_millis")
  (make initial factor multiplier cap limit (value "status_codes") now).mapError .parameter

end Exponential

end Redial.Backoff
