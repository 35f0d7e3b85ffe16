import Redial.Number.Basic

/-! # Backoff policies

    A policy says which status codes require a pause before the next attempt and how
    long the pause is, in milliseconds.  The answer `-1` refuses any further pause. -/

namespace Redial.Backoff

variable {R : Type}

/-- The answer by which a policy refuses a pause. -/
def stop : Number R := .whole (-1)

end Redial.Backoff
