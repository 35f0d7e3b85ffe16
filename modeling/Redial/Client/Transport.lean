import Redial.Client.Message

/-! # The lifetime of a client

    A transport either owns its client, which it opened itself, or uses one that the
    caller keeps.  Only an owned client is closed with the transport; a closed client
    sends nothing. -/

namespace Redial.Client

/-! ## Section 1: Transports -/

/-- A transport and the state of its client. -/
structure Transport where
  owned : Bool
  closed : Bool
  deriving DecidableEq

namespace Transport

/-- The timeout in seconds that is assumed. -/
def defaultTimeout : Float := 10.0

/-- A timeout in parts gives at least those for connecting and for reading. -/
def checkParts : Value → Except Fault Unit
  | .tuple [] => .error .shortTimeout
  | .tuple [_] => .error .shortTimeout
  | _ => .ok ()

/-- Opens a transport.  The timeout is checked even where the caller's client has its own;
    its parts are looked at only where the client is opened. -/
def start (owned : Bool) (timeout : Option Value) : Except Fault Transport := do
  match timeout with
  | none => pure ()
  | some t =>
    checkTimeout t
    if owned then checkParts t
  return ⟨owned, false⟩

/-- Whether the method can be sent at all. -/
def supports (method : String) : Bool := knownMethods.contains method

/-! ## Section 2: Shutdown -/

/-- Whether a shutdown closes the client. -/
def closes (t : Transport) : Bool := t.owned && !t.closed

/-- The state after a shutdown. -/
def shutdown (t : Transport) : Transport := { t with closed := t.closed || t.owned }

/-- A closed client sends nothing. -/
def checkOpen (t : Transport) : Except Fault Unit :=
  if t.closed then .error .clientClosed else .ok ()

/-! ## Section 3: Small laws -/

/-- Nothing is left to close after a shutdown. -/
theorem closes_shutdown (t : Transport) : t.shutdown.closes = false := by
  cases t with
  | mk owned closed => cases owned <;> cases closed <;> rfl

/-- The caller's client stays as it is. -/
theorem shutdown_of_not_owned {t : Transport} (h : t.owned = false) : t.shutdown = t := by
  cases t
  simp_all [shutdown]

end Transport

end Redial.Client
