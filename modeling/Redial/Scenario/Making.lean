import Redial.Factory
import Redial.Scenario.Session

/-! # Factories, scripted

    Calls of a factory with arguments in order, which may be too few or too many.  A
    call that fits makes a request, which may be executed at once. -/

namespace Redial.Scenario

/-! ## Section 1: Calls -/

/-- The operations of a factory. -/
inductive FactoryVerb where
  | get | post | put | delete | head | patch
  /-- Makes a request with any method. -/
  | any
  deriving DecidableEq

namespace FactoryVerb

/-- The name of an operation. -/
def name : FactoryVerb → String
  | get => "build_get_request"
  | post => "build_post_request"
  | put => "build_put_request"
  | delete => "build_delete_request"
  | head => "build_head_request"
  | patch => "build_patch_request"
  | any => "build_request"

/-- What an operation must be given. -/
def required : FactoryVerb → List String
  | any => ["method", "url"]
  | _ => ["url"]

/-- Whether an operation may be given a content, too. -/
def takesContent (v : FactoryVerb) : Bool := [post, put, patch, any].contains v

/-- An operation must be given what it requires, and at most a content more. -/
def checkCount (v : FactoryVerb) (given : Nat) : Except Fault Unit :=
  let least := v.required.length
  let most := least + if v.takesContent then 1 else 0
  if given < least then
    .error (.missingArguments ("HttpRequestFactory." ++ v.name) (v.required.drop given))
  else if most < given then
    .error (.tooManyArguments ("HttpRequestFactory." ++ v.name) least most given)
  else .ok ()

end FactoryVerb

/-- An argument of an operation. -/
inductive FactoryArgument where
  | value (v : Value)
  | content (spec : ContentSpec)

/-- A call of a factory. -/
structure FactoryCall where
  verb : FactoryVerb
  arguments : List FactoryArgument

/-- What a factory does to every new request. -/
inductive InitializerSpec where
  | none
  | config (fields : List (String × Value))
  /-- Reports the request and takes actions on it. -/
  | actions (actions : List Action)

/-! ## Section 2: Steps -/

/-- Makes an initializer. -/
def makeInitializer : InitializerSpec → Except Fault (Option (Hook World Unit))
  | .none => .ok none
  | .config fields => do
    let c ← Config.make fields
    return some c.apply
  | .actions actions => .ok <| some do
    let r ← Run.request
    Run.emit (.seen (.prepared r.method r.url))
    actAll actions

/-- Makes the contents among arguments. -/
def makeArguments : List FactoryArgument → Hook World (List Value × Option Content)
  | [] => return ([], none)
  | .value v :: rest => do
    let (values, content) ← makeArguments rest
    return (v :: values, content)
  | .content spec :: rest => do
    let w ← Run.state
    let (content, w) ← Run.lift (w.makeContent spec)
    Run.setState w
    let (values, _) ← makeArguments rest
    return (.nothing :: values, some content)

/-- Calls a factory.  The contents are made before the arguments are counted. -/
def callFactory (f : Factory World) (call : FactoryCall) : Hook World Unit := do
  let (values, content) ← makeArguments call.arguments
  Run.lift (call.verb.checkCount values.length)
  let first := values.headD .nothing
  match call.verb with
  | .get => f.get first
  | .post => f.post first content
  | .put => f.put first content
  | .delete => f.delete first
  | .head => f.head first
  | .patch => f.patch first content
  | .any => do
    let method ← Run.lift (Request.readMethod first)
    f.build method (values.tail.headD .nothing) content

/-- Calls a factory and perhaps executes the request; answers the request as it was made. -/
def factoryStep (u : Setup) (f : Factory World) (executes : Bool) (call : FactoryCall) :
    Run (Event Float) World (Request × Option (Except Fault Reply)) := do
  Run.ofHook (callFactory f call)
  let r ← Run.request
  if executes then
    let result ← Run.capture (fun _ => true) (u.step .execute)
    return (r, some result)
  else return (r, none)

/-- Makes a factory and calls it. -/
def playFactory (debug : Bool) (transport : TransportSpec) (spec : InitializerSpec)
    (executes : Bool) (calls : List FactoryCall) :
    Except Fault
      (List (Outcome (Event Float) World (Request × Option (Except Fault Reply)))) := do
  let initializer ← makeInitializer spec
  let setup : Setup := ⟨debug, transport, ⟨false, none⟩, none⟩
  let r := Request.make "GET" (.text "") none Headers.empty
  return Run.trail (factoryStep setup ⟨initializer⟩ executes) r (World.initial 0) calls

end Redial.Scenario
