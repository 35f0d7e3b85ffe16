import Redial.Config
import Redial.Engine.Hooks

/-! # Factories

    A factory makes requests for one transport and prepares each with its initializer. -/

namespace Redial

/-! ## Section 1: Factories -/

/-- A factory of requests. -/
structure Factory (σ : Type) where
  /-- Applied to every new request. -/
  initializer : Option (Hook σ Unit)

namespace Factory

variable {σ : Type}

/-- Makes a request and prepares it.  The request of the run becomes the new one. -/
def build (f : Factory σ) (method : String) (url : Value) (content : Option Content) :
    Hook σ Unit := do
  Run.setRequest (Request.make method url content (Headers.initial (.text "gzip")))
  match f.initializer with
  | none => return ()
  | some prepare => prepare

/-! ## Section 2: Requests by their methods -/

/-- Makes a `GET` request. -/
def get (f : Factory σ) (url : Value) : Hook σ Unit := f.build "GET" url none

/-- Makes a `POST` request. -/
def post (f : Factory σ) (url : Value) (content : Option Content) : Hook σ Unit :=
  f.build "POST" url content

/-- Makes a `PUT` request. -/
def put (f : Factory σ) (url : Value) (content : Option Content) : Hook σ Unit :=
  f.build "PUT" url content

/-- Makes a `DELETE` request. -/
def delete (f : Factory σ) (url : Value) : Hook σ Unit := f.build "DELETE" url none

/-- Makes a `HEAD` request. -/
def head (f : Factory σ) (url : Value) : Hook σ Unit := f.build "HEAD" url none

/-- Makes a `PATCH` request. -/
def patch (f : Factory σ) (url : Value) (content : Option Content) : Hook σ Unit :=
  f.build "PATCH" url content

/-- The listing of a factory, given that of its transport. -/
def listing (transport : String) : String := "HttpRequestFactory(transport=" ++ transport ++ ")"

end Factory

/-- Applies shared settings to the request of a run. -/
def Config.apply {σ : Type} (c : Config) : Hook σ Unit := do
  let r ← Run.request
  let (result, r) := c.applyTo r
  Run.setRequest r
  Run.lift result

end Redial
