import Redial.Engine.Hooks
import Redial.Url.Reference

/-! # Following redirects

    A redirect response with a location moves the request there.  Headers that were
    meant for the previous target are dropped, and a `POST` that is answered with 303
    becomes a `GET` without content.  A redirect that is not followed changes nothing. -/

namespace Redial

/-! ## Section 1: What is stripped -/

/-- Headers that are dropped before a redirect is followed. -/
def strippedFields : List Field := [
  .authorization, .ifMatch, .ifNoneMatch, .ifModifiedSince, .ifUnmodifiedSince, .ifRange]

/-- Without the headers that were meant for the previous target. -/
def Headers.stripped (h : Headers) : Headers :=
  strippedFields.foldl (fun h f => h.eraseField f) h

/-! ## Section 2: Where a redirect leads -/

/-- The URL that a location names, seen from what stands for the current URL.  Only a
    location that is not absolute needs that to be a text. -/
def resolveFrom (current : Value) (location : String) : Except Fault String :=
  match current with
  | .text url => (resolveLocation url location).mapError .url
  | v => do
    let l ← (Url.parse location.toList).mapError .url
    if l.isAbsolute then return location else .error (.notAUrl v)

/-- The URL that what stands for a location names. -/
def resolveAny (current : Value) : Value → Except Fault String
  | .text location => resolveFrom current location
  | v => .error (.notAUrl v)

namespace Request

/-- Where a response sends the request, if it is a redirect that the request follows. -/
def redirectTarget (r : Request) (status : Int) (headers : Headers) :
    Except Fault (Option String) :=
  match headers.field? .location with
  | none => .ok none
  | some location =>
    if r.followRedirects.isSet && Status.isRedirect status then
      (resolveFrom r.url location).map some
    else .ok none

/-! ## Section 3: Following it -/

/-- Whether a redirect turns the request into a `GET` without content. -/
def losesContent (r : Request) (status : Int) : Bool :=
  status == Status.seeOther && r.method == "POST"

/-- The request moved to its new target. -/
def redirected (r : Request) (status : Int) (target : String) : Request :=
  { r with
    url := .text target
    method := if r.losesContent status then "GET" else r.method
    content := if r.losesContent status then none else r.content
    headers := r.headers.stripped }

end Request

/-- Follows a redirect response; answers whether the request was moved. -/
def followRedirect {σ : Type} (debug : Bool) (status : Int) (headers : Headers) :
    Run Note σ Bool := do
  let r ← Run.request
  match ← Run.lift (r.redirectTarget status headers) with
  | none => return false
  | some target =>
    Run.log debug .redirect
      (r.method ++ " request to " ++ r.url.plain ++ " redirected (" ++ toString status ++ ") to "
        ++ target)
    Run.setRequest (r.redirected status target)
    return true

end Redial
