/-! # Status codes

    The codes that the engine knows by name, and the two classes that decide how a
    response is taken. -/

namespace Redial.Status

/-! ## Section 1: Codes -/

def ok : Int := 200
def noContent : Int := 204
def movedPermanently : Int := 301
def found : Int := 302
def seeOther : Int := 303
def temporaryRedirect : Int := 307
def permanentRedirect : Int := 308
def unauthorized : Int := 401
def forbidden : Int := 403
def notFound : Int := 404
def tooManyRequests : Int := 429
def serverError : Int := 500
def badGateway : Int := 502
def serviceUnavailable : Int := 503
def gatewayTimeout : Int := 504

/-- The codes above by their names. -/
def named : List (String × Int) := [
  ("OK", ok), ("NO_CONTENT", noContent), ("MOVED_PERMANENTLY", movedPermanently),
  ("FOUND", found), ("SEE_OTHER", seeOther), ("TEMPORARY_REDIRECT", temporaryRedirect),
  ("PERMANENT_REDIRECT", permanentRedirect), ("UNAUTHORIZED", unauthorized),
  ("FORBIDDEN", forbidden), ("NOT_FOUND", notFound), ("TOO_MANY_REQUESTS", tooManyRequests),
  ("SERVER_ERROR", serverError), ("BAD_GATEWAY", badGateway),
  ("SERVICE_UNAVAILABLE", serviceUnavailable), ("GATEWAY_TIMEOUT", gatewayTimeout)]

/-! ## Section 2: Classes of codes -/

/-- The codes whose location is followed. -/
def redirects : List Int :=
  [movedPermanently, found, seeOther, temporaryRedirect, permanentRedirect]

/-- A success code: 200 up to 299. -/
def isSuccess (code : Int) : Bool := 200 ≤ code && code < 300

/-- A code whose location is followed. -/
def isRedirect (code : Int) : Bool := redirects.contains code

/-! ## Section 3: Phrases -/

/-- The standard phrase of a code, empty if it has none. -/
def phrase (code : Int) : String :=
  (phrases.lookup code).getD ""
where
  phrases : List (Int × String) := [
    (100, "Continue"), (101, "Switching Protocols"), (102, "Processing"), (103, "Early Hints"),
    (200, "OK"), (201, "Created"), (202, "Accepted"), (203, "Non-Authoritative Information"),
    (204, "No Content"), (205, "Reset Content"), (206, "Partial Content"),
    (207, "Multi-Status"), (208, "Already Reported"), (226, "IM Used"),
    (300, "Multiple Choices"), (301, "Moved Permanently"), (302, "Found"), (303, "See Other"),
    (304, "Not Modified"), (305, "Use Proxy"), (307, "Temporary Redirect"),
    (308, "Permanent Redirect"),
    (400, "Bad Request"), (401, "Unauthorized"), (402, "Payment Required"), (403, "Forbidden"),
    (404, "Not Found"), (405, "Method Not Allowed"), (406, "Not Acceptable"),
    (407, "Proxy Authentication Required"), (408, "Request Timeout"), (409, "Conflict"),
    (410, "Gone"), (411, "Length Required"), (412, "Precondition Failed"),
    (413, "Request Entity Too Large"), (414, "Request-URI Too Long"),
    (415, "Unsupported Media Type"), (416, "Requested Range Not Satisfiable"),
    (417, "Expectation Failed"), (418, "I'm a teapot"), (421, "Misdirected Request"),
    (422, "Unprocessable Entity"), (423, "Locked"), (424, "Failed Dependency"),
    (425, "Too Early"), (426, "Upgrade Required"), (428, "Precondition Required"),
    (429, "Too Many Requests"), (431, "Request Header Fields Too Large"),
    (451, "Unavailable For Legal Reasons"),
    (500, "Internal Server Error"), (501, "Not Implemented"), (502, "Bad Gateway"),
    (503, "Service Unavailable"), (504, "Gateway Timeout"), (505, "HTTP Version Not Supported"),
    (506, "Variant Also Negotiates"), (507, "Insufficient Storage"), (508, "Loop Detected"),
    (510, "Not Extended"), (511, "Network Authentication Required")]

end Redial.Status
