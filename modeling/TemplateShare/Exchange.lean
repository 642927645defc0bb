import TemplateShare.Text.Blank
import TemplateShare.Text.Unprintable
import TemplateShare.Text.Utf8

/-! # Requests and responses

How a client talks to the store:

    GET  /document/{id}           the document           200 | 401 | 403 | 404
    POST /document                a new document         200 with its id
    POST /document/{id}?rev={n}   a new revision         200 with its id and hash | 401 | 409

* **`Request`**, **`Response`**, **`TransportError`**: what is exchanged.
* **`documentPath`**: where a document lies.
* **`Header`**: the names of the headers that matter. -/

namespace TemplateShare

/-! ## Headers -/

namespace Header

/-- The password that a request presents. -/
def password : String := "X-Dt-Password"

/-- The password for opening that a request sets. -/
def openPassword : String := "X-Dt-Open-Password"

/-- The password for modifying that a request sets. -/
def modifyPassword : String := "X-Dt-Modify-Password"

/-- The revision that a request is to become. -/
def revision : String := "X-Dt-Revision"

/-- The format of the body. -/
def contentType : String := "Content-Type"

/-- How the body is packed. -/
def contentEncoding : String := "Content-Encoding"

/-- **Equal names** differ at most in the case of their ASCII letters. -/
def same (a b : String) : Bool := a.toList.map Char.toLower == b.toList.map Char.toLower

/-- The headers whose values no log may show. -/
def secrets : List String := [password, openPassword, modifyPassword]

@[simp] theorem same_self (a : String) : same a a = true := by simp [same]

end Header

/-- **Where a document lies**; without an id, where new documents go. -/
def documentPath : Option String → String
  | some id => "/document/" ++ id
  | none => "/document"

/-! ## Requests -/

/-- The methods of requests. -/
inductive Method where
  | get
  | post
deriving DecidableEq, Repr

/-- The name of a method in a request. -/
def Method.name : Method → String
  | .get => "GET"
  | .post => "POST"

/-- **A request.** Query and headers are in order and may repeat a key. -/
structure Request where
  method : Method
  path : String
  query : List (String × String) := []
  headers : List (String × String) := []
  body : Bytes := []
deriving DecidableEq, Repr

namespace Request

/-- The value of the first header of a name, in any case of its letters. -/
def header? (r : Request) (name : String) : Option String :=
  (r.headers.find? fun h => Header.same h.1 name).map (·.2)

/-- The value of the first query entry of a key. -/
def query? (r : Request) (key : String) : Option String :=
  (r.query.find? fun q => q.1 == key).map (·.2)

/-- Add a header at the end. -/
def withHeader (r : Request) (name value : String) : Request :=
  { r with headers := r.headers ++ [(name, value)] }

/-- Add a header at the end if there is a value for it. -/
def withOptionalHeader (r : Request) (name : String) : Option String → Request
  | none => r
  | some value => r.withHeader name value

@[simp] theorem withOptionalHeader_none (r : Request) (name : String) :
    r.withOptionalHeader name none = r := rfl

@[simp] theorem path_withHeader (r : Request) (name value : String) :
    (r.withHeader name value).path = r.path := rfl

@[simp] theorem path_withOptionalHeader (r : Request) (name : String) (value : Option String) :
    (r.withOptionalHeader name value).path = r.path := by
  cases value <;> rfl

/-- A pair of texts as a log shows it. -/
def shownPair (p : String × String) : String :=
  "(" ++ Text.escaped p.1 ++ ", " ++ Text.escaped p.2 ++ ")"

/-- A list as a log shows it. -/
def shownList (items : List String) : String := "[" ++ String.intercalate ", " items ++ "]"

/-- A header without a value that is secret. -/
def redact (h : String × String) : String × String :=
  if Header.secrets.any (Header.same h.1) then (h.1, "<redacted>") else h

/-- **How a log shows a request**: without passwords, and of the body only its size. -/
def summary (r : Request) : String :=
  let method := match r.method with
    | .get => "Get"
    | .post => "Post"
  "Request \x7b method: " ++ method ++ ", path: " ++ Text.escaped r.path ++ ", query: " ++
    shownList (r.query.map shownPair) ++ ", headers: " ++
    shownList (r.headers.map fun h => shownPair (redact h)) ++ ", body_len: " ++
    toString r.body.length ++ " \x7d"

end Request

/-! ## Responses -/

/-- **The phrase for a status**, for those that the store is known to answer with. -/
def statusPhrase (status : Nat) : String :=
  match status with
  | 200 => "OK"
  | 400 => "Bad Request"
  | 401 => "Unauthorized"
  | 403 => "Forbidden"
  | 404 => "Not Found"
  | 409 => "Conflict"
  | 413 => "Request Entity Too Large"
  | 429 => "Too Many Requests"
  | 500 => "Internal Server Error"
  | 502 => "Bad Gateway"
  | 503 => "Service Unavailable"
  | 504 => "Gateway Timeout"
  | _ => "Unknown Error"

/-- **A response**, with the phrase that came with the status, if any. -/
structure Response where
  status : Nat
  body : String
  phrase : Option String := none
deriving DecidableEq, Repr

namespace Response

/-- Whether the status means success. -/
def isSuccess (r : Response) : Bool := 200 ≤ r.status && r.status < 300

/-- The phrase that came with the status, or the usual one where that is blank or missing. -/
def reason (r : Response) : String :=
  match r.phrase with
  | some p => if Text.isBlank p then statusPhrase r.status else p
  | none => statusPhrase r.status

end Response

/-- **Why no response came.** -/
inductive TransportError where
  | timeout
  | network (detail : String)
deriving DecidableEq, Repr

/-- The wording of a failed exchange. -/
def TransportError.message : TransportError → String
  | .timeout => "Request Timed Out"
  | .network detail => "Network Error: " ++ detail

/-- What becomes of a request. -/
abbrev Reply := Except TransportError Response

end TemplateShare
