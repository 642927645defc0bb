import TemplateShare.DocumentId
import TemplateShare.Endpoint
import TemplateShare.Wire

/-! # Links

A link either names a document in the store (`?dt=id`) or carries one whole document of the short
form (`?data=…&template=…&vars=…`, each in Base64). The case of the letters of a key does not
count, and of a key that comes again the last value counts.

* **`Link.Target`**, **`Link.parse`**: what a link leads to.
* **`Link.remote`**, **`Link.inline`**: the links, on a base URL. -/

namespace TemplateShare.Link

/-- **What a link leads to.** -/
inductive Target where
  | remote (id : String)
  | inline (dt : DataTemplate)
deriving DecidableEq, Repr

/-! ## Reading -/

/-- A key in lower case. -/
def lowerKey (key : String) : String := String.ofList (key.toList.map Char.toLower)

/-- **The entries of a link.** A text that is no URL is a query, with or without its mark. -/
def entries (link : String) : Except EncodingError (List (String × String)) :=
  let lower (u : Url) : List (String × String) := u.queryPairs.map fun (k, v) => (lowerKey k, v)
  match Url.parse link with
  | .ok u => .ok (lower u)
  | .error _ =>
    let query := String.ofList (link.toList.dropWhile (· == '?'))
    match Url.parse ("http://localhost/?" ++ query) with
    | .ok u => .ok (lower u)
    | .error _ => .error (.malformed .unreadable)

/-- The last value of a key. -/
def value? (es : List (String × String)) (key : String) : Option String := es.reverse.lookup key

/-- A text that a link carries. Blanks stand for `+`, which is a blank in a query. -/
def textEntry (es : List (String × String)) (key : String) : Except EncodingError String :=
  Wire.decodeField key (Text.replaceChar ' ' "+" ((value? es key).getD ""))

/-- The keys of the texts that a link carries. -/
def textKeys : List String := ["data", "template", "vars"]

/-- **The document that a link carries.** -/
def inlineOf (es : List (String × String)) : Except EncodingError DataTemplate := do
  if textKeys.all fun k => (value? es k).isNone then throw (EncodingError.malformed .emptyLink)
  let data ← textEntry es "data"
  let vars ← textEntry es "vars"
  return .single data vars (← textEntry es "template")

/-- **What a link leads to.** A link may be a URL, a query or an id alone. -/
def parse (link : String) : Except Error Target :=
  let link := Text.trim link
  if DocumentId.isValid link then .ok (.remote link)
  else
    match entries link with
    | .error e => .error (.encoding e)
    | .ok es =>
      match value? es "dt" with
      | some id =>
        if DocumentId.isValid id then .ok (.remote id)
        else .error (.validation (.invalidRemoteId id))
      | none => (liftEncoding (inlineOf es)).map .inline

/-! ## Writing -/

/-- **The link to a document in the store.** -/
def remote (base id : String) : Except Error String := do
  liftValidation (DocumentId.check id)
  return ((← Endpoint.serverUrl base).withPairs [("dt", id)]).text

/-- The entries that carry a document of the short form. -/
def inlineEntries (dt : DataTemplate) : List (String × String) :=
  [("data", Wire.encodeField dt.activeBuffers.data),
    ("template", Wire.encodeField (Wire.expandTabs dt.template)),
    ("vars", Wire.encodeField (Wire.expandTabs dt.activeBuffers.vars))]

/-- **The link that carries a document**, which has to have the short form. -/
def inline (base : String) (dt : DataTemplate) : Except Error String :=
  if dt.isSingle then do return ((← Endpoint.serverUrl base).withPairs (inlineEntries dt)).text
  else .error (.validation .notInlinable)

/-- Keys in lower case stay as they are. -/
theorem lowerKey_of_mem_textKeys {key : String} (h : key ∈ textKeys) : lowerKey key = key := by
  simp only [textKeys, List.mem_cons, List.not_mem_nil, or_false] at h
  rcases h with rfl | rfl | rfl <;> decide

end TemplateShare.Link
