import TemplateShare.Url.Basic

/-! # Reading URLs

A text is read as a URL of its own, or relative to a base. Controls and blanks at the ends of the
text do not count, nor do tabs and line breaks inside of it.

* **`Url.parse`**: a URL of its own.
* **`Url.join`**: a text relative to a base. -/

namespace TemplateShare.Url

/-- The scheme at the start of a text, in lower case, and what stands behind its colon. -/
def scheme? (s : List Char) : Option (List Char × List Char) :=
  let isSchemeChar (c : Char) : Bool := c.isAlphanum || c == '+' || c == '-' || c == '.'
  let name := s.takeWhile isSchemeChar
  match s.dropWhile isSchemeChar with
  | ':' :: r =>
    if name.head?.any Char.isAlpha then some (name.map Char.toLower, r) else none
  | _ => none

/-! ## Query and fragment -/

/-- **Add the query and the fragment** that follow a path. -/
def withRest (u : Url) (s : List Char) : Url :=
  let fragment (s : List Char) : List Char := encodeWith fragmentSet s
  match s with
  | '?' :: s =>
    let set := if u.kind = .other then querySet else specialQuerySet
    let query := encodeWith set (s.takeWhile (· != '#'))
    match s.dropWhile (· != '#') with
    | _ :: f => { u with query := some query, fragment := some (fragment f) }
    | [] => { u with query := some query, fragment := none }
  | '#' :: f => { u with query := none, fragment := some (fragment f) }
  | _ => { u with query := none, fragment := none }

/-! ## Authorities -/

/-- What ends an authority. -/
def endsAuthority (k : Kind) (c : Char) : Bool := k.isSlash c || endsPath c

/-- A user name and a password. -/
def readUserinfo (s : List Char) : List Char × Option (List Char) :=
  let password := (s.dropWhile (· != ':')).drop 1
  (encodeWith userinfoSet (s.takeWhile (· != ':')),
    if password.isEmpty then none else some (encodeWith userinfoSet password))

/-- **The user name and the password** up to the last `@` of an authority, and what follows. -/
def userinfo? (k : Kind) (s : List Char) :
    Except Fault ((List Char × Option (List Char)) × List Char) :=
  let whole := s.takeWhile (!endsAuthority k ·)
  if whole.contains '@' then
    -- The last `@` counts; any before it belongs to the user.
    let info := (whole.reverse.dropWhile (· != '@')).reverse.dropLast
    let rest := s.drop (info.length + 1)
    if info.isEmpty then
      if rest.head?.any (endsAuthority k) then .error .emptyHost else .ok (([], none), rest)
    else .ok (readUserinfo info, rest)
  else .ok (([], none), s)

/-- The text of a host, in which brackets may hold colons, and what follows it. -/
def hostText (k : Kind) (inBrackets : Bool) : List Char → List Char × List Char
  | [] => ([], [])
  | c :: s =>
    if (c == ':' && !inBrackets) || endsAuthority k c then ([], c :: s)
    else
      let inBrackets := if c = '[' then true else if c = ']' then false else inBrackets
      let (host, rest) := hostText k inBrackets s
      (c :: host, rest)

/-- **A port**, and what follows it. No digits stand for none. -/
def port? (s : List Char) : Except Fault (Option Nat × List Char) :=
  let digits := s.takeWhile Char.isDigit
  let rest := s.dropWhile Char.isDigit
  let mayFollow (c : Char) : Bool := c == '/' || c == '\\' || endsPath c
  match Decimal.natural? 10 digits with
  | some n =>
    if 0xFFFF < n ∨ !rest.head?.all mayFollow then .error .port else .ok (some n, rest)
  | none => if rest.head?.all mayFollow then .ok (none, rest) else .error .port

/-- **The host and the port**, and what follows them. -/
def readHostPort (scheme : List Char) (s : List Char) :
    Except Fault (Host × Option Nat × List Char) := do
  let k := kindOf scheme
  let (hostPart, rest) := hostText k false s
  let host ←
    if k = .other then Host.parseOpaque hostPart
    else if hostPart.isEmpty then throw Fault.emptyHost
    else Host.parse hostPart
  match rest with
  | ':' :: rest =>
    if host.isEmpty then throw Fault.emptyHost
    let (port, rest) ← port? rest
    return (host, if port = usualPort? scheme then none else port, rest)
  | rest => return (host, none, rest)

/-- **A URL from behind its two slashes.** Only a host may have a user. -/
def readAuthority (scheme : List Char) (s : List Char) : Except Fault Url := do
  let k := kindOf scheme
  let ((username, password), s) ← userinfo? k s
  let (host, port, s) ← readHostPort scheme s
  let a : Authority := { username, password, host, port }
  if host.isEmpty && !a.userinfo.isEmpty then throw Fault.emptyHost
  let (path, rest) := startPath k s
  return withRest { scheme, authority := some a, path } rest

/-! ## Files -/

/-- The authority of a file without a host. -/
def noHost : Authority := { host := .domain [] }

/-- The host of a file: none for an empty one, for this machine and for what is a drive. -/
def fileHost? (s : List Char) : Except Fault (Option Host × List Char) :=
  let ends (c : Char) : Bool := c == '/' || c == '\\' || endsPath c
  let name := s.takeWhile (!ends ·)
  if isDrive name then .ok (none, s)
  else
    let rest := s.dropWhile (!ends ·)
    if name.isEmpty then .ok (none, rest)
    else
      match Host.parse name with
      | .error e => .error e
      | .ok h => .ok (if h = .domain "localhost".toList then none else some h, rest)

/-- Whether a path starts with a drive, which no host may go with. -/
def hasDrive (path : List Char) : Bool :=
  isPlainDrive ((path.drop 1).takeWhile (· != '/'))

/-- **A file from behind its scheme**, or relative to another file. -/
def readLocal (base : Option Url) (s : List Char) : Except Fault Url :=
  let file (a : Authority) (path rest : List Char) : Url :=
    withRest { scheme := "file".toList, authority := some a, path } rest
  let isSlash (c : Char) : Bool := c == '/' || c == '\\'
  match s with
  | c :: d :: r =>
    -- Two slashes announce a host.
    if isSlash c && isSlash d then do
      let (host, rest) ← fileHost? r
      match host with
      | some h =>
        let (path, rest) := startPath .file rest
        return file (if hasDrive path then noHost else { host := h }) path rest
      | none =>
        let (path, rest) := readPath .file ['/'] rest
        return file noHost path rest
    else .ok (relative file isSlash)
  | _ => .ok (relative file isSlash)
where
  /-- A file without a host of its own. -/
  relative (file : Authority → List Char → List Char → Url) (isSlash : Char → Bool) : Url :=
    match base, s with
    | base, c :: r =>
      if isSlash c then
        let (a, lead) :=
          match base with
          | some b =>
            -- The drive of the base stays, unless the text names one of its own.
            let first := (b.path.drop 1).takeWhile (· != '/')
            if startsWithDrive r then (noHost, [])
            else if isPlainDrive first then (noHost, '/' :: first)
            else ((b.authority.map fun a => { host := a.host }).getD noHost, [])
          | none => (noHost, [])
        let (path, rest) := readPath .file lead s
        file a path rest
      else
        match base with
        | none =>
          let (path, rest) := readPath .file ['/'] s
          file noHost path rest
        | some b =>
          if c = '?' then withRest b s
          else if c = '#' then { withRest b s with query := b.query }
          else if startsWithDrive s then
            let (path, rest) := readPath .file [] s
            file noHost path rest
          else
            let up := if isPlainDrive b.path then b.path else popSegment .file b.path
            let (path, rest) := readPath .file up s
            withRest { b with path } rest
    | some b, [] => { b with fragment := none }
    | none, [] => file noHost ['/'] []

/-! ## URLs of their own and relative ones -/

/-- A URL without an authority behind a scheme that is not special. -/
def readPlain (scheme : List Char) (s : List Char) : Except Fault Url :=
  match s with
  | '/' :: '/' :: r => readAuthority scheme r
  | '/' :: r =>
    let (path, rest) := readPath .other ['/'] r
    .ok (withRest { scheme, path } rest)
  | _ =>
    let path := encodeWith controlSet (s.takeWhile (!endsPath ·))
    .ok (withRest { scheme, path, isOpaque := true } (s.dropWhile (!endsPath ·)))

/-- **A text relative to a base** that is not a file. -/
def readRelative (b : Url) (s : List Char) : Except Fault Url :=
  match s with
  | [] => .ok { b with fragment := none }
  | '?' :: _ => .ok (withRest b s)
  | '#' :: _ => .ok { withRest b s with query := b.query }
  | c :: r =>
    let isSlash (c : Char) : Bool := c == '/' || c == '\\'
    if isSlash c then
      if r.head?.any isSlash then
        readAuthority b.scheme
          (if ['/', '/'].isPrefixOf s then s.drop 2 else s.dropWhile isSlash)
      else
        let (path, rest) := readPath b.kind ['/'] r
        .ok (withRest { b with path } rest)
    else
      let up := popSegment b.kind b.path
      let (path, rest) := readPath b.kind (if up.isEmpty then ['/'] else up) s
      .ok (withRest { b with path } rest)

/-- The text without what does not count. -/
def cleaned (text : String) : List Char :=
  let isEnd (c : Char) : Bool := c.toNat ≤ 0x20
  let s := text.toList.dropWhile isEnd
  let s := (s.reverse.dropWhile isEnd).reverse
  s.filter fun c => !(c == '\t' || c == '\n' || c == '\r')

/-- A text behind a scheme, which may lead back to a base of the same scheme. -/
def readScheme (base : Option Url) (scheme : List Char) (s : List Char) : Except Fault Url :=
  match kindOf scheme with
  | .file => readLocal (base.filter (·.scheme == scheme)) s
  | .other => readPlain scheme s
  | .special =>
    let isSlash (c : Char) : Bool := c == '/' || c == '\\'
    let slashes := s.takeWhile isSlash
    match base with
    | some b =>
      if slashes.length < 2 ∧ b.scheme = scheme then readRelative b s
      else readAuthority scheme (s.drop slashes.length)
    | none => readAuthority scheme (s.drop slashes.length)

/-- **A URL of its own.** -/
def parse (text : String) : Except Fault Url :=
  match scheme? (cleaned text) with
  | some (scheme, s) => readScheme none scheme s
  | none => .error .noBase

/-- **A text relative to a base.** Where the base has no path of segments, only a fragment is. -/
def join (b : Url) (text : String) : Except Fault Url :=
  let s := cleaned text
  match scheme? s with
  | some (scheme, s) => readScheme (some b) scheme s
  | none =>
    if s.head? = some '#' then .ok { withRest b s with query := b.query }
    else if b.isOpaque then .error .opaqueBase
    else if b.kind = .file then readLocal (some b) s
    else readRelative b s

end TemplateShare.Url
