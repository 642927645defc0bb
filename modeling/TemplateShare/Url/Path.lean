import TemplateShare.Url.Percent

/-! # Paths of URLs

A path is read segment by segment. A segment of one dot stands for nothing and one of two dots takes
the segment before it away. In files, the letter of a drive stays at the start of a path.

* **`Url.Kind`**: the kinds of schemes, which read paths in different ways.
* **`Url.readPath`**: read segments onto a path. -/

namespace TemplateShare.Url

/-! ## Kinds of schemes -/

/-- **Kinds of schemes.** -/
inductive Kind where
  | file
  /-- One of the other schemes whose URLs have a host and a path of segments. -/
  | special
  | other
deriving DecidableEq, Repr

/-- The special schemes other than `file`, with their usual ports. -/
def specialSchemes : List (List Char × Nat) :=
  [("http".toList, 80), ("https".toList, 443), ("ws".toList, 80), ("wss".toList, 443),
    ("ftp".toList, 21)]

/-- The kind of a scheme. -/
def kindOf (scheme : List Char) : Kind :=
  if scheme = "file".toList then .file
  else if (specialSchemes.lookup scheme).isSome then .special
  else .other

/-- The port that a scheme has unless another is given. -/
def usualPort? (scheme : List Char) : Option Nat := specialSchemes.lookup scheme

/-- What separates segments; in special schemes the backslash does as well. -/
def Kind.isSlash (k : Kind) (c : Char) : Bool := c == '/' || (c == '\\' && k != .other)

/-- What ends a path. -/
def endsPath (c : Char) : Bool := c == '?' || c == '#'

/-! ## Letters of drives -/

/-- A letter and a colon or a bar. -/
def isDrive : List Char → Bool
  | [c, d] => c.isAlpha && (d == ':' || d == '|')
  | _ => false

/-- A letter and a colon. -/
def isPlainDrive : List Char → Bool
  | [c, d] => c.isAlpha && d == ':'
  | _ => false

/-- Whether a text starts with the letter of a drive as a whole segment. -/
def startsWithDrive : List Char → Bool
  | [c, d] => isDrive [c, d]
  | c :: d :: e :: _ => isDrive [c, d] && (e == '/' || e == '\\' || e == '?' || e == '#')
  | _ => false

/-! ## Taking segments away -/

/-- The path up to its last slash. -/
def upToSlash (path : List Char) : List Char := (path.reverse.dropWhile (· != '/')).reverse

/-- What stands behind the last slash of a path. -/
def lastSegment (path : List Char) : List Char := (path.reverse.takeWhile (· != '/')).reverse

/-- **Take the last segment away**, unless it is the drive of a file. -/
def popSegment (k : Kind) (path : List Char) : List Char :=
  if k = .file ∧ isPlainDrive (lastSegment path) then path else upToSlash path

/-- Whether the slash at the end of a path may go: it is not the first one, and what stands before
it is no drive. -/
def slashMayGo (path : List Char) : Bool :=
  let front := path.dropLast
  front.contains '/' && !startsWithDrive (lastSegment front ++ ['/'])

/-- **Go up one segment** from a path that ends with a slash. -/
def goUp (k : Kind) (path : List Char) : List Char :=
  let path := if path.getLast? = some '/' ∧ slashMayGo path then path.dropLast else path
  popSegment k path

/-! ## Reading -/

/-- A segment that stands for the place itself. -/
def isSingleDot (s : List Char) : Bool :=
  s == ['.'] || s.map Char.toLower == "%2e".toList

/-- A segment that stands for the place above. -/
def isDoubleDot (s : List Char) : Bool :=
  let t := s.map Char.toLower
  s == ['.', '.'] || t == ".%2e".toList || t == "%2e.".toList || t == "%2e%2e".toList

/-- Put a slash at the end of a path that has none. -/
def closed (path : List Char) : List Char :=
  if path.getLast? = some '/' then path else path ++ ['/']

/-- **Put a segment onto a path**; `isLast` says whether no slash follows it. -/
def pushSegment (k : Kind) (path segment : List Char) (isLast : Bool) : List Char :=
  if isDoubleDot segment then
    let up := goUp k path
    if isLast then up else closed up
  else if isSingleDot segment then closed path
  else
    -- The bar behind the letter of a drive is written as a colon.
    let segment :=
      if k = .file ∧ path.length = 1 ∧ isDrive segment then segment.take 1 ++ [':'] else segment
    path ++ segment ++ (if isLast then [] else ['/'])

/-- Put segments onto a path; what follows the path is left. -/
def readSegments (k : Kind) : Nat → List Char → List Char → List Char × List Char
  | 0, path, s => (path, s)
  | fuel + 1, path, s =>
    let ends (c : Char) : Bool := k.isSlash c || endsPath c
    let segment := encodeWith pathSet (s.takeWhile (!ends ·))
    match s.dropWhile (!ends ·) with
    | [] => (pushSegment k path segment true, [])
    | c :: r =>
      if k.isSlash c then readSegments k fuel (pushSegment k path segment false) r
      else (pushSegment k path segment true, c :: r)

/-- **Read segments onto a path.** The path of a file has no empty segments at its start. -/
def readPath (k : Kind) (path s : List Char) : List Char × List Char :=
  let (path, rest) := readSegments k (s.length + 1) path s
  if k = .file then ('/' :: path.dropWhile (· == '/'), rest) else (path, rest)

/-- **Read a path from its start.** In special schemes there always is a slash. -/
def startPath (k : Kind) (s : List Char) : List Char × List Char :=
  match k, s with
  | .other, [] => ([], [])
  | .other, c :: _ => if endsPath c then ([], s) else readPath k (if c = '/' then [] else ['/']) s
  | _, c :: r => readPath k ['/'] (if k.isSlash c then r else c :: r)
  | _, [] => readPath k ['/'] []

end TemplateShare.Url
