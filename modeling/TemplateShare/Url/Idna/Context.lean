import TemplateShare.Url.Idna.Composition

/-! # Characters in their places

Some characters of domain names depend on those around them: a label does not begin with a mark,
joiners stand only where they change how letters are joined, and labels that are written from right
to left do not mix directions.

* **`Idna.isMark`**: marks.
* **`Idna.areJoinersInPlace`**: labels whose joiners are in place.
* **`Idna.areDirected`**: labels of a name whose directions go together. -/

namespace TemplateShare.Url.Idna

open Text (Runs)

/-! ## Marks -/

/-- Marks, and what is none. -/
def markLines : List String := [
  "300:n 70:m 113:n 7:m 107:n 2d:m n m n 2:m n 2:m n m 48:n b:m 30:n 15:m 10:n m 65:n 7:m 2:n 6:m",
  "2:n 2:m n 4:m 23:n m 1e:n 1b:m 5b:n b:m 3a:n 9:m 9:n m 18:n 4:m n 9:m n 3:m n 5:m 2b:n 3:m 3b:n",
  "9:m 2a:n 18:m n 21:m 36:n 3:m n 12:m n 7:m a:n 2:m 1d:n 3:m 38:n m n 7:m 2:n 2:m 2:n 3:m 9:n m",
  "a:n 2:m 1a:n m 2:n 3:m 38:n m n 5:m 4:n 2:m 2:n 3:m 3:n m 1e:n 2:m 3:n m b:n 3:m 38:n m n 8:m n",
  "3:m n 3:m 14:n 2:m 16:n 6:m n 3:m 38:n m n 7:m 2:n 2:m 2:n 3:m 7:n 3:m a:n 2:m 1e:n m 3b:n 5:m",
  "3:n 3:m n 4:m 9:n m 28:n 5:m 37:n m n 7:m n 3:m n 4:m 7:n 2:m b:n 2:m 1d:n 3:m 38:n m n 7:m n",
  "3:m n 4:m 7:n 2:m b:n 2:m f:n m c:n 4:m 37:n 2:m n 7:m n 3:m n 4:m 9:n m a:n 2:m 1d:n 3:m 46:n",
  "m 4:n 6:m n m n 8:m 12:n 2:m 3d:n m 2:n 7:m c:n 8:m 62:n m 2:n 9:m b:n 7:m 49:n 2:m 1b:n m n m",
  "n m 4:n 2:m 31:n 14:m n 2:m 5:n b:m n 24:m 9:n m 64:n 14:m 17:n 4:m 4:n 3:m n 3:m 2:n 7:m 3:n",
  "4:m d:n c:m n m a:n 4:m 2bf:n 3:m 3b2:n 4:m 1c:n 3:m 1d:n 2:m 1e:n 2:m 40:n 20:m 9:n m 2d:n 3:m",
  "n m 75:n 2:m 22:n m 76:n c:m 4:n c:m db:n 5:m 39:n a:m n 1d:m 2:n m 30:n 2e:m 2:n c:m 14:n 5:m",
  "2f:n 11:m 26:n 9:m c:n 3:m 1e:n d:m 38:n e:m 30:n 14:m 98:n 3:m n 15:m 4:n m 6:n m 2:n 3:m c6:n",
  "40:m 2d0:n 21:m bfe:n 3:m 8d:n m 60:n 20:m 22a:n 6:m 69:n 2:m 75d4:n 4:m n a:m 20:n 2:m 50:n",
  "2:m 110:n m 3:n m 4:n m 17:n 5:m 4:n m 53:n 2:m 32:n 12:m 1a:n 12:m d:n m 26:n 8:m 19:n d:m",
  "2c:n 4:m 2f:n e:m 24:n m 43:n e:m c:n m 8:n 2:m 2d:n 3:m 32:n m n 3:m 2:n 2:m 5:n 2:m n m 29:n",
  "5:m 5:n 2:m ec:n 8:m n 2:m 4f30:n m 2e1:n 10:m 10:n 10:m 3cd:n m e2:n m 95:n 5:m 686:n 3:m n",
  "2:m 5:n 4:m 28:n 3:m 4:n m a5:n 2:m 23d:n 4:m 41:n 5:m 13d:n 2:m 4d:n 6:m 46:n b:m 31:n 4:m",
  "7a:n 3:m 35:n f:m 29:n m 2:n 2:m a:n 4:m 2d:n b:m 7:n m 3d:n 3:m 24:n e:m 10:n 2:m 2c:n m c:n",
  "3:m 30:n e:m 8:n 4:m n 2:m 5c:n c:m 6:n m 2:n m 9d:n c:m 15:n 4:m 37:n 2:m n 7:m 2:n 2:m 2:n",
  "3:m 9:n m a:n 2:m 2:n 7:m 3:n 5:m 43:n 9:m n m 2:n m n 4:m n 5:m n m e:n 2:m 52:n 12:m 17:n m",
  "51:n 14:m eb:n 7:m 2:n 9:m 1b:n 2:m 52:n 11:m 6a:n d:m 65:n f:m 100:n f:m f5:n 6:m n 2:m 2:n",
  "4:m n m n 2:m 8d:n 7:m 2:n 7:m 3:n m 1c:n a:m 28:n 7:m n 4:m 8:n m 9:n b:m 2e:n 10:m c6:n 8:m",
  "c7:n 8:m n 8:m 52:n 16:m n e:m 7a:n 6:m 3:n m n 2:m n 7:m n m 42:n 5:m n 2:m n 5:m 15b:n 4:m",
  "9:n 2:m n m 30:n 7:m 3:n 5:m 17:n m 14e5:n m 6:n f:m 2cc8:n 12:m 9c0:n 5:m 3b:n 7:m 418:n m n",
  "37:m 7:n 4:m 51:n m b:n 2:m 4cab:n 2:m 1261:n 2e:m 2:n 17:m 21e:n 5:m 3:n 6:m 8:n 8:m 2:n 7:m",
  "1e:n 4:m 94:n 3:m 7bb:n 37:m 4:n 32:m 8:n m e:n m 16:n 5:m n f:m 550:n 7:m n 11:m 2:n 7:m n 2:m",
  "n 5:m 64:n m a0:n 7:m 177:n m 3d:n 4:m 1fc:n 4:m fe:n 2:m f3:n m 2:n m 7:n 2:m 5:n m 1da:n 7:m",
  "6d:n 7:m c17b5:n f0:m"]

/-- Which characters are marks. -/
def marks : Runs Bool := .read (· == ['m']) markLines

/-- Whether a character is a mark. -/
def isMark (c : Char) : Bool := (marks.at? c.toNat).getD false

/-! ## Joiners -/

/-- How a letter is joined to others. -/
inductive Joining where
  | none
  /-- To the one behind it. -/
  | left
  /-- To the one before it. -/
  | right
  | both
  /-- Not at all, but the letters around it are. -/
  | transparent
deriving DecidableEq

/-- How a letter is joined, as it is written in the table. -/
def Joining.ofText : List Char → Joining
  | ['l'] => .left
  | ['r'] => .right
  | ['d'] => .both
  | ['t'] => .transparent
  | _ => .none

/-- How letters are joined. -/
def joiningLines : List String := [
  "ad:u t 252:u 70:t 113:u 7:t 107:u 2d:t u t u 2:t u 2:t u t 48:u b:t u t 3:u d u 4:r d r d r 5:d",
  "4:r d:d u 7:d r 2:d 15:t e:u 2:d t 3:r u 3:r 10:d 12:r 26:d r 2:d 9:r d r d r 2:d 2:r u r 7:t",
  "2:u 6:t 2:u 2:t u 4:t 2:r a:u 3:d 2:u d f:u t r t 3:d 5:r 4:d r 9:d r d r d r 2:d r 1b:t 2:u r",
  "b:d 3:r f:d 2:r 4:d r d 2:r 3:d 2:r 6:d 26:u b:t 19:u 21:d 9:t 9:u t 18:u 4:t u 9:t u 3:t u 5:t",
  "12:u r 5:d 2:r d r a:d r d 3:r 3:t 4:u d u 4:d u r d 2:r 5:u 13:r 3:u d 2:u 5:d r d 7:u 9:t a:d",
  "3:r u r 2:d 2:r 6:d r f:d u 18:t u 20:t 37:u t u t 4:u 8:t 4:u t 3:u 7:t a:u 2:t 1d:u t 3a:u t",
  "4:u 4:t 8:u t 14:u 2:t 1a:u t 2:u 2:t 39:u t 4:u 2:t 4:u 2:t 2:u 3:t 3:u t 1e:u 2:t 3:u t b:u",
  "2:t 39:u t 4:u 5:t u 2:t 4:u t 14:u 2:t 16:u 6:t u t 3a:u t 2:u t u 4:t 8:u t 7:u 2:t b:u 2:t",
  "1e:u t 3d:u t c:u t 32:u t 3:u t 37:u t u 3:t 5:u 3:t u 4:t 7:u 2:t b:u 2:t 1d:u t 3a:u t 2:u t",
  "6:u t 5:u 2:t 14:u 2:t 1c:u 2:t 39:u 2:t 4:u 4:t 8:u t 14:u 2:t 1d:u t 48:u t 7:u 3:t u t 5a:u",
  "t 2:u 7:t c:u 8:t 62:u t 2:u 9:t b:u 7:t 49:u 2:t 1b:u t u t u t 37:u e:t u 5:t u 2:t 5:u b:t u",
  "24:t 9:u t 66:u 4:t u 6:t u 2:t 2:u 2:t 19:u 2:t 4:u 3:t 10:u 4:t d:u t 2:u 2:t 6:u t f:u t",
  "2bf:u 3:t 3b2:u 3:t 1d:u 2:t 1e:u 2:t 1e:u 2:t 40:u 2:t u 7:t 8:u t 2:u b:t 9:u t 29:u d 3:u",
  "3:t u t 10:u 59:d c:u 2:t 22:d t d 75:u 3:t 4:u 2:t 9:u t 6:u 3:t db:u 2:t 2:u t 3a:u t u 7:t u",
  "t u t 2:u 8:t 6:u a:t 2:u t 30:u 2e:t 2:u c:t 14:u 4:t 30:u t u 5:t u t 5:u t 28:u 9:t c:u 2:t",
  "20:u 4:t 2:u 2:t u 3:t 38:u t u 2:t 3:u t u 3:t 3a:u 8:t 2:u 2:t 98:u 3:t u d:t u 7:t 4:u t 6:u",
  "t 3:u 2:t c6:u 40:t 20b:u t 2:u 2:t 1a:u 5:t 31:u 5:t 5:u 6:t 60:u 21:t bfe:u 3:t 8d:u t 60:u",
  "20:t 22a:u 4:t 6b:u 2:t 75d4:u 4:t u a:t 20:u 2:t 50:u 2:t 110:u t 3:u t 4:u t 19:u 2:t 5:u t",
  "13:u 32:d l 51:u 2:t 1a:u 12:t d:u t 26:u 8:t 19:u b:t 2e:u 3:t 30:u t 2:u 4:t 2:u 2:t 27:u t",
  "43:u 6:t 2:u 2:t 2:u 2:t c:u t 8:u t 2f:u t 33:u t u 3:t 2:u 2:t 5:u 2:t u t 2a:u 2:t 8:u t",
  "ee:u t 2:u t 4:u t 4f30:u t 2e1:u 10:t 10:u 10:t cf:u t f9:u 3:t 201:u t e2:u t 95:u 5:t 686:u",
  "3:t u 2:t 5:u 4:t 28:u 3:t 4:u t 80:u 5:d r u r u 2:r 2:u l 5:r 4:d l 5:d r 3:d r 2:u r 2:t 4:u",
  "4:d r 90:u d r d 3:r 3:d r 2:d r d 2:r d r 17:u 4:r 2:d 151:u l 21:d r d 4:t 41:u 5:t 13d:u 2:t",
  "15:u r 2:d u 2:d 32:u 6:t 30:u 3:d r 11:d u b:t 3:d r 1b:u 4:d 2:r c:d 4:t 2a:u d u 2:d 3:r u d",
  "2:r 2:d r 2:d u d 2:r d 4:u r d l 35:u t 36:u f:t 29:u t 2:u 2:t a:u 3:t 31:u 4:t 2:u 2:t 7:u t",
  "3d:u 3:t 24:u 5:t u 8:t 3e:u t c:u 2:t 34:u 9:t a:u 4:t 2:u t 5f:u 3:t 2:u t u 2:t 6:u t 2:u t",
  "9d:u t 3:u 8:t 15:u 2:t 39:u 2:t 3:u t 25:u 7:t 3:u 5:t 46:u 6:t d:u t u t u t e:u 2:t 55:u 8:t",
  "2:u 3:t u t 17:u t 54:u 6:t u t 4:u 2:t u 2:t ee:u 4:t 6:u 2:t u 2:t 1b:u 2:t 55:u 8:t 2:u t u",
  "2:t 6a:u t u t 2:u 6:t u t 65:u t u t 2:u 4:t u 5:t 103:u 9:t u 2:t 100:u 2:t u t 4:u t 90:u",
  "4:t 2:u 2:t 4:u t 20:u a:t 28:u 6:t 2:u 4:t 8:u t 9:u 6:t 2:u 3:t 2e:u d:t u 2:t c6:u t u 3:t u",
  "t c9:u 7:t u 6:t u t 52:u 16:t 2:u 7:t u 2:t u 2:t 7a:u 6:t 3:u t u 2:t u 7:t u t 48:u 2:t 3:u",
  "t u t 15b:u 2:t b:u 2:t 34:u 5:t 5:u t u t 17:u t 14d5:u 11:t 6:u f:t 2cc8:u c:t 3:u 3:t 9c0:u",
  "5:t 3b:u 7:t 418:u t 3f:u 4:t 51:u t 4cb8:u 2:t u 4:t 125c:u 2e:t 2:u 17:t 220:u 3:t 9:u 10:t",
  "2:u 7:t 1e:u 4:t 94:u 3:t 7bb:u 37:t 4:u 32:t 8:u t e:u t 16:u 5:t u f:t 550:u 7:t u 11:t 2:u",
  "7:t u 2:t u 5:t 64:u t a0:u 7:t 177:u t 3d:u 4:t 1fc:u 4:t fe:u 2:t f3:u t 2:u t 7:u 2:t 5:u t",
  "1da:u 7:t 29:u 44:d 8:t c16b5:u t 1e:u 60:t 80:u f0:t"]

/-- How letters are joined. -/
def joinings : Runs Joining := .read Joining.ofText joiningLines

/-- How a letter is joined to others. -/
def joining (c : Char) : Joining := (joinings.at? c.toNat).getD .none

/-- The first of some letters that is not transparent. -/
def nextJoining? (s : List Char) : Option Joining :=
  (s.map joining).find? (· != .transparent)

/-- Whether a joiner is in place: behind a mark that takes the vowel from a letter, or, if it keeps
letters apart, between two that would be joined. What stands before it is given from its end. -/
def isJoinerInPlace (before : List Char) (c : Char) (behind : List Char) : Bool :=
  (before.head?.any fun m => markClass m.toNat == 9) ||
    c == '\u200c' && (nextJoining? before).any (fun j => j == .left || j == .both) &&
      (nextJoining? behind).any fun j => j == .right || j == .both

/-- **Whether all joiners are in place** behind what has been read. -/
def areJoinersInPlace (before : List Char) : List Char → Bool
  | [] => true
  | c :: s =>
    (!(c == '\u200c' || c == '\u200d') || isJoinerInPlace before c s) &&
      areJoinersInPlace (c :: before) s

/-! ## Directions -/

/-- The direction that a character is written in. -/
inductive Direction where
  | left
  | right
  | number
  | arabicNumber
  | neutral
  | mark
  | other
deriving DecidableEq

/-- The direction of a character, as it is written in the table. -/
def Direction.ofText : List Char → Direction
  | ['l'] => .left
  | ['r'] => .right
  | ['e'] => .number
  | ['n'] => .arabicNumber
  | ['o'] => .neutral
  | ['m'] => .mark
  | _ => .other

/-- The directions of characters. -/
def directionLines : List String := [
  "9:o 5:x e:o 5:x f:o a:e 7:o 1a:l 6:o 1a:l a:o x 24:o l 7:o 2:e o l 3:o e l 5:o 17:l o 1f:l o",
  "1c1:l 2:o 7:l e:o 2:l e:o 5:l 9:o l 11:o 70:m 4:l 2:o 8:l o 5:l 2:o l o 6e:l o 8c:l 7:m 100:l o",
  "2:l 3:o r 2d:m r m r 2:m r 2:m r m 38:r 6:n 2:o r 2:o r o r 2:o b:m 30:r 15:m a:n o 2:n 3:r m",
  "65:r 7:m n o 6:m 2:r 2:m o 4:m 2:r a:e 17:r m 1e:r 1b:m 5b:r b:m 3a:r 9:m 2:r 4:o 3:r m 18:r",
  "4:m r 9:m r 3:m r 5:m 2b:r 3:m 34:r 2:n 5:r 9:m 2a:r 18:m n 20:m 37:l m l m 4:l 8:m 4:l m 3:l",
  "7:m a:l 2:m 1d:l m 3a:l m 4:l 4:m 8:l m 14:l 2:m e:l 2:o 7:l o 2:l m 2:l 2:m 39:l m 4:l 2:m 4:l",
  "2:m 2:l 3:m 3:l m 1e:l 2:m 3:l m b:l 2:m 39:l m 4:l 5:m l 2:m 4:l m 14:l 2:m d:l o 8:l 6:m l m",
  "3a:l m 2:l m l 4:m 8:l m 7:l 2:m b:l 2:m 1e:l m 3d:l m c:l m 25:l 8:o 5:l m 3:l m 37:l m l 3:m",
  "5:l 3:m l 4:m 7:l 2:m b:l 2:m 14:l 7:o 2:l m 3a:l m f:l 2:m 14:l 2:m 1c:l 2:m 39:l 2:m 4:l 4:m",
  "8:l m 14:l 2:m 1d:l m 48:l m 7:l 3:m l m 5a:l m 2:l 7:m 4:l o 7:l 8:m 62:l m 2:l 9:m b:l 7:m",
  "49:l 2:m 1b:l m l m l m 4:o 33:l e:m l 5:m l 2:m 5:l b:m l 24:m 9:l m 66:l 4:m l 6:m l 2:m 2:l",
  "2:m 19:l 2:m 4:l 3:m 10:l 4:m d:l m 2:l 2:m 6:l m f:l m 2bf:l 3:m 30:l a:o 66:l o 27f:l x 1a:l",
  "2:o 75:l 3:m 1d:l 2:m 1e:l 2:m 1e:l 2:m 40:l 2:m l 7:m 8:l m 2:l b:m 7:l o l m 12:l a:o 6:l b:o",
  "3:m o m 75:l 2:m 22:l m 76:l 3:m 4:l 2:m 9:l m 6:l 3:m 4:l o 3:l 2:o 98:l 22:o 17:l 2:m 2:l m",
  "3a:l m l 7:m l m l m 2:l 8:m 6:l a:m 2:l m 30:l 2e:m 2:l c:m 14:l 4:m 30:l m l 5:m l m 5:l m",
  "28:l 9:m c:l 2:m 20:l 4:m 2:l 2:m l 3:m 38:l m l 2:m 3:l m l 3:m 3a:l 8:m 2:l 2:m 98:l 3:m l",
  "d:m l 7:m 4:l m 6:l m 3:l 2:m c6:l 40:m 1bd:l o l 3:o b:l 3:o d:l 3:o d:l 3:o d:l 2:o l b:x 3:o",
  "l r 18:o 7:x 30:o x 6:o 4:x 6:o e 3:l 6:e 5:o l a:e 5:o 11:l 30:o 21:m f:l 2:o l 4:o l 2:o a:l",
  "o l 3:o 5:l 6:o l o l o l o 4:l o b:l 2:o 4:l 5:o 5:l 4:o 2:l 10:o 29:l 3:o 4:l 1a6:o 45:l 1a:o",
  "l 91:o 19:l b:o 15:l 28:o 14:e 4e:l 1c2:o l 153:o 100:l 274:o 2:l 20:o l 69:o e5:l 6:o 4:l 3:m",
  "7:l 7:o 7f:l m 60:l 20:m 5e:o 22:l 1a:o l 59:o c:l d6:o 1a:l c:o 4:l x 4:o 3:l 19:o 9:l 4:m 2:l",
  "o 5:l 2:o 5:l 3:o 59:l 2:m 2:o 3:l o 5a:l o c4:l 24:o 39:l 2:o 31:l 10:o 1c:l 3:o 32:l f:o c:l",
  "4:o a7:l 4:o 63:l 2:o 1f:l o 19c0:l 40:o 5690:l 37:o 146:l 3:o 5f:l 4:m o a:m 2:o 1e:l 2:m 50:l",
  "2:m e:l 22:o 66:l o 79:l m 3:l m 4:l m 19:l 2:m l 4:o m b:l 2:o 3a:l 4:o 4c:l 2:m 1a:l 12:m d:l",
  "m 26:l 8:m 19:l b:m 2e:l 3:m 30:l m 2:l 4:m 2:l 2:m 27:l m 43:l 6:m 2:l 2:m 2:l 2:m c:l m 8:l m",
  "2f:l m 33:l m l 3:m 2:l 2:m 5:l 2:m l m 2a:l 2:m 8:l m 73:l 2:o 79:l m 2:l m 4:l m 4f2f:l r m",
  "a:r o 214:r 12:o 7f:r 21:o d:r 3:o 10:m a:o 6:l 10:m 23:o l 13:o l 4:o 4:l 8f:r o l f:o a:e 7:o",
  "1a:l 6:o 1a:l b:o 7a:l 7:o l 7:o l 10:o 101:l o 3e:l 4d:o 3:l d:o 3:l o 5c:l m e2:l m 1b:e 7a:l",
  "5:m 485:l 11f:r o e1:r 3:m r 2:m 5:r 4:m 28:r 3:m 4:r m a5:r 2:m 52:r 7:o 1e4:r 4:m 8:r a:n",
  "2f:r 5:m f2:r 1f:n 2c:r 2:m 4d:r 6:m 46:r b:m 31:r 4:m 7a:r l m 36:l f:m b:l 14:o a:l m 2:l 2:m",
  "a:l 3:m 31:l 4:m 2:l 2:m 7:l m 3d:l 3:m 24:l 5:m l 8:m 3e:l m c:l 2:m 34:l 9:m a:l 4:m 2:l m",
  "5f:l 3:m 2:l m l 2:m 6:l m 2:l m 9d:l m 3:l 8:m 15:l 2:m 39:l 2:m 3:l m 25:l 7:m 3:l 5:m 46:l",
  "6:m d:l m l m l m e:l 2:m 55:l 8:m 2:l 3:m l m 17:l m 54:l 6:m l m 4:l 2:m l 2:m ee:l 4:m 6:l",
  "2:m l 2:m 1b:l 2:m 55:l 8:m 2:l m l 2:m 1f:l d:o 3e:l m l m 2:l 6:m l m 65:l 3:m 2:l 4:m l 5:m",
  "103:l 9:m l 2:m 100:l 2:m l m 4:l m 90:l 4:m 2:l 2:m 4:l m 20:l 6:m 2:l 2:m 28:l 6:m 2:l 4:m",
  "8:l m 9:l 6:m 2:l 3:m 2e:l d:m l 2:m c6:l m l 3:m l m c9:l 7:m l 6:m 54:l 16:m 2:l 7:m l 2:m l",
  "2:m 7a:l 6:m 3:l m l 2:m l 7:m l m 48:l 2:m 3:l m l m 15b:l 2:m b:l 2:m 34:l 5:m 5:l m l m 17:l",
  "m 7a:l 1d:o 144e:l m 6:l f:m 2cc8:l c:m 3:l 3:m 9c0:l 5:m 3b:l 7:m 418:l m 3f:l 4:m 4f:l o l m",
  "4cb8:l 2:m l 4:o 125c:l 2e:m 2:l 17:m 220:l 3:m 9:l 8:o 8:m 2:l 7:m 1e:l 4:m 3b:l 2:o 15:l 42:o",
  "3:m o ba:l 57:o 384:l o 39:l o 39:l o 39:l o 39:l o a:l 32:e 200:l 37:m 4:l 32:m 8:l m e:l m",
  "16:l 5:m l f:m 550:l 7:m l 11:m 2:l 7:m l 2:m l 5:m 64:l m a0:l 7:m 177:l m 3d:l 4:m f:l o",
  "1ec:l 4:m fe:l 2:m f3:l m 2:l m 7:l 2:m 5:l m 10a:l d0:r 7:m 6d:r 7:m 5a5:r 2:o 10e:r 2c:o 4:l",
  "64:o c:l f:o 2:l f:o l f:o l 25:o a:l b:e 5:o 1f:l o 3a:l 6:o 3d:l o b2:l 6:o 9a:l 3d8:o 4:l",
  "11:o 3:l d:o 3:l 77:o 4:l 5f:o 6:l c:o 4:l o f:l c:o 4:l 38:o 8:l a:o 6:l 28:o 8:l 1e:o 2:l 2:o",
  "4e:l 154:o c:l e:o 2:l d:o 3:l 9:o 7:l 2e:o l 7:o 8:l e:o 4:l 9:o 7:l 9:o 7:l 93:o l 37:o 25:l",
  "a:e 404:l 2:o fffe:l 2:o fffe:l 2:o fffe:l 2:o fffe:l 2:o fffe:l 2:o fffe:l 2:o fffe:l 2:o",
  "fffe:l 2:o fffe:l 2:o fffe:l 2:o fffe:l 2:o fffe:l 102:o f0:m e10:o effe:l 2:o fffe:l 2:o",
  "fffe:l 2:o"]

/-- The directions of characters. -/
def directions : Runs Direction := .read Direction.ofText directionLines

/-- The direction that a character is written in. -/
def direction (c : Char) : Direction := (directions.at? c.toNat).getD .left

/-- Whether a label is written from right to left, or has numbers that are. -/
def isRightToLeft (s : List Char) : Bool :=
  s.any fun c => direction c == .right || direction c == .arabicNumber

/-- **Whether a label keeps to one direction**: that of its first character, which is a letter, and
with which it ends, or with a number. -/
def isDirected (s : List Char) : Bool :=
  let ds := s.map direction
  let last? := ds.reverse.find? (· != .mark)
  match ds.head? with
  | none => true
  | some .left =>
    ds.all (fun d => [.left, .number, .neutral, .mark].contains d) &&
      last?.any fun d => [.left, .number].contains d
  | some .right =>
    ds.all (fun d => [.right, .number, .arabicNumber, .neutral, .mark].contains d) &&
      (last?.any fun d => [.right, .number, .arabicNumber].contains d) &&
        !(ds.contains .number && ds.contains .arabicNumber)
  | some _ => false

/-- **Whether the directions of labels go together**: none of them is written from right to left, or
each keeps to one direction. -/
def areDirected (labels : List (List Char)) : Bool :=
  !labels.any isRightToLeft || labels.all isDirected

end TemplateShare.Url.Idna
