/-
This file holds the characters of YAML and a place in a text.
-/

namespace GuestPod.Yaml

/-- The mark that may stand before a line. -/
def byteOrderMark : Char := Char.ofNat 0xFEFF

def isBreak (c : Char) : Bool :=
  c = '\n' || c = '\r' || c.toNat = 0x85 || c.toNat = 0x2028 || c.toNat = 0x2029

def isBlank (c : Char) : Bool :=
  c = ' ' || c = '\t'

/-- Names of anchors and directives are made of these. -/
def isWordChar (c : Char) : Bool :=
  ('0' ≤ c && c ≤ '9') || ('A' ≤ c && c ≤ 'Z') || ('a' ≤ c && c ≤ 'z') || c = '_' || c = '-'

/-- A text may hold these characters and no others. -/
def isAdmitted (c : Char) : Bool :=
  let code := c.toNat
  code = 9 || code = 10 || code = 13 || (0x20 ≤ code && code ≤ 0x7E) || code = 0x85 ||
    (0xA0 ≤ code && code ≤ 0xD7FF) || (0xE000 ≤ code && code ≤ 0xFFFD) || 0x10000 ≤ code

/-- A blank, a break or the end. -/
def spaceAhead : List Char → Bool
  | [] => true
  | c :: _ => isBlank c || isBreak c

/-- The number of bytes that the characters take. -/
def byteCount (text : List Char) : Nat :=
  text.foldl (fun count c => count + c.utf8Size) 0

/-- Whether so many characters are there. -/
def reaches : Nat → List Char → Bool
  | 0, _ => true
  | _ + 1, [] => false
  | count + 1, _ :: rest => reaches count rest

/--
The column counts characters from the last break, the index bytes from the start.  A text is cut
where something follows that may not be read.
-/
structure Cursor where
  rest : List Char
  cut : Bool
  index : Nat
  line : Nat
  column : Nat
  deriving DecidableEq, Repr

namespace Cursor

def start (text : List Char) (cut : Bool) : Cursor := ⟨text, cut, 0, 0, 0⟩

/-- Looking ahead by so many characters may pass the end of a text, but not its cut. -/
def ahead? (cursor : Cursor) (count : Nat) : Option Cursor :=
  if cursor.cut && !reaches count cursor.rest then none else some cursor

/-- The first `count` characters hold no break and leave `rest` behind. -/
def advance (cursor : Cursor) (count : Nat) (rest : List Char) : Cursor :=
  { cursor with
    rest := rest
    index := cursor.index + byteCount (cursor.rest.take count)
    column := cursor.column + count }

def skip (cursor : Cursor) (count : Nat) : Cursor :=
  cursor.advance count (cursor.rest.drop count)

/-- Skips characters that are no breaks. -/
def skipWhile (cursor : Cursor) (p : Char → Bool) : Cursor :=
  cursor.advance (cursor.rest.takeWhile p).length (cursor.rest.dropWhile p)

/-- A return and a feed together are one break. -/
def skipBreak (cursor : Cursor) : Cursor :=
  match cursor.rest with
  | '\r' :: '\n' :: rest => ⟨rest, cursor.cut, cursor.index + 2, cursor.line + 1, 0⟩
  | c :: rest => ⟨rest, cursor.cut, cursor.index + c.utf8Size, cursor.line + 1, 0⟩
  | [] => cursor

/-- Two of the breaks stay as they are; the others become feeds. -/
def breakText (c : Char) : Char :=
  if c.toNat = 0x2028 ∨ c.toNat = 0x2029 then c else '\n'

def skipBlanks (cursor : Cursor) : Cursor :=
  cursor.skipWhile isBlank

/-- A comment goes up to the break. -/
def skipComment (cursor : Cursor) : Cursor :=
  match cursor.rest with
  | '#' :: _ => cursor.skipWhile fun c => !isBreak c
  | _ => cursor

/-- What follows a header on its line is blanks and a comment. -/
def endLine? (cursor : Cursor) : Option Cursor := do
  let cursor ← cursor.skipBlanks.skipComment.ahead? 2
  match cursor.rest with
  | [] => some cursor
  | c :: _ => if isBreak c then some cursor.skipBreak else none

/-- Three dashes or three dots at the start of a line separate documents. -/
def atMark (mark : Char) (cursor : Cursor) : Bool :=
  cursor.column == 0 &&
    match cursor.rest with
    | first :: second :: third :: rest =>
        first == mark && second == mark && third == mark && spaceAhead rest
    | _ => false

def atDocumentMark (cursor : Cursor) : Bool :=
  cursor.atMark '-' || cursor.atMark '.'

end Cursor

/--
What lies between two words: blanks, or breaks with the blanks around them dropped.  Blanks and
further breaks are held in reverse.
-/
structure Gap where
  blanks : List Char
  first : Option (List Char)
  further : List Char
  deriving DecidableEq, Repr

namespace Gap

def none : Gap := ⟨[], .none, []⟩

/-- An escaped break is a first break without text. -/
def escaped : Gap := ⟨[], some [], []⟩

def broken (gap : Gap) : Bool := gap.first.isSome

def addBlank (gap : Gap) (c : Char) : Gap :=
  if gap.broken then gap else { gap with blanks := c :: gap.blanks }

def addBreak (gap : Gap) (c : Char) : Gap :=
  if gap.broken then { gap with further := Cursor.breakText c :: gap.further }
  else ⟨[], some [Cursor.breakText c], []⟩

/-- A single feed folds into a space; of several the first is dropped. -/
def fold (gap : Gap) : List Char :=
  match gap.first with
  | .none => gap.blanks.reverse
  | some ['\n'] => if gap.further.isEmpty then [' '] else gap.further.reverse
  | some other => other ++ gap.further.reverse

/-- A tab after a break may not stand left of the given column. -/
def scan (column : Int) : Nat → Gap → Cursor → Option (Gap × Cursor)
  | 0, gap, cursor => some (gap, cursor)
  | fuel + 1, gap, cursor =>
      match cursor.rest with
      | [] => some (gap, cursor)
      | c :: _ =>
          if isBlank c then
            if gap.broken ∧ c = '\t' ∧ (cursor.column : Int) < column then .none
            else scan column fuel (gap.addBlank c) (cursor.skip 1)
          else if isBreak c then scan column fuel (gap.addBreak c) cursor.skipBreak
          else some (gap, cursor)

/-- Every step takes a character. -/
def read (column : Int) (gap : Gap) (cursor : Cursor) : Option (Gap × Cursor) :=
  scan column (cursor.rest.length + 1) gap cursor

end Gap

end GuestPod.Yaml
