/-
This file splits a text into tokens.  A key needs no mark of its own, so every token that may
begin one is held back until the text shows whether a colon follows.
-/

import GuestPod.Yaml.Block
import GuestPod.Yaml.Plain
import GuestPod.Yaml.Property
import GuestPod.Yaml.Quoted

namespace GuestPod.Yaml

/-- A token that may turn out to begin a key; in some places it must. -/
structure PossibleKey where
  number : Nat
  required : Bool
  index : Nat
  line : Nat
  column : Nat
  deriving DecidableEq, Repr

/-- A key stays on one line and within 1024 bytes. -/
def PossibleKey.isStale (key : PossibleKey) (cursor : Cursor) : Bool :=
  key.line < cursor.line || key.index + 1024 < cursor.index

/--
Tokens are numbered from zero and held in reverse.  There is one possible key for the block
context and one for each open flow, the innermost first.  The keys of outer flows may be stale.
-/
structure Scanner where
  cursor : Cursor
  indent : Int
  outerIndents : List Int
  keyAllowed : Bool
  blockKey : Option PossibleKey
  flowKeys : List (Option PossibleKey)
  tokens : List Token
  count : Nat
  deriving DecidableEq, Repr

namespace Scanner

def start (text : List Char) (cut : Bool) : Scanner where
  cursor := .start text cut
  indent := -1
  outerIndents := []
  keyAllowed := true
  blockKey := none
  flowKeys := []
  tokens := []
  count := 0

def inFlow (s : Scanner) : Bool := !s.flowKeys.isEmpty

def column (s : Scanner) : Int := s.cursor.column

def push (s : Scanner) (token : Token) : Scanner :=
  { s with tokens := token :: s.tokens, count := s.count + 1 }

/-- The token comes to stand at the given number, before those that had it. -/
def insert (s : Scanner) (number : Nat) (token : Token) : Scanner :=
  { s with tokens := s.tokens.insertIdx (s.count - number) token, count := s.count + 1 }

def allowKey (s : Scanner) (allowed : Bool) : Scanner := { s with keyAllowed := allowed }

/-- The possible key of the innermost context. -/
def key (s : Scanner) : Option PossibleKey :=
  match s.flowKeys with
  | [] => s.blockKey
  | key :: _ => key

def setKey (s : Scanner) (key : Option PossibleKey) : Scanner :=
  match s.flowKeys with
  | [] => { s with blockKey := key }
  | _ :: rest => { s with flowKeys := key :: rest }

def fresh (cursor : Cursor) (key : Option PossibleKey) : Option PossibleKey :=
  key.filter fun key => !key.isStale cursor

/-- A required key that has gone stale is a fault; only keys in a block are required. -/
def expireKeys (s : Scanner) : Option Scanner :=
  if s.blockKey.any fun key => key.required && key.isStale s.cursor then none
  else
    some { s with
      blockKey := fresh s.cursor s.blockKey
      flowKeys := match s.flowKeys with
        | [] => []
        | key :: rest => fresh s.cursor key :: rest }

/-- A required key may not be given up. -/
def removeKey (s : Scanner) : Option Scanner :=
  if s.key.any (·.required) then none else some (s.setKey none)

/-- The next token may begin a key, and must if it starts a line of its block. -/
def saveKey (s : Scanner) : Option Scanner :=
  if s.keyAllowed then do
    let s ← s.removeKey
    return s.setKey (some {
      number := s.count
      required := !s.inFlow && s.indent == s.column
      index := s.cursor.index
      line := s.cursor.line
      column := s.cursor.column })
  else some s

/-- A deeper column opens a block, whose first token comes to stand at the given number. -/
def openBlock (s : Scanner) (column : Int) (number : Nat) (token : Token) : Scanner :=
  if !s.inFlow && s.indent < column then
    { s with outerIndents := s.indent :: s.outerIndents, indent := column }.insert number token
  else s

/-- Blocks right of the column are closed, the innermost first. -/
def closeBlocks (column : Int) : Int → List Int → List Token × Int × List Int
  | indent, [] => ([], indent, [])
  | indent, outer :: rest =>
      if column < indent then
        let (closed, indent, rest) := closeBlocks column outer rest
        (.blockEnd :: closed, indent, rest)
      else ([], indent, outer :: rest)

def close (s : Scanner) (column : Int) : Scanner :=
  if s.inFlow then s
  else
    let (closed, indent, rest) := closeBlocks column s.indent s.outerIndents
    { s with
      indent := indent
      outerIndents := rest
      tokens := closed ++ s.tokens
      count := s.count + closed.length }

/--
Blanks, comments and breaks are passed; after a break a key may begin in a block.  A mark of the
byte order may stand before a line, and it takes a column.
-/
def passSpace (flow : Bool) : Nat → Bool → Cursor → Bool × Cursor
  | 0, allowed, cursor => (allowed, cursor)
  | fuel + 1, allowed, cursor =>
      let cursor :=
        if cursor.column = 0 ∧ cursor.rest.head? = some byteOrderMark then cursor.skip 1
        else cursor
      let cursor := cursor.skipWhile fun c => c = ' ' || (c = '\t' && (flow || !allowed))
      let cursor := cursor.skipComment
      match cursor.rest with
      | [] => (allowed, cursor)
      | c :: _ =>
          if isBreak c then passSpace flow fuel (allowed || !flow) cursor.skipBreak
          else (allowed, cursor)

/-- Every token begins with four characters in view. -/
def toNextToken (s : Scanner) : Option Scanner := do
  let (allowed, cursor) := passSpace s.inFlow (s.cursor.rest.length + 1) s.keyAllowed s.cursor
  let s ← { s with keyAllowed := allowed, cursor := ← cursor.ahead? 4 }.expireKeys
  return s.close s.column

def skip (s : Scanner) (count : Nat) : Scanner := { s with cursor := s.cursor.skip count }

def moveTo (s : Scanner) (cursor : Cursor) : Scanner := { s with cursor := cursor }

/-- The end of the text ends its last line too. -/
def atEnd (s : Scanner) : Option Scanner := do
  let cursor :=
    if s.cursor.column = 0 then s.cursor
    else { s.cursor with line := s.cursor.line + 1, column := 0 }
  let s ← ((s.moveTo cursor).close (-1)).removeKey
  return (s.allowKey false).push .streamEnd

def directive (s : Scanner) : Option Scanner := do
  let s ← (s.close (-1)).removeKey
  let (token, cursor) ← Property.readDirective s.cursor
  return ((s.allowKey false).moveTo cursor).push token

def documentMark (s : Scanner) (token : Token) : Option Scanner := do
  let s ← (s.close (-1)).removeKey
  return ((s.allowKey false).skip 3).push token

def openFlow (s : Scanner) (token : Token) : Option Scanner := do
  let s ← s.saveKey
  return (({ s with flowKeys := none :: s.flowKeys }.allowKey true).skip 1).push token

def closeFlow (s : Scanner) (token : Token) : Option Scanner := do
  let s ← s.removeKey
  return (({ s with flowKeys := s.flowKeys.drop 1 }.allowKey false).skip 1).push token

def flowEntry (s : Scanner) : Option Scanner := do
  return (((← s.removeKey).allowKey true).skip 1).push .flowEntry

def blockEntry (s : Scanner) : Option Scanner := do
  if !s.inFlow && !s.keyAllowed then none
  let s := s.openBlock s.column s.count .blockSequenceStart
  return (((← s.removeKey).allowKey true).skip 1).push .blockEntry

/-- A question mark begins a key of any form. -/
def explicitKey (s : Scanner) : Option Scanner := do
  if !s.inFlow && !s.keyAllowed then none
  let s := s.openBlock s.column s.count .blockMappingStart
  let s ← s.removeKey
  return ((s.allowKey (!s.inFlow)).skip 1).push .key

/-- A colon turns the possible key before it into a key. -/
def value (s : Scanner) : Option Scanner :=
  match s.key with
  | some key =>
      let s := s.insert key.number .key
      let s := s.openBlock key.column key.number .blockMappingStart
      some ((((s.setKey none).allowKey false).skip 1).push .value)
  | none => do
      if !s.inFlow && !s.keyAllowed then none
      let s := s.openBlock s.column s.count .blockMappingStart
      return ((s.allowKey (!s.inFlow)).skip 1).push .value

def name (s : Scanner) (token : List Char → Token) : Option Scanner := do
  let s ← s.saveKey
  let (name, cursor) ← Property.readName s.cursor
  return ((s.allowKey false).moveTo cursor).push (token name)

def tag (s : Scanner) : Option Scanner := do
  let s ← s.saveKey
  let (token, cursor) ← Property.readTag s.inFlow s.cursor
  return ((s.allowKey false).moveTo cursor).push token

def blockScalar (s : Scanner) (literal : Bool) : Option Scanner := do
  let s ← s.removeKey
  let (text, cursor) ← Block.read literal s.indent s.cursor
  return ((s.allowKey true).moveTo cursor).push
    (.scalar text (if literal then .literal else .folded))

def quotedScalar (s : Scanner) (single : Bool) : Option Scanner := do
  let s ← s.saveKey
  let (text, cursor) ← Quoted.read single s.cursor
  return ((s.allowKey false).moveTo cursor).push
    (.scalar text (if single then .singleQuoted else .doubleQuoted))

/-- A break passed at the end of a plain scalar allows a key. -/
def plainScalar (s : Scanner) : Option Scanner := do
  let s ← s.saveKey
  let (text, cursor, broken) ← Plain.read s.inFlow s.indent s.cursor
  return ((s.allowKey broken).moveTo cursor).push (.scalar text .plain)

/-- The characters that have a meaning of their own at the start of a token. -/
def isIndicator (c : Char) : Bool :=
  ['-', '?', ':', ',', '[', ']', '\x7b', '\x7d', '#', '&', '*', '!', '|', '>', '\'', '"', '%',
    '@', '\x60'].contains c

def startsPlain (flow : Bool) (c : Char) (rest : List Char) : Bool :=
  !(isBlank c || isBreak c || isIndicator c) ||
    (c = '-' && !(rest.head?.any isBlank)) ||
    (!flow && (c = '?' || c = ':') && !spaceAhead rest)

/-- The token at the cursor is told by its first characters. -/
def token (s : Scanner) : Option Scanner :=
  match s.cursor.rest with
  | [] => s.atEnd
  | c :: rest =>
      if s.cursor.column = 0 ∧ c = '%' then s.directive
      else if s.cursor.atMark '-' then s.documentMark .documentStart
      else if s.cursor.atMark '.' then s.documentMark .documentEnd
      else if c = '[' then s.openFlow .flowSequenceStart
      else if c = '\x7b' then s.openFlow .flowMappingStart
      else if c = ']' then s.closeFlow .flowSequenceEnd
      else if c = '\x7d' then s.closeFlow .flowMappingEnd
      else if c = ',' then s.flowEntry
      else if c = '-' ∧ spaceAhead rest then s.blockEntry
      else if c = '?' ∧ (s.inFlow ∨ spaceAhead rest) then s.explicitKey
      else if c = ':' ∧ (s.inFlow ∨ spaceAhead rest) then s.value
      else if c = '*' then s.name .alias
      else if c = '&' then s.name .anchor
      else if c = '!' then s.tag
      else if c = '|' ∧ !s.inFlow then s.blockScalar true
      else if c = '>' ∧ !s.inFlow then s.blockScalar false
      else if c = '\'' then s.quotedScalar true
      else if c = '"' then s.quotedScalar false
      else if startsPlain s.inFlow c rest then s.plainScalar
      else none

/-- A token that passes the line or the reach of a required key is a fault in itself. -/
def next (s : Scanner) : Option Scanner := do
  (← (← s.toNextToken).token).expireKeys

/-- Tokens from the first key that is still possible are held back. -/
def released (s : Scanner) : List Token :=
  let held := (s.blockKey :: s.flowKeys).filterMap fun key =>
    (fresh s.cursor key).map (·.number)
  s.tokens.reverse.take (held.foldl min s.count)

end Scanner

/-- The tokens that a text gives up to its end or up to a fault. -/
structure Stream where
  tokens : List Token
  complete : Bool
  deriving DecidableEq, Repr

namespace Stream

def scan : Nat → Scanner → Stream
  | 0, s => ⟨s.released, false⟩
  | fuel + 1, s =>
      match s.next with
      | none => ⟨s.released, false⟩
      | some further =>
          if further.tokens.head? = some .streamEnd then ⟨further.tokens.reverse, true⟩
          else scan fuel further

/-- The longest start of a text that fits a number of bytes, and the rest. -/
def splitBytes : Nat → List Char → List Char → List Char × List Char
  | _, done, [] => (done.reverse, [])
  | room, done, c :: rest =>
      if c.utf8Size ≤ room then splitBytes (room - c.utf8Size) (c :: done) rest
      else (done.reverse, c :: rest)

/--
A text is taken in blocks of 16 KiB, and a block with a forbidden character is refused whole.
The answer is what stands before the refused block, and whether the text is cut there.
-/
def accept : Nat → List Char → List Char × Bool
  | 0, text => (text, false)
  | fuel + 1, text =>
      match splitBytes 16384 [] text with
      | ([], _) => ([], false)
      | (block, rest) =>
          if block.all isAdmitted then
            let (further, cut) := accept fuel rest
            (block ++ further, cut)
          else ([], true)

def read (text : List Char) : Stream :=
  let (accepted, cut) := accept (text.length + 1) text
  scan (accepted.length + 2) (.start accepted cut)

end Stream

end GuestPod.Yaml
