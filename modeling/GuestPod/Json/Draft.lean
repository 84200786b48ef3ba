/-
This file reads a JSON text as far as it goes.  A draft keeps what was read, in the order of the
text, and says where and why reading stopped; so a later reader meets every fault in its place.
-/

import GuestPod.Json.Literal

namespace GuestPod.Json

/-- A member without a name has one that holds half a surrogate pair. -/
inductive Draft where
  | null
  | boolean (b : Bool)
  | number (n : Number)
  | string (s : String)
  | tooGreat
  | unpaired
  | array (items : List Draft) (halt : Option Halt)
  | object (members : List (Option String × Draft)) (halt : Option Halt)
  | halted (halt : Halt)
  deriving Repr

namespace Draft

def isSpace (c : Char) : Bool :=
  c = ' ' || c = '\n' || c = '\t' || c = '\r'

def skipSpace (text : List Char) : List Char :=
  text.dropWhile isSpace

/-- A reading that stopped leaves no text over. -/
abbrev Reading := Draft × Option (List Char)

def stopAt (halt : Halt) : Reading := (.halted halt, none)

/-- The letters of a word are compared one by one. -/
def keyword (value : Draft) : List Char → List Char → Reading
  | [], rest => (value, some rest)
  | _ :: _, [] => stopAt (.both .ended)
  | letter :: letters, c :: rest =>
      if c = letter then keyword value letters rest else stopAt (.both .malformed)

def numeral (text : List Char) : Reading :=
  match Numeral.scan text with
  | .error halt => stopAt halt
  | .ok (parts, rest) =>
      match parts.value with
      | some n => (.number n, some rest)
      | none => (.tooGreat, some rest)

def literal (text : List Char) : Reading :=
  match Literal.read text with
  | .whole content rest => (.string (String.ofList content), some rest)
  | .unpaired rest => (.unpaired, some rest)
  | .halted halt => stopAt halt

/-- The value of a member follows a colon. -/
def afterColon (text : List Char) : Except Halt (List Char) :=
  match skipSpace text with
  | [] => .error (.both .ended)
  | ':' :: rest => .ok rest
  | _ => .error (.both .malformed)

mutual

/-- The fuel bounds the number of values and lists that are begun. -/
def readValue : Nat → List Char → Reading
  | 0, _ => stopAt (.both .malformed)
  | fuel + 1, text =>
      match skipSpace text with
      | [] => stopAt (.both .ended)
      | 'n' :: rest => keyword .null ['u', 'l', 'l'] rest
      | 't' :: rest => keyword (.boolean true) ['r', 'u', 'e'] rest
      | 'f' :: rest => keyword (.boolean false) ['a', 'l', 's', 'e'] rest
      | '"' :: rest => literal rest
      | '[' :: rest =>
          match skipSpace rest with
          | [] => (.array [] (some (.both .ended)), none)
          | ']' :: rest => (.array [] none, some rest)
          | rest => readItems fuel [] rest
      | '\x7b' :: rest =>
          match skipSpace rest with
          | [] => (.object [] (some (.both .ended)), none)
          | '\x7d' :: rest => (.object [] none, some rest)
          | rest => readMembers fuel [] rest
      | c :: rest =>
          if c = '-' ∨ c.isDigit then numeral (c :: rest) else stopAt (.both .malformed)

/-- An item is due; those before it are held in reverse. -/
def readItems : Nat → List Draft → List Char → Reading
  | 0, _, _ => stopAt (.both .malformed)
  | fuel + 1, done, text =>
      match readValue fuel text with
      | (item, none) => (.array (item :: done).reverse (some (.both .malformed)), none)
      | (item, some rest) =>
          match skipSpace rest with
          | [] => (.array (item :: done).reverse (some (.both .ended)), none)
          | ']' :: rest => (.array (item :: done).reverse none, some rest)
          | ',' :: rest => readItems fuel (item :: done) rest
          | _ => (.array (item :: done).reverse (some (.both .malformed)), none)

/-- A member is due; those before it are held in reverse. -/
def readMembers : Nat → List (Option String × Draft) → List Char → Reading
  | 0, _, _ => stopAt (.both .malformed)
  | fuel + 1, done, text =>
      let stopped (halt : Halt) : Reading := (.object done.reverse (some halt), none)
      let member (name : Option String) (rest : List Char) : Reading :=
        match afterColon rest with
        | .error halt =>
            (.object ((name, .halted halt) :: done).reverse (some halt), none)
        | .ok rest =>
            match readValue fuel rest with
            | (value, none) =>
                (.object ((name, value) :: done).reverse (some (.both .malformed)), none)
            | (value, some rest) =>
                let done := (name, value) :: done
                match skipSpace rest with
                | [] => (.object done.reverse (some (.both .ended)), none)
                | '\x7d' :: rest => (.object done.reverse none, some rest)
                | ',' :: rest => readMembers fuel done rest
                | _ => (.object done.reverse (some (.both .malformed)), none)
      match skipSpace text with
      | [] => stopped (.both .ended)
      | '"' :: rest =>
          match Literal.read rest with
          | .whole content rest => member (some (String.ofList content)) rest
          | .unpaired rest => member none rest
          | .halted halt => stopped halt
      | _ => stopped (.both .malformed)

end

mutual

/-- A value is a draft without faults. -/
def ofValue : Json → Draft
  | .null => .null
  | .boolean b => .boolean b
  | .number n => .number n
  | .string s => .string s
  | .array items => .array (ofItems items) none
  | .object members => .object (ofMembers members) none
termination_by structural value => value

def ofItems : List Json → List Draft
  | [] => []
  | item :: rest => ofValue item :: ofItems rest
termination_by structural items => items

def ofMembers : List (String × Json) → List (Option String × Draft)
  | [] => []
  | member :: rest => ofMember member :: ofMembers rest
termination_by structural members => members

def ofMember : String × Json → Option String × Draft
  | (name, value) => (some name, ofValue value)
termination_by structural member => member

end

end Draft

/-- A document is one draft; text after it is a fault that only a whole reading meets. -/
structure Document where
  body : Draft
  alone : Bool
  deriving Repr

namespace Document

/-- Every value takes at least one character, and each may begin a list. -/
def read (text : List Char) : Document :=
  match Draft.readValue (2 * text.length + 2) text with
  | (body, none) => ⟨body, true⟩
  | (body, some rest) => ⟨body, (Draft.skipSpace rest).isEmpty⟩

end Document

end GuestPod.Json
