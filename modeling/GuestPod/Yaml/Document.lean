/-
This file reads the first document of a token stream as a list of events.
-/

import GuestPod.Yaml.Stream

namespace GuestPod.Yaml

/-- A scalar keeps its tag, if it has one that says something. -/
structure Scalar where
  text : String
  style : Style
  tag : Option String
  deriving DecidableEq, Repr

/-- An alias refers to a numbered anchor. -/
inductive Event where
  | scalar (scalar : Scalar)
  | alias (number : Nat)
  | sequenceStart
  | sequenceEnd
  | mappingStart
  | mappingEnd
  deriving DecidableEq, Repr

/--
An anchor gets the number of names that were known before it, and a node with the same number
takes the place of an older one.
-/
structure Anchors where
  names : List (List Char × Nat)
  nodes : List (Nat × Event)
  deriving DecidableEq, Repr

namespace Anchors

def none : Anchors := ⟨[], []⟩

def add (anchors : Anchors) (name : List Char) (node : Event) : Anchors where
  names := (name, anchors.names.length) :: anchors.names.filter (·.1 ≠ name)
  nodes := (anchors.names.length, node) :: anchors.nodes

def number? (anchors : Anchors) (name : List Char) : Option Nat :=
  (anchors.names.find? (·.1 = name)).map (·.2)

def node? (anchors : Anchors) (number : Nat) : Option Event :=
  (anchors.nodes.find? (·.1 = number)).map (·.2)

end Anchors

/-- What is due next; an entry may be the first of its flow. -/
inductive Due where
  | content
  | node (block : Bool) (indentless : Bool)
  | blockEntry
  | indentlessEntry
  | blockKey
  | blockValue
  | flowEntry (first : Bool)
  | pairKey
  | pairValue
  | pairEnd
  | flowKey (first : Bool)
  | flowValue
  | noFlowValue
  | documentEnd
  deriving DecidableEq, Repr

/-- The tokens left, what is due, and the events so far in reverse. -/
structure Parse where
  tokens : List Token
  due : List Due
  events : List Event
  anchors : Anchors
  handles : List (List Char × List Char)
  deriving DecidableEq, Repr

namespace Parse

def emit (p : Parse) (event : Event) : Parse :=
  { p with events := event :: p.events }

def expect (p : Parse) (due : List Due) : Parse :=
  { p with due := due ++ p.due }

def drop (p : Parse) : Parse :=
  { p with tokens := p.tokens.drop 1 }

/-- An absent value is an empty plain scalar. -/
def emitEmpty (p : Parse) : Parse :=
  p.emit (.scalar ⟨"", .plain, none⟩)

def emitNode (p : Parse) (anchor : Option (List Char)) (event : Event) : Parse :=
  match anchor with
  | some name => { p with anchors := p.anchors.add name event }.emit event
  | none => p.emit event

/-- The anchor and the tag of a node come in either order. -/
def properties : List Token →
    Option (List Char) × Option (List Char × List Char) × List Token
  | .anchor name :: .tag handle suffix :: rest => (some name, some (handle, suffix), rest)
  | .anchor name :: rest => (some name, none, rest)
  | .tag handle suffix :: .anchor name :: rest => (some name, some (handle, suffix), rest)
  | .tag handle suffix :: rest => (none, some (handle, suffix), rest)
  | rest => (none, none, rest)

/-- A handle stands for the expansion that was given to it. -/
def expand (handles : List (List Char × List Char)) (handle suffix : List Char) :
    Option (List Char) :=
  if handle.isEmpty then some suffix
  else (handles.find? (·.1 = handle)).map (·.2 ++ suffix)

/-- A lone exclamation mark is no tag for a scalar. -/
def scalarOf (text : List Char) (style : Style) (tag : Option (List Char)) : Scalar :=
  ⟨String.ofList text, style, (tag.filter (· ≠ ['!'])).map String.ofList⟩

def node (p : Parse) (block indentless : Bool) : Option Parse :=
  match p.tokens with
  | .alias name :: rest => do
      let number ← p.anchors.number? name
      return { p with tokens := rest }.emit (.alias number)
  | tokens => do
      let (anchor, tagged, tokens) := properties tokens
      let tag ← match tagged with
        | none => some none
        | some (handle, suffix) => (expand p.handles handle suffix).map some
      let p := { p with tokens := tokens }
      match tokens with
      | [] => none
      | .blockEntry :: _ =>
          if indentless then
            return (p.emitNode anchor .sequenceStart).expect [.indentlessEntry]
          else if anchor.isSome || tag.isSome then
            return p.emitNode anchor (.scalar (scalarOf [] .plain tag))
          else none
      | .scalar text style :: _ =>
          return p.drop.emitNode anchor (.scalar (scalarOf text style tag))
      | .flowSequenceStart :: _ =>
          return (p.drop.emitNode anchor .sequenceStart).expect [.flowEntry true]
      | .flowMappingStart :: _ =>
          return (p.drop.emitNode anchor .mappingStart).expect [.flowKey true]
      | token :: _ =>
          if block && token = .blockSequenceStart then
            return (p.drop.emitNode anchor .sequenceStart).expect [.blockEntry]
          else if block && token = .blockMappingStart then
            return (p.drop.emitNode anchor .mappingStart).expect [.blockKey]
          else if anchor.isSome || tag.isSome then
            return p.emitNode anchor (.scalar (scalarOf [] .plain tag))
          else none

/-- A node is due unless the next token shows that its place is empty. -/
def nodeUnless (p : Parse) (empty : Token → Bool) (block indentless : Bool) (later : Due) :
    Option Parse :=
  match p.tokens with
  | [] => none
  | token :: _ =>
      if empty token then some (p.emitEmpty.expect [later])
      else some (p.expect [.node block indentless, later])

def isOneOf (tokens : List Token) (token : Token) : Bool := tokens.contains token

def isDocumentBound : Token → Bool
  | .version _ _ | .tagShorthand _ _ | .documentStart | .documentEnd | .streamEnd => true
  | _ => false

/--
The first due item is taken up; the others wait.  Even an absent value is known only once the
token after its place is.
-/
def step (p : Parse) : Due → Option Parse
  | .content =>
      match p.tokens with
      | [] => none
      | token :: _ =>
          if isDocumentBound token then some p.emitEmpty
          else some (p.expect [.node true false])
  | .node block indentless => p.node block indentless
  | .blockEntry =>
      match p.tokens with
      | .blockEntry :: _ =>
          p.drop.nodeUnless (isOneOf [.blockEntry, .blockEnd]) true false .blockEntry
      | .blockEnd :: _ => some (p.drop.emit .sequenceEnd)
      | _ => none
  | .indentlessEntry =>
      match p.tokens with
      | [] => none
      | .blockEntry :: _ =>
          p.drop.nodeUnless (isOneOf [.blockEntry, .key, .value, .blockEnd]) true false
            .indentlessEntry
      | _ => some (p.emit .sequenceEnd)
  | .blockKey =>
      match p.tokens with
      | .key :: _ =>
          p.drop.nodeUnless (isOneOf [.key, .value, .blockEnd]) true true .blockValue
      | .blockEnd :: _ => some (p.drop.emit .mappingEnd)
      | _ => none
  | .blockValue =>
      match p.tokens with
      | [] => none
      | .value :: _ =>
          p.drop.nodeUnless (isOneOf [.key, .value, .blockEnd]) true true .blockKey
      | _ => some (p.emitEmpty.expect [.blockKey])
  | .flowEntry first => do
      let p ← match first, p.tokens with
        | true, _ => some p
        | false, .flowEntry :: _ => some p.drop
        | false, .flowSequenceEnd :: _ => some p
        | false, _ => none
      match p.tokens with
      | [] => none
      | .flowSequenceEnd :: _ => return p.drop.emit .sequenceEnd
      | .key :: _ => return (p.drop.emit .mappingStart).expect [.pairKey]
      | _ => return p.expect [.node false false, .flowEntry false]
  | .pairKey =>
      match p.tokens with
      | [] => none
      | token :: _ =>
          if isOneOf [.value, .flowEntry, .flowSequenceEnd] token then
            some (p.drop.emitEmpty.expect [.pairValue])
          else some (p.expect [.node false false, .pairValue])
  | .pairValue =>
      match p.tokens with
      | [] => none
      | .value :: _ =>
          p.drop.nodeUnless (isOneOf [.flowEntry, .flowSequenceEnd]) false false .pairEnd
      | _ => some (p.emitEmpty.expect [.pairEnd])
  | .pairEnd =>
      if p.tokens.isEmpty then none else some ((p.emit .mappingEnd).expect [.flowEntry false])
  | .flowKey first => do
      let p ← match first, p.tokens with
        | true, _ => some p
        | false, .flowEntry :: _ => some p.drop
        | false, .flowMappingEnd :: _ => some p
        | false, _ => none
      match p.tokens with
      | [] => none
      | .flowMappingEnd :: _ => return p.drop.emit .mappingEnd
      | .key :: _ =>
          p.drop.nodeUnless (isOneOf [.value, .flowEntry, .flowMappingEnd]) false false .flowValue
      | _ => return p.expect [.node false false, .noFlowValue]
  | .flowValue =>
      match p.tokens with
      | [] => none
      | .value :: _ =>
          p.drop.nodeUnless (isOneOf [.flowEntry, .flowMappingEnd]) false false (.flowKey false)
      | _ => some (p.emitEmpty.expect [.flowKey false])
  | .noFlowValue =>
      if p.tokens.isEmpty then none else some (p.emitEmpty.expect [.flowKey false])
  | .documentEnd =>
      match p.tokens with
      | [] => none
      | .documentEnd :: _ => some p.drop
      | _ => some p

end Parse

/--
The events of the first document, as far as its tokens give them.  It is whole when nothing is
wrong with it and no other document follows.
-/
structure Document where
  events : List Event
  anchors : Anchors
  whole : Bool
  deriving DecidableEq, Repr

namespace Document

/-- After the document only further ends and the end of the stream may come. -/
def endsStream (tokens : List Token) : Bool :=
  tokens.dropWhile (· = .documentEnd) = [.streamEnd]

def run : Nat → Parse → Document
  | 0, p => ⟨p.events.reverse, p.anchors, false⟩
  | fuel + 1, p =>
      match p.due with
      | [] => ⟨p.events.reverse, p.anchors, endsStream p.tokens⟩
      | due :: later =>
          match { p with due := later }.step due with
          | none => ⟨p.events.reverse, p.anchors, false⟩
          | some further => run fuel further

def standardHandles : List (List Char × List Char) :=
  [(['!'], ['!']), (['!', '!'], "tag:yaml.org,2002:".toList)]

/-- Directives give a version at most once and a handle at most once. -/
def directives : Bool → List (List Char × List Char) → List Token →
    Option (List (List Char × List Char) × List Token)
  | seen, handles, .version major minor :: rest =>
      if !seen && major = 1 && (minor = 1 || minor = 2) then directives true handles rest
      else none
  | seen, handles, .tagShorthand handle expansion :: rest =>
      if handles.any (·.1 = handle) then none
      else directives seen ((handle, expansion) :: handles) rest
  | _, handles, rest => some (handles, rest)

def nothing : Document := ⟨[], .none, false⟩

/-- Every token is due at most four times. -/
def parse (tokens : List Token) (due : List Due) (handles : List (List Char × List Char)) :
    Document :=
  run (4 * tokens.length + 4) ⟨tokens, due, [], .none, handles⟩

/-- A stream without a document has one empty scalar. -/
def ofStream (stream : Stream) : Document :=
  match stream.tokens with
  | [] => nothing
  | .streamEnd :: _ => ⟨[.scalar ⟨"", .plain, none⟩], .none, true⟩
  | .documentStart :: _ | .version _ _ :: _ | .tagShorthand _ _ :: _ =>
      match directives false [] stream.tokens with
      | some (handles, .documentStart :: rest) =>
          parse rest [.content, .documentEnd] (handles ++ standardHandles)
      | _ => nothing
  | tokens => parse tokens [.node true false, .documentEnd] standardHandles

def read (text : List Char) : Document :=
  ofStream (Stream.read text)

end Document

end GuestPod.Yaml
