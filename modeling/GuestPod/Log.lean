/-
This file holds log levels, log entries and the sink that shows them.
-/

import GuestPod.Error
import GuestPod.Text.Word

namespace GuestPod

inductive Level where
  | error
  | warn
  | info
  | debug
  | trace
  deriving DecidableEq, Repr

namespace Level

def name : Level → String
  | .error => "ERROR"
  | .warn => "WARN"
  | .info => "INFO"
  | .debug => "DEBUG"
  | .trace => "TRACE"

/-- The levels are numbered from one in the order of growing detail. -/
def rank : Level → Nat
  | .error => 1
  | .warn => 2
  | .info => 3
  | .debug => 4
  | .trace => 5

def all : List Level := [.error, .warn, .info, .debug, .trace]

/-- A level is given by its number or by its name in any case. -/
def parse? (text : String) : Option Level :=
  let byNumber : Option Level :=
    match Text.readWord (Text.wordBound 64) text.toList with
    | .ok number => all.find? (·.rank = number)
    | .error _ => none
  byNumber.or (all.find? fun level =>
    level.name.toList.map Char.toLower = text.toList.map Char.toLower)

end Level

namespace Log

/-- The fields of an entry are shown as text. -/
structure Entry where
  level : Level
  message : String
  fields : List (String × String)
  deriving DecidableEq, Repr

/-- A sink shows nothing before a level is installed, and the first level stays. -/
structure Sink where
  level? : Option Level
  deriving DecidableEq, Repr

namespace Sink

def closed : Sink := ⟨none⟩

def install (level : Level) (sink : Sink) : Except Error Sink :=
  match sink.level? with
  | none => .ok ⟨some level⟩
  | some _ =>
      .error (.internal ("failed to set tracing subscriber: " ++
        "a global default trace dispatcher has already been set"))

/-- An installation that fails leaves the sink as it is. -/
def tryInstall (level : Level) (sink : Sink) : Bool × Sink :=
  match sink.install level with
  | .ok opened => (true, opened)
  | .error _ => (false, sink)

/-- An entry is shown on one line unless it is more detailed than the sink. -/
def lines (sink : Sink) (level : Level) (message : String) : List String :=
  match sink.level? with
  | none => []
  | some limit =>
      if level.rank ≤ limit.rank then [level.name ++ " " ++ message] else []

end Sink

end Log

end GuestPod
