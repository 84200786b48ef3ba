/-
This file holds the ways in which well-formed data fails to have the wanted shape, and their
wording.
-/

import GuestPod.Decimal.Extended
import GuestPod.Text.Quoted

namespace GuestPod.Decoding

/-- What the data holds in the place of the wanted value. -/
inductive Found where
  | nothing
  | boolean (b : Bool)
  | integer (n : Int)
  | wide (n : Int)
  | real (x : Decimal.Extended)
  | string (s : String)
  | sequence
  | map
  deriving DecidableEq, Repr

/-- A data format has its own word for nothing and its own layout of numbers. -/
structure Style where
  nothing : String
  layout : Decimal.Layout

/-- An integer beyond 64 bits is named with the width that holds it. -/
def Found.describe (style : Style) : Found → String
  | .nothing => style.nothing
  | .boolean b => "boolean `" ++ (if b then "true" else "false") ++ "`"
  | .integer n => "integer `" ++ toString n ++ "`"
  | .wide n => "integer `" ++ toString n ++ (if n < 0 then "` as i128" else "` as u128")
  | .real x => "floating point `" ++ String.ofList (x.render style.layout) ++ "`"
  | .string s => "string " ++ Text.quoted s
  | .sequence => "sequence"
  | .map => "map"

/-- What the reader wants. -/
inductive Wanted where
  | text
  | boolean
  | integer
  | real
  | nothing
  | sequence
  | word (bits : Nat)
  | dateTime
  | fieldName
  | record (name : String)
  | elements (name : String) (count : Nat)
  | fewerElements
  deriving DecidableEq, Repr

def Wanted.describe : Wanted → String
  | .text => "a string"
  | .boolean => "a boolean"
  | .integer => "an integer"
  | .real => "a float"
  | .nothing => "null"
  | .sequence => "a sequence"
  | .word bits => "u" ++ toString bits
  | .dateTime => "an RFC 3339 formatted date and time string"
  | .fieldName => "field identifier"
  | .record name => "struct " ++ name
  | .elements name 1 => "struct " ++ name ++ " with 1 element"
  | .elements name count => "struct " ++ name ++ " with " ++ toString count ++ " elements"
  | .fewerElements => "fewer elements in array"

/-- A text that fails the grammar of dates and times is a mismatch that has no wording. -/
inductive Mismatch where
  | wrongType (found : Found) (wanted : Wanted)
  | wrongValue (found : Found) (wanted : Wanted)
  | wrongLength (length : Nat) (wanted : Wanted)
  | unknownField (name : String) (known : List String)
  | duplicateField (name : String)
  | missingField (name : String)
  | notADateTime
  deriving DecidableEq, Repr

def Mismatch.message? (style : Style) : Mismatch → Option String
  | .wrongType found wanted =>
      some ("invalid type: " ++ found.describe style ++ ", expected " ++ wanted.describe)
  | .wrongValue found wanted =>
      some ("invalid value: " ++ found.describe style ++ ", expected " ++ wanted.describe)
  | .wrongLength length wanted =>
      some ("invalid length " ++ toString length ++ ", expected " ++ wanted.describe)
  | .unknownField name known =>
      some ("unknown field `" ++ name ++ "`, expected one of " ++
        ", ".intercalate (known.map fun field => "`" ++ field ++ "`"))
  | .duplicateField name => some ("duplicate field `" ++ name ++ "`")
  | .missingField name => some ("missing field `" ++ name ++ "`")
  | .notADateTime => none

end GuestPod.Decoding
