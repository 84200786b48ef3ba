/-
This file describes how the members of a record are read one after another, whatever form they
come in.
-/

import GuestPod.Decoding.Mismatch

namespace GuestPod.Decoding

/-- A field stores what a node holds into the record that is being filled. -/
structure Field (ε δ σ : Type) where
  name : String
  required : Bool
  filled : σ → Bool
  read : δ → σ → Except ε σ

/-- A record knows its fields in the order of their declaration. -/
structure Record (ε δ σ : Type) where
  name : String
  fields : List (Field ε δ σ)
  fault : Mismatch → ε

namespace Record

variable {ε δ σ : Type}

def field? (record : Record ε δ σ) (name : String) : Option (Field ε δ σ) :=
  record.fields.find? (·.name = name)

def names (record : Record ε δ σ) : List String :=
  record.fields.map (·.name)

/-- A second value for a field is refused before it is looked at. -/
def store (record : Record ε δ σ) (field : Field ε δ σ) (node : δ) (filled : σ) : Except ε σ :=
  if field.filled filled then .error (record.fault (.duplicateField field.name))
  else field.read node filled

def unknown (record : Record ε δ σ) (name : String) : ε :=
  record.fault (.unknownField name record.names)

end Record

end GuestPod.Decoding
