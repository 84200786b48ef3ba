/-
This file holds the messages that create and remove containers.
-/

import GuestPod.Json.Value

namespace GuestPod

structure Variable where
  key : String
  value : String
  deriving DecidableEq, Repr

structure Metadata where
  name : String
  attempt : UInt32
  deriving DecidableEq, Repr

/-- Members without a meaning here travel along unread, ordered by name. -/
structure ContainerConfig where
  metadata : Metadata
  environment : List Variable
  extra : Json.Members
  deriving DecidableEq, Repr

namespace ContainerConfig

def empty : ContainerConfig := ⟨⟨"", 0⟩, [], []⟩

/-- The first entry of a key counts. -/
def lookup (key : String) (config : ContainerConfig) : Option String :=
  (config.environment.find? (·.key = key)).map (·.value)

/-- A new entry goes to the end, behind every older one. -/
def append (config : ContainerConfig) (key value : String) : ContainerConfig :=
  { config with environment := config.environment ++ [⟨key, value⟩] }

@[simp] theorem environment_append (config : ContainerConfig) (key value : String) :
    (config.append key value).environment = config.environment ++ [⟨key, value⟩] := rfl

theorem lookup_append (config : ContainerConfig) (key value wanted : String) :
    (config.append key value).lookup wanted =
      (config.lookup wanted).or (if key = wanted then some value else none) := by
  simp only [lookup, environment_append, List.find?_append]
  cases config.environment.find? (·.key = wanted) with
  | some entry => simp
  | none => by_cases h : key = wanted <;> simp [h]

end ContainerConfig

structure CreateRequest where
  sandbox : String
  config : ContainerConfig
  extra : Json.Members
  deriving DecidableEq, Repr

namespace CreateRequest

def named (sandbox name : String) : CreateRequest :=
  ⟨sandbox, { ContainerConfig.empty with metadata := ⟨name, 0⟩ }, []⟩

def containerName (request : CreateRequest) : String :=
  request.config.metadata.name

def append (request : CreateRequest) (key value : String) : CreateRequest :=
  { request with config := request.config.append key value }

end CreateRequest

structure CreateResponse where
  container : String
  extra : Json.Members
  deriving DecidableEq, Repr

structure RemoveRequest where
  container : String
  deriving DecidableEq, Repr

end GuestPod
