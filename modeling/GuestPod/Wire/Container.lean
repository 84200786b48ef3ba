/-
This file gives container messages their JSON form.
-/

import GuestPod.Container
import GuestPod.Json.Decoder

namespace GuestPod

open Json

namespace Variable

structure Partial where
  key : Option String
  value : Option String

def shape : Shape Partial Variable where
  record := {
    name := "KeyValue"
    fields := [
      field "key" true Partial.key (fun key filled => { filled with key := some key }) Node.text,
      field "value" true Partial.value (fun value filled => { filled with value := some value })
        Node.text]
    fault := .mismatch }
  empty := ⟨none, none⟩
  others := .skipped
  finish filled := do
    return ⟨← demand "key" filled.key, ← demand "value" filled.value⟩

def toJson (entry : Variable) : Json :=
  .object [("key", .string entry.key), ("value", .string entry.value)]

end Variable

namespace Metadata

structure Partial where
  name : Option String
  attempt : Option UInt32

def shape : Shape Partial Metadata where
  record := {
    name := "ContainerMetadata"
    fields := [
      field "name" true Partial.name (fun name filled => { filled with name := some name })
        Node.text,
      field "attempt" false Partial.attempt
        (fun attempt filled => { filled with attempt := some attempt })
        fun node => UInt32.ofNat <$> node.word 32]
    fault := .mismatch }
  empty := ⟨none, none⟩
  others := .skipped
  finish filled := do
    return ⟨← demand "name" filled.name, filled.attempt.getD 0⟩

def toJson (metadata : Metadata) : Json :=
  .object [("name", .string metadata.name), ("attempt", .ofNat metadata.attempt.toNat)]

end Metadata

namespace ContainerConfig

structure Partial where
  metadata : Option Metadata
  environment : Option (List Variable)
  extra : Members

/-- Both fields have defaults, and every other member is kept. -/
def shape : Shape Partial ContainerConfig where
  record := {
    name := "ContainerConfig"
    fields := [
      field "metadata" false Partial.metadata
        (fun metadata filled => { filled with metadata := some metadata }) Metadata.shape.read,
      field "envs" false Partial.environment
        (fun environment filled => { filled with environment := some environment })
        (Node.list Variable.shape.read)]
    fault := .mismatch }
  empty := ⟨none, none, []⟩
  others := .kept fun name value filled =>
    { filled with extra := filled.extra.insert name value }
  finish filled := .ok {
    metadata := filled.metadata.getD ContainerConfig.empty.metadata
    environment := filled.environment.getD []
    extra := filled.extra }

def toJson (config : ContainerConfig) : Json :=
  .object ([("metadata", config.metadata.toJson),
    ("envs", .array (config.environment.map Variable.toJson))] ++ config.extra)

end ContainerConfig

namespace CreateRequest

structure Partial where
  sandbox : Option String
  config : Option ContainerConfig
  extra : Members

def shape : Shape Partial CreateRequest where
  record := {
    name := "CreateContainerRequest"
    fields := [
      field "podSandboxId" true Partial.sandbox
        (fun sandbox filled => { filled with sandbox := some sandbox }) Node.text,
      field "config" false Partial.config
        (fun config filled => { filled with config := some config }) ContainerConfig.shape.read]
    fault := .mismatch }
  empty := ⟨none, none, []⟩
  others := .kept fun name value filled =>
    { filled with extra := filled.extra.insert name value }
  finish filled := do
    return {
      sandbox := ← demand "podSandboxId" filled.sandbox
      config := filled.config.getD .empty
      extra := filled.extra }

def toJson (request : CreateRequest) : Json :=
  .object ([("podSandboxId", .string request.sandbox), ("config", request.config.toJson)] ++
    request.extra)

end CreateRequest

namespace CreateResponse

structure Partial where
  container : Option String
  extra : Members

def shape : Shape Partial CreateResponse where
  record := {
    name := "CreateContainerResponse"
    fields := [
      field "containerId" true Partial.container
        (fun container filled => { filled with container := some container }) Node.text]
    fault := .mismatch }
  empty := ⟨none, []⟩
  others := .kept fun name value filled =>
    { filled with extra := filled.extra.insert name value }
  finish filled := do
    return ⟨← demand "containerId" filled.container, filled.extra⟩

def toJson (response : CreateResponse) : Json :=
  .object (("containerId", .string response.container) :: response.extra)

end CreateResponse

namespace RemoveRequest

def shape : Shape (Option String) RemoveRequest where
  record := {
    name := "RemoveContainerRequest"
    fields := [
      field "containerId" true id (fun container _ => some container) Node.text]
    fault := .mismatch }
  empty := none
  others := .skipped
  finish filled := do return ⟨← demand "containerId" filled⟩

def toJson (request : RemoveRequest) : Json :=
  .object [("containerId", .string request.container)]

end RemoveRequest

end GuestPod
