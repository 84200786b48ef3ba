/-
This file sorts the containers of a pod by their names.
-/

import GuestPod.Contract

namespace GuestPod

inductive Role where
  | workload
  | sidecar
  | other
  deriving DecidableEq, Repr

namespace Role

/-- The match is exact. -/
def classify (name : String) : Role :=
  if name = Contract.workloadName then .workload
  else if name = Contract.sidecarName then .sidecar
  else .other

def describe : Role → String
  | .workload => "workload"
  | .sidecar => "sidecar"
  | .other => "other"

end Role

end GuestPod
