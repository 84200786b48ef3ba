import GuestPod.Json.Printer
import GuestPod.Rehearsal
import GuestPod.Wire.Container
import GuestPod.Wire.SettingsFile
import GuestPod.Wire.Vm
import GuestPod.Proofs.Replay
import GuestPod.Proofs.Story
import GuestPod.Proofs.Trail
import GuestPod.Proofs.Author
import GuestPod.Proofs.Delivery
import GuestPod.Proofs.Registration
import GuestPod.Proofs.Join
import GuestPod.Proofs.Teardown
import GuestPod.Proofs.Retry
import GuestPod.Proofs.Reuse
import GuestPod.Proofs.Staleness
import GuestPod.Proofs.Isolation
import GuestPod.Proofs.Rest
import GuestPod.Proofs.Waiting
import GuestPod.Proofs.Idleness
import GuestPod.Proofs.Forwarding
import GuestPod.Proofs.Wiring
import GuestPod.Proofs.Detachment
import GuestPod.Proofs.Histories
import GuestPod.Proofs.Survival
import GuestPod.Proofs.RoundTrip
import GuestPod.Proofs.Launching
import GuestPod.Proofs.FieldLists
import GuestPod.Proofs.Rearranging
import GuestPod.Proofs.Sizing
