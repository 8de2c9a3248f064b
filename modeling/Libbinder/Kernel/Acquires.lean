import Libbinder.Kernel.Incoming

/-!
# The references taken for a received payload

A process keeps a strong reference for every remote binder it was sent.  A
local binder that comes home, a weak binder and a descriptor need none.

The decoder reads a handle from every flat object and gives local and remote
binders one kind, and the loop over the objects stops at the first refused
command.  Both show in the commands that the loop leaves at the driver.
-/

namespace Libbinder.Kernel

open Go List DriverEvent WriteCommand

namespace WriteCommand

/-- The handle of a strong acquire. -/
def acquired : WriteCommand → Option UInt32
  | .acquire handle => some handle
  | _ => none

/-- What an accepted command does to the strong references on a handle. -/
def strong (handle : UInt32) : WriteCommand → Int
  | .acquire other => if other = handle then 1 else 0
  | .release other => if other = handle then -1 else 0
  | _ => 0

end WriteCommand

variable {payload : List UInt8} {objects : List ParcelObject} {outcomes : Nat → WriteOutcome}

end Libbinder.Kernel
