/-!
# The slot

One operation at a time holds the slot of a device.  Each taking gives out a guard with a number of
its own; a guard that has been overtaken leaves the new holder alone.
-/

namespace WalletGateway.Access

/-- The right to use a device. -/
structure Guard where
  id : UInt64
  /-- A released guard has no effect any more. -/
  released : Bool := false
  deriving DecidableEq

/-- Who holds the slot, and the number of the next guard. -/
structure Slot where
  holder : Option UInt64 := none
  next : UInt64 := 0
  deriving DecidableEq, Inhabited

namespace Slot

/-- Whether nobody holds the slot. -/
def isFree (slot : Slot) : Bool :=
  slot.holder.isNone

/-- Takes the slot, from its holder if there is one. -/
def take (slot : Slot) : Guard × Slot :=
  (⟨slot.next, false⟩, ⟨some slot.next, slot.next + 1⟩)

/-- Gives the slot back, if the guard is in force and still the latest. -/
def giveBack (slot : Slot) (guard : Guard) : Slot :=
  if !guard.released && slot.holder == some guard.id then { slot with holder := none } else slot

end Slot

end WalletGateway.Access
