import WalletGateway.Access.State
import WalletGateway.Device.Script
import WalletGateway.Numeric.Total

/-!
# Rehearsals

The access to a scripted device.  After each event from outside, `Rehearsal.settle` lets everything
go on that can: replies of the script are handed over, and operations take their own steps, until
all of them wait.

Settling ends because every step uses up something: an entry of the script, a reply, or a stage of
an operation.  `weight` counts what is left.
-/

namespace WalletGateway.Access

/-- The access to a scripted device. -/
structure Rehearsal where
  state : State := {}
  device : ScriptedDevice := {}
  /-- What the device has to say at once, and to which operation. -/
  due : Option (Nat × Signal) := none
  /-- The outcomes that callers were told, the latest first. -/
  delivered : List (Nat × Outcome) := []

instance : Inhabited Rehearsal := ⟨{}⟩

namespace Rehearsal

/-- The device and the caller take note of what an operation did. -/
def perform (rehearsal : Rehearsal) (index : Nat) : Effect → Rehearsal
  | .call message =>
    let (device, reply) := rehearsal.device.call index message
    { rehearsal with device, due := reply.map fun reply => (index, .answer reply) }
  | .disconnect =>
    let (device, result) := rehearsal.device.disconnect
    { rehearsal with device, due := some (index, .disconnected result) }
  | .deliver outcome =>
    { rehearsal with delivered := (index, outcome) :: rehearsal.delivered }

/-- Signals an operation.  Nothing happens where the signal cannot occur. -/
def signal? (rehearsal : Rehearsal) (index : Nat) (signal : Signal) : Option Rehearsal :=
  match rehearsal.state.step (.signal index signal) with
  | none => none
  | some (state, effect) =>
    let rehearsal := { rehearsal with state }
    some ((effect.map (rehearsal.perform index)).getD rehearsal)

/-- The signals by which an operation goes on of its own. -/
def ownSignals : List Signal := [.settle, .start, .send, .notice]

/-- One step of some operation, if any can go on. -/
def ownStep? (rehearsal : Rehearsal) : Option Rehearsal :=
  (List.range rehearsal.state.operations.length).findSome? fun index =>
    ownSignals.findSome? fun signal => rehearsal.signal? index signal

/-- One step: what the device has to say comes first. -/
def step? (rehearsal : Rehearsal) : Option Rehearsal :=
  match rehearsal.due with
  | some (index, signal) =>
    let rehearsal := { rehearsal with due := none }
    some ((rehearsal.signal? index signal).getD rehearsal)
  | none => rehearsal.ownStep?

/-! ## Settling ends -/

/-- What a drive has left to do. -/
def driveWeight : Drive → Nat
  | .idle => 0
  | .ready _ => 3
  | .awaiting => 1
  | .resolved _ => 0

/-- What a stage has left to do. -/
def stageWeight : Stage → Nat
  | .waiting => 6
  | .preempting => 3
  | .driving => 2
  | .disconnecting => 0
  | .ended => 0

/-- What an operation has left to do. -/
def operationWeight (operation : Operation) : Nat :=
  stageWeight operation.stage + driveWeight operation.drive

/-- What a signal brings with it.  The signals of an operation to itself bring nothing. -/
def signalWeight : Signal → Nat
  | .settle | .start | .send | .notice => 0
  | .answer (.ok _) => 3
  | _ => 1

/-- What is left to do. -/
def weight (rehearsal : Rehearsal) : Nat :=
  total operationWeight rehearsal.state.operations + 2 * rehearsal.device.script.length
    + rehearsal.due.elim 0 fun due => max 1 (signalWeight due.2)

/-- What an effect may bring, beyond the entry of the script that it takes. -/
def effectWeight : Effect → Nat
  | .call _ => 1
  | .disconnect => 1
  | .deliver _ => 0

theorem driveWeight_after (reply : Except DeviceError Message) :
    driveWeight (Operation.Drive.after reply) < 1 + signalWeight (.answer reply) := by
  cases reply with
  | error error => simp [Operation.Drive.after, driveWeight, signalWeight]
  | ok message =>
    simp only [Operation.Drive.after, signalWeight]
    cases message.verdict <;> simp [driveWeight]

theorem operationWeight_takeSlot (operation : Operation) (slot : Slot) :
    operationWeight (operation.takeSlot slot).operation
        + (operation.takeSlot slot).effect.elim 0 effectWeight
      ≤ 5 + driveWeight operation.drive := by
  unfold Operation.takeSlot
  cases operation.purpose <;> cases operation.attended <;>
    simp [operationWeight, stageWeight, driveWeight, effectWeight]

theorem operationWeight_finish (operation : Operation) (slot : Slot) (outcome : Outcome) :
    operationWeight (operation.finish slot outcome).operation
        + (operation.finish slot outcome).effect.elim 0 effectWeight
      = driveWeight operation.drive := by
  unfold Operation.finish
  cases operation.attended <;> simp [operationWeight, stageWeight, effectWeight]

/-- Every step of a settling access uses up something of its operation or of the signal. -/
theorem react_weight {operation : Operation} {slot : Slot} {signal : Signal}
    {reaction : Reaction} (h : operation.react slot signal = some reaction) :
    operationWeight reaction.operation + reaction.effect.elim 0 effectWeight
      < operationWeight operation + signalWeight signal := by
  have htake := operationWeight_takeSlot operation slot
  have hfinish := operationWeight_finish operation slot
  have hown : operationWeight operation
      = stageWeight operation.stage + driveWeight operation.drive := rfl
  cases signal with
  | start =>
    simp only [Operation.react] at h
    split at h
    · contradiction
    · rename_i hstage
      simp only [ne_eq, Decidable.not_not] at hstage
      have hsix : stageWeight operation.stage = 6 := by rw [hstage]; rfl
      split at h <;> obtain rfl := Option.some.inj h
      · omega
      · have : operationWeight { operation with stage := .preempting }
            = 3 + driveWeight operation.drive := rfl
        simp only [Option.elim, effectWeight]
        omega
  | answer reply =>
    simp only [Operation.react] at h
    split at h
    · rename_i hstage
      have hthree : stageWeight operation.stage = 3 := by rw [hstage]; rfl
      cases reply <;> obtain rfl := Option.some.inj h
      · rw [hfinish]
        omega
      · simp only [signalWeight]
        omega
    · split at h
      · rename_i hdrive
        obtain rfl := Option.some.inj h
        have := driveWeight_after reply
        have hone : driveWeight operation.drive = 1 := by rw [hdrive]; rfl
        have : operationWeight { operation with drive := Operation.Drive.after reply }
            = stageWeight operation.stage + driveWeight (Operation.Drive.after reply) := rfl
        simp only [Option.elim]
        omega
      · contradiction
  | send =>
    simp only [Operation.react] at h
    split at h
    · rename_i hdrive
      obtain rfl := Option.some.inj h
      have hthree : driveWeight operation.drive = 3 := by rw [hdrive]; rfl
      have : operationWeight { operation with drive := .awaiting }
          = stageWeight operation.stage + 1 := rfl
      simp only [Option.elim, effectWeight]
      omega
    · contradiction
  | settle =>
    simp only [Operation.react] at h
    split at h
    · rename_i hstage hdrive
      obtain rfl := Option.some.inj h
      have htwo : stageWeight operation.stage = 2 := by rw [hstage]; rfl
      rw [hfinish]
      omega
    · contradiction
  | notice =>
    simp only [Operation.react] at h
    split at h
    · rename_i hstage
      obtain rfl := Option.some.inj h
      have htwo : 2 ≤ stageWeight operation.stage := by
        revert hstage
        cases operation.stage <;> simp [stageWeight]
      have : operationWeight { operation with stage := .disconnecting }
          = 0 + driveWeight operation.drive := rfl
      simp only [Option.elim, effectWeight]
      omega
    · contradiction
  | disconnected result =>
    simp only [Operation.react] at h
    split at h
    · contradiction
    · cases result <;> obtain rfl := Option.some.inj h <;> rw [hfinish] <;>
        simp only [signalWeight] <;> omega
  | fire =>
    simp only [Operation.react] at h
    split at h
    · contradiction
    · obtain rfl := Option.some.inj h
      simp [operationWeight, signalWeight]
  | abandon =>
    simp only [Operation.react] at h
    split at h
    · contradiction
    · split at h <;> obtain rfl := Option.some.inj h
      · simp [operationWeight, signalWeight]
      · simp only [operationWeight, stageWeight, signalWeight, Option.elim]
        omega
  | release =>
    simp only [Operation.react] at h
    split at h
    · obtain rfl := Option.some.inj h
      simp [operationWeight, signalWeight]
    · contradiction
  | dropGuard =>
    simp only [Operation.react] at h
    split at h
    · obtain rfl := Option.some.inj h
      simp [operationWeight, signalWeight]
    · contradiction

/-- What an effect brings with it is paid for by the script. -/
theorem weight_perform (rehearsal : Rehearsal) (hdue : rehearsal.due = none) (index : Nat)
    (effect : Effect) :
    (rehearsal.perform index effect).weight ≤ rehearsal.weight + effectWeight effect := by
  cases effect with
  | call message =>
    simp only [perform, ScriptedDevice.call, weight, hdue, effectWeight, Option.elim]
    split
    · simp only [Option.map, signalWeight]
      omega
    · rename_i reply script hscript
      have : signalWeight (.answer reply) ≤ 3 := by cases reply <;> simp [signalWeight]
      simp only [Option.map, hscript, List.length_cons]
      omega
    · rename_i script hscript
      simp only [Option.map, hscript, List.length_cons]
      omega
  | disconnect =>
    simp only [perform, ScriptedDevice.disconnect, weight, hdue, effectWeight]
    split <;> simp [signalWeight]
  | deliver outcome => simp [perform, weight, effectWeight]

theorem weight_signal? {rehearsal next : Rehearsal} {index : Nat} {signal : Signal}
    (hdue : rehearsal.due = none) (h : rehearsal.signal? index signal = some next) :
    next.weight < rehearsal.weight + signalWeight signal := by
  simp only [signal?, State.step] at h
  split at h
  · contradiction
  · rename_i state effect hstep
    split at hstep
    · contradiction
    · rename_i operation hoperation
      split at hstep
      · contradiction
      · rename_i reaction hreact
        obtain ⟨rfl, rfl⟩ := Prod.mk.inj (Option.some.inj hstep)
        obtain rfl := Option.some.inj h
        have hweight := react_weight hreact
        have hsum := total_set operationWeight reaction.operation hoperation
        generalize hnext : ({ rehearsal with
          state := ⟨reaction.slot,
            rehearsal.state.operations.set index reaction.operation⟩ } : Rehearsal) = middle
        have hmiddle : middle.weight + operationWeight operation
            = rehearsal.weight + operationWeight reaction.operation := by
          subst hnext
          simp only [weight]
          omega
        cases heffect : reaction.effect with
        | none =>
          simp only [heffect, Option.elim] at hweight
          simp only [Option.map_none, Option.getD_none]
          omega
        | some effect =>
          have := weight_perform middle (by subst hnext; exact hdue) index effect
          simp only [heffect, Option.elim] at hweight
          simp only [Option.map_some, Option.getD_some]
          omega

theorem signalWeight_of_mem_ownSignals {signal : Signal} (h : signal ∈ ownSignals) :
    signalWeight signal = 0 := by
  simp only [ownSignals, List.mem_cons, List.not_mem_nil, or_false] at h
  rcases h with rfl | rfl | rfl | rfl <;> rfl

/-- Every step uses up something. -/
theorem weight_step? {rehearsal next : Rehearsal} (h : rehearsal.step? = some next) :
    next.weight < rehearsal.weight := by
  simp only [step?] at h
  split at h
  · rename_i index signal hdue
    obtain rfl := Option.some.inj h
    have hmiddle : ({ rehearsal with due := none } : Rehearsal).weight + max 1 (signalWeight signal)
        = rehearsal.weight := by
      simp [weight, hdue]
    cases hsignal : ({ rehearsal with due := none } : Rehearsal).signal? index signal with
    | none =>
      simp only [Option.getD_none]
      omega
    | some next =>
      have := weight_signal? rfl hsignal
      simp only [Option.getD_some]
      omega
  · rename_i hdue
    obtain ⟨index, _, hindex⟩ := List.exists_of_findSome?_eq_some h
    obtain ⟨signal, hsignal, hnext⟩ := List.exists_of_findSome?_eq_some hindex
    have := weight_signal? hdue hnext
    have := signalWeight_of_mem_ownSignals hsignal
    omega

/-- Goes on until everything waits. -/
def settle (rehearsal : Rehearsal) : Rehearsal :=
  match _h : rehearsal.step? with
  | none => rehearsal
  | some next => next.settle
termination_by rehearsal.weight
decreasing_by exact weight_step? _h

/-! ## Events from outside -/

/-- A caller starts an operation.  Its index is the number of operations before it. -/
def start (rehearsal : Rehearsal) (purpose : Purpose) (request : Message) : Rehearsal :=
  match rehearsal.state.step (.begin purpose request) with
  | none => rehearsal
  | some (state, _) => ({ rehearsal with state } : Rehearsal).settle

/-- Something happens to an operation. -/
def notify (rehearsal : Rehearsal) (index : Nat) (signal : Signal) : Rehearsal :=
  ((rehearsal.signal? index signal).getD rehearsal).settle

/-- The calls whose callers still wait for the device. -/
def outstanding (rehearsal : Rehearsal) : Nat :=
  rehearsal.device.pending.countP rehearsal.state.awaits

/-- The device answers one of the open calls, counted from the oldest.  The second part says whether
its caller was there to hear it. -/
def reply (rehearsal : Rehearsal) (position : Nat) (reply : Except DeviceError Message) :
    Rehearsal × Bool :=
  match rehearsal.device.pending[position]? with
  | none => (rehearsal, false)
  | some owner =>
    let device :=
      { rehearsal.device with pending := rehearsal.device.pending.eraseIdx position }
    let answered := { rehearsal with device }
    if rehearsal.state.awaits owner then (answered.notify owner (.answer reply), true)
    else (answered, false)

/-- The device has more to say. -/
def extend (rehearsal : Rehearsal) (script : List ScriptEntry) : Rehearsal :=
  { rehearsal with
    device := { rehearsal.device with script := rehearsal.device.script ++ script } }

/-- From now on disconnecting fails, or does not. -/
def setFailing (rehearsal : Rehearsal) (failing : Bool) : Rehearsal :=
  { rehearsal with device := { rehearsal.device with failing } }

/-- Forgets what was told and sent so far. -/
def clear (rehearsal : Rehearsal) : Rehearsal :=
  { rehearsal with delivered := [], device := { rehearsal.device with sent := [] } }

end Rehearsal

end WalletGateway.Access
