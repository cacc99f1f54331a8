import WalletGateway.Access.Operation

/-!
# Access to one device

The slot of a device and all operations that were ever started on it.  `State.step` is the only way
in which they change: one event, which starts an operation or signals one of those that there are.
Any order of events is possible that the operations allow.
-/

namespace WalletGateway.Access

/-- The slot and the operations, in the order of their start. -/
structure State where
  slot : Slot := {}
  operations : List Operation := []

instance : Inhabited State := ⟨{}⟩

/-- What happens at a device's access. -/
inductive Event where
  /-- A caller starts an operation. -/
  | begin (purpose : Purpose) (request : Message)
  /-- Something happens to an operation. -/
  | signal (index : Nat) (signal : Signal)

namespace State

/-- The state after an event, and what the operation did. -/
def step (state : State) : Event → Option (State × Option Effect)
  | .begin purpose request =>
    some ({ state with operations := state.operations ++ [.new purpose request] }, none)
  | .signal index signal =>
    match state.operations[index]? with
    | none => none
    | some operation =>
      match operation.react state.slot signal with
      | none => none
      | some reaction =>
        some (⟨reaction.slot, state.operations.set index reaction.operation⟩, reaction.effect)

/-- Whether an operation has an outstanding call. -/
def awaits (state : State) (index : Nat) : Bool :=
  (state.operations[index]?).any Operation.awaits

/-- The state after several events, with what an operation did at each of them. -/
def run (state : State) : List Event → Option (State × List (Event × Option Effect))
  | [] => some (state, [])
  | event :: events =>
    match state.step event with
    | none => none
    | some (next, effect) =>
      match next.run events with
      | none => none
      | some (last, trace) => some (last, (event, effect) :: trace)

end State

end WalletGateway.Access
