import WalletGateway.Link.Basic

/-!
# Settling of links

After an event from outside, `Link.settle` lets every call go on that can, those with the earlier
start first, until all of them wait.  This ends, because every step ends a call, begins an exchange
or reads an arrival.
-/

namespace WalletGateway.Link

/-- One step of the first call that can go on. -/
def advance? (link : Link) : Option Link :=
  (List.range link.calls.length).findSome? link.proceed?

/-- What a call has left to do. -/
def stageWeight : CallStage → Nat
  | .queued _ => 2
  | .exchanging .. => 1
  | .yielding _ => 1
  | .ended _ => 0
  | .dropped => 0

/-- What is left to do. -/
def weight (link : Link) : Nat :=
  total stageWeight link.calls + link.line.unread

theorem unread_connect (line : Line) : line.connect.2.unread = line.unread := by
  simp only [Line.connect]
  split
  · rfl
  · simp only [Line.unread, total_append, total, List.length_nil]
    omega

theorem unread_write (connection : Nat) (packets : List Packet) :
    ∀ line : Line, (line.write connection packets).2.unread = line.unread := by
  induction packets with
  | nil => intro line; rfl
  | cons packet packets ih =>
    intro line
    simp only [Line.write]
    split
    · rfl
    · rw [ih]
      rfl

theorem unread_receive {line next : Line} {connection : Nat} {arrival : Arrival}
    (h : line.receive connection = some (arrival, next)) : next.unread + 1 = line.unread := by
  unfold Line.receive at h
  split at h
  · rename_i first arrivals hinbox
    obtain ⟨rfl, rfl⟩ := Prod.mk.inj (Option.some.inj h)
    have := total_set List.length arrivals hinbox
    simp only [List.length_cons] at this
    simp only [Line.unread]
    omega
  · contradiction

theorem weight_set (link : Link) {index : Nat} {old : CallStage} (stage : CallStage)
    (h : link.calls[index]? = some old) :
    ({ link with calls := link.calls.set index stage } : Link).weight + stageWeight old
      = link.weight + stageWeight stage := by
  have := total_set stageWeight stage h
  simp only [weight]
  omega

theorem weight_stay (link : Link) {index : Nat} {old : CallStage} (stage : CallStage)
    (h : link.calls[index]? = some old) :
    (link.stay index stage).weight + stageWeight old = link.weight + stageWeight stage :=
  weight_set link stage h

theorem weight_finish (link : Link) {index : Nat} {old : CallStage}
    (result : Except DeviceError Message) (h : link.calls[index]? = some old) :
    (link.finish index result).weight + stageWeight old = link.weight :=
  weight_set link (.ended result) h

theorem open?_keeps (link : Link) :
    link.open?.2.calls = link.calls ∧ link.open?.2.line.unread = link.line.unread := by
  have hunread := unread_connect link.line
  unfold open?
  split
  · exact ⟨rfl, rfl⟩
  · split <;> rename_i heq <;> rw [heq] at hunread <;> exact ⟨rfl, hunread⟩

theorem weight_open? (link : Link) : link.open?.2.weight = link.weight := by
  obtain ⟨hcalls, hunread⟩ := open?_keeps link
  simp only [weight, hcalls, hunread]

/-- Beginning an exchange uses up the waiting of the call. -/
theorem weight_exchange (link : Link) {index : Nat} {request : Message}
    (h : link.calls[index]? = some (.queued request)) :
    (link.exchange index request).weight < link.weight := by
  have hweight := weight_open? link
  obtain ⟨hcalls, -⟩ := open?_keeps link
  simp only [exchange]
  generalize hopen : link.open? = outcome at *
  obtain ⟨result, opened⟩ := outcome
  simp only at hweight hcalls
  rw [← hcalls] at h
  cases result with
  | error error =>
    have := weight_finish opened (.error error) h
    simp only [stageWeight] at this ⊢
    omega
  | ok connection =>
    have hunread := unread_write connection request.packets opened.line
    simp only
    generalize opened.line.write connection request.packets = written at *
    obtain ⟨outcome, line⟩ := written
    have hline : ({ opened with line } : Link).weight = opened.weight := by
      simp only at hunread
      simp only [weight, hunread]
    cases outcome with
    | some error =>
      have := weight_finish ({ opened with line } : Link).close (.error error) h
      have hclose : ({ opened with line } : Link).close.weight = opened.weight := hline
      simp only [stageWeight] at this ⊢
      omega
    | none =>
      have := weight_stay ({ opened with line } : Link)
        (.exchanging connection opened.epoch .empty) h
      simp only [stageWeight] at this ⊢
      omega

/-- Taking an arrival brings nothing new. -/
theorem weight_take (link : Link) {index connection epoch : Nat} {assembler : Assembler}
    (arrival : Arrival) (h : link.calls[index]? = some (.exchanging connection epoch assembler)) :
    (link.take index connection epoch assembler arrival).weight ≤ link.weight := by
  have hfinish := fun result => weight_finish link result h
  have hclose := fun result => weight_finish link.close result h
  have hcloseWeight : link.close.weight = link.weight := rfl
  cases arrival with
  | error error =>
    have := hclose (.error error)
    simp only [take]
    omega
  | ok packet =>
    simp only [take]
    split
    · rename_i next _
      have := weight_stay link (.exchanging connection epoch next) h
      simp only [stageWeight] at this
      omega
    · rename_i message _ _
      have := hfinish (.ok message)
      omega
    · rename_i error _ _
      have := hclose (.error (.framing error))
      omega

/-- Every step of a call uses up something. -/
theorem weight_proceed? {link next : Link} {index : Nat} (h : link.proceed? index = some next) :
    next.weight < link.weight := by
  unfold proceed? at h
  split at h
  · rename_i request hcall
    split at h
    · obtain rfl := Option.some.inj h
      exact weight_exchange link hcall
    · contradiction
  · rename_i connection epoch assembler hcall
    split at h
    · obtain rfl := Option.some.inj h
      have := weight_finish link.close (.error .disconnected) hcall
      have hclose : link.close.weight = link.weight := rfl
      simp only [stageWeight] at this
      omega
    · split at h
      · contradiction
      · rename_i arrival line hreceive
        obtain rfl := Option.some.inj h
        have := weight_take ({ link with line } : Link) arrival hcall
        have hunread := unread_receive hreceive
        have hweight : ({ link with line } : Link).weight + 1 = link.weight := by
          simp only [weight]
          omega
        omega
  · rename_i deadline hcall
    split at h
    · obtain rfl := Option.some.inj h
      have := weight_finish link (.ok cancelled) hcall
      simp only [stageWeight] at this
      omega
    · split at h
      · obtain rfl := Option.some.inj h
        have := weight_finish link (.error .timeout) hcall
        simp only [stageWeight] at this
        omega
      · contradiction
  · contradiction

theorem weight_advance? {link next : Link} (h : link.advance? = some next) :
    next.weight < link.weight := by
  obtain ⟨index, _, hindex⟩ := List.exists_of_findSome?_eq_some h
  exact weight_proceed? hindex

/-- Goes on until every call waits. -/
def settle (link : Link) : Link :=
  match _h : link.advance? with
  | none => link
  | some next => next.settle
termination_by link.weight
decreasing_by exact weight_advance? _h

/-- What happens to a link from outside, and what it leads to. -/
def after? (link : Link) (event : LinkEvent) : Option Link :=
  (link.step event).map settle

end WalletGateway.Link
