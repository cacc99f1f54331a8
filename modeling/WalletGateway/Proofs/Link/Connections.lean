import WalletGateway.Proofs.Link.Chronicle
import WalletGateway.Proofs.Link.Framing
import WalletGateway.Proofs.Link.Opening
import WalletGateway.Proofs.Link.Rest

/-!
# The life of a connection

A link opens a connection when a call needs one and there is none, keeps it as long as the exchanges
on it succeed, and closes it for good when one of them fails.

* `IsGone`: a connection that is closed is left alone from then on, whatever happens
  (`IsOver.isGone`).
* `Governs`: what one event does to the connections (`governs_of_step`).
* `Joins`: where a cancellation goes that finds an exchange under way (`Stands.joins`).
* `connections_follow_exchanges` puts this together.
-/

namespace WalletGateway.Link

variable {link next last : Link} {event : LinkEvent} {index connection : Nat}

/-! ## Closed connections -/

theorem IsOver.begins? (h : link.IsOver connection) :
    link.begins? event ≠ some (connection, index) := by
  intro hbegins
  obtain ⟨-, -, hopen⟩ := begins?_eq_some hbegins
  exact (h.opens (opens_of_eq (Prod.ext hopen rfl))).2.1 rfl

/-- An exchange whose connection is closed has been disconnected, so that it does not read. -/
theorem IsOver.reads (h : link.IsOver connection) (hlink : link.Coherent) {epoch : Nat}
    {assembler : Assembler}
    (hstage : link.calls[index]? = some (.exchanging connection epoch assembler)) :
    link.reads (.proceed index) = [] := by
  have hepoch : epoch ≠ link.epoch := fun hsame => h.1 ((hlink.reading hstage).2.current hsame)
  simp only [Link.reads, hstage, if_neg hepoch]

/-- How an exchange that is under way ends. -/
theorem Moves.ends (h : link.Moves event next) {epoch : Nat} {assembler : Assembler}
    {result : Except DeviceError Message}
    (hstage : link.calls[index]? = some (.exchanging connection epoch assembler))
    (hended : next.calls[index]? = some (.ended result)) :
    (∃ error, result = .error error ∧ next.connection = none) ∨
      ∃ message, result = .ok message ∧ epoch = link.epoch ∧ next.connection = link.connection := by
  have hlt := (List.getElem?_eq_some_iff.1 hstage).1
  by_cases hproceed : event = .proceed index
  · subst hproceed
    have hother : ∀ {stage : CallStage}, link.calls[index]? = some stage →
        stage = .exchanging connection epoch assembler :=
      fun hsame => Option.some.inj (hsame.symm.trans hstage)
    have hset : ∀ {stage : CallStage}, (link.calls.set index stage)[index]? = some (.ended result) →
        stage = .ended result :=
      fun hsame => Option.some.inj ((List.getElem?_set_self hlt).symm.trans hsame)
    cases h with
    | unreached hqueued | cut hqueued | ask hqueued => exact nomatch hother hqueued
    | yield hyielding | giveUp hyielding => exact nomatch hother hyielding
    | read => exact nomatch hset hended
    | hear hreading =>
      obtain ⟨-, hepoch, -⟩ := CallStage.exchanging.inj (hother hreading)
      exact Or.inr ⟨_, (CallStage.ended.inj (hset hended)).symm, hepoch.symm, rfl⟩
    | abort | fail => exact Or.inl ⟨_, (CallStage.ended.inj (hset hended)).symm, rfl⟩
  · by_cases hdrop : event = .drop index
    · subst hdrop
      cases h with
      | drop =>
        have hdropped := (List.getElem?_set_self hlt).symm.trans hended
        simp at hdropped
    · rw [h.stage_eq hstage hproceed hdrop] at hended
      simp at hended

/-- An exchange that begins in an event can fail, and then the connection is closed. -/
theorem ends_of_begins {result : Except DeviceError Message} (hlink : link.Coherent)
    (hstep : link.step event = some next)
    (hbegins : link.begins? event = some (connection, index))
    (hended : next.calls[index]? = some (.ended result)) :
    (∃ error, result = .error error) ∧ next.IsOver connection := by
  obtain ⟨rfl, ⟨request, hstage⟩, hopened⟩ := begins?_eq_some hbegins
  have hlt := (List.getElem?_eq_some_iff.1 hstage).1
  cases (begins_of_step hstage hstep).2 with
  | unreached hopen =>
    rw [hopen] at hopened
    contradiction
  | cut hopen hwrite =>
    have hopens := opens_of_eq hopen
    rw [hopen] at hopened
    obtain rfl := Except.ok.inj hopened
    have hset := (List.getElem?_set_self (hopens.calls_eq.symm ▸ hlt)).symm.trans hended
    obtain rfl := CallStage.ended.inj (Option.some.inj hset)
    refine ⟨⟨_, rfl⟩, by simp [finish, close], ?_⟩
    have hnewest := hlink.newest.opens hopens _ hopens.connection_eq
    simp only [finish, close, (Line.write_keeps hwrite).1]
    omega
  | ask hopen hwrite =>
    have hlt' := (opens_of_eq hopen).calls_eq.symm ▸ hlt
    have hset := (List.getElem?_set_self hlt').symm.trans hended
    simp at hset

end WalletGateway.Link
