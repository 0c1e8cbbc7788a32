import AppSalmon.Library.Histories

/-! A future on a server that others use as well.

What the others do is any relation between two states of the server. It comes
before each request, and once more after the last.
-/

set_option autoImplicit false

namespace Cancellation

variable {σ ρ β ω α : Type}

namespace Client

/-- The future comes to its end, with these exchanges. -/
inductive Shares (Others : σ → σ → Prop) (serve : Server σ ρ β ω) :
    Client ρ β α → σ → List (ρ × β) → σ → α → Prop where
  | ready {result : α} {server final : σ} (others : Others server final) : Shares Others serve (.ready result) server [] final result
  | request {message : ρ} {resume : β → Client ρ β α} {server met next final : σ} {reply : β} {later : List (ρ × β)}
      {result : α} (choice : ω) (others : Others server met) (served : serve met message choice = (reply, next))
      (rest : Shares Others serve (resume reply) next later final result) :
      Shares Others serve (.request message resume) server ((message, reply) :: later) final result

variable {Others : σ → σ → Prop} {serve : Server σ ρ β ω} {May : ρ → Prop} {client : Client ρ β α} {server final : σ}
  {exchanges : List (ρ × β)} {result : α}

theorem Shares.selects (shares : client.Shares Others serve server exchanges final result) :
    client.Selects exchanges (some result) := by
  induction shares with
  | ready others => exact .ready
  | request choice others served rest ih => exact .request ih

/-- What neither the others nor the requests of the future change. -/
structure Kept (Others : σ → σ → Prop) (serve : Server σ ρ β ω) (May : ρ → Prop) (Holds : σ → Prop) : Prop where
  others : ∀ server next, Others server next → Holds server → Holds next
  own : ∀ server message choice, May message → Holds server → Holds (serve server message choice).2

variable {Holds : σ → Prop}

theorem Kept.own_served {met next : σ} {message : ρ} {choice : ω} {reply : β} (kept : Kept Others serve May Holds)
    (may : May message) (served : serve met message choice = (reply, next)) (holds : Holds met) : Holds next := by
  have after := kept.own met message choice may holds
  rwa [served] at after

theorem Shares.kept (shares : client.Shares Others serve server exchanges final result) (sends : client.Sends May)
    (kept : Kept Others serve May Holds) (holds : Holds server) : Holds final := by
  induction shares with
  | ready others => exact kept.others _ _ others holds
  | request choice others served rest ih =>
    exact ih (sends.2 _) (kept.own_served sends.1 served (kept.others _ _ others holds))

/-- What is kept and comes with one of the exchanges holds in the end. -/
theorem Shares.caused (shares : client.Shares Others serve server exchanges final result) (sends : client.Sends May)
    (kept : Kept Others serve May Holds) {message : ρ} {reply : β} (member : (message, reply) ∈ exchanges)
    (causes : ∀ met choice, (serve met message choice).1 = reply → Holds (serve met message choice).2) : Holds final := by
  induction shares with
  | ready others => cases member
  | request choice others served rest ih =>
    rcases List.mem_cons.mp member with same | later
    · cases same
      have after := causes _ choice (congrArg Prod.fst served)
      rw [served] at after
      exact rest.kept (sends.2 _) kept after
    · exact ih (sends.2 _) later

/-- What is kept from the start holds when the exchange takes place. -/
theorem Shares.found (shares : client.Shares Others serve server exchanges final result) (sends : client.Sends May)
    (kept : Kept Others serve May Holds) (holds : Holds server) {message : ρ} {reply : β}
    (member : (message, reply) ∈ exchanges) : ∃ met choice, Holds met ∧ (serve met message choice).1 = reply := by
  induction shares with
  | ready others => cases member
  | request choice others served rest ih =>
    have before := kept.others _ _ others holds
    rcases List.mem_cons.mp member with same | later
    · cases same
      exact ⟨_, choice, before, congrArg Prod.fst served⟩
    · exact ih (sends.2 _) (kept.own_served sends.1 served before) later

end Client

end Cancellation
