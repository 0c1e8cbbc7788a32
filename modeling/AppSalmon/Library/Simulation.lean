import AppSalmon.Library.Histories
import Mathlib.Data.List.Forall2

/-! Two futures that go on side by side.

Each request of the one stands for a request of the other, and a reply to the
one is seen by the other through a view. What is required of the second then
holds of the first.
-/

set_option autoImplicit false

namespace Cancellation

variable {ρ β ρ' β' ε α α' γ γ' : Type}

/-- The same error, or values that are related. -/
inductive SameOutcome (Good : α' → α → Prop) : Except ε α' → Except ε α → Prop where
  | ok {first : α'} {second : α} (related : Good first second) : SameOutcome Good (.ok first) (.ok second)
  | error (error : ε) : SameOutcome Good (.error error) (.error error)

theorem sameOutcome_eq {first second : Except ε α} (same : SameOutcome Eq first second) : first = second := by
  cases same with
  | ok related => exact congrArg Except.ok related
  | error error => rfl

namespace Client

variable {Same : ρ' → ρ → Prop} {view : β' → β} {Result : α' → α → Prop} {Last : γ' → γ → Prop}

/-- The first future goes on as the second does, whatever the replies. -/
inductive Simulates (Same : ρ' → ρ → Prop) (view : β' → β) (Result : α' → α → Prop) :
    Client ρ' β' α' → Client ρ β α → Prop where
  | ready {first : α'} {second : α} (related : Result first second) : Simulates Same view Result (.ready first) (.ready second)
  | request {message : ρ'} {other : ρ} {resume : β' → Client ρ' β' α'} {go : β → Client ρ β α} (same : Same message other)
      (rest : ∀ reply, Simulates Same view Result (resume reply) (go (view reply))) :
      Simulates Same view Result (.request message resume) (.request other go)

variable {first : Client ρ' β' α'} {second : Client ρ β α}

theorem Simulates.bind {next : α' → Client ρ' β' γ'} {other : α → Client ρ β γ}
    (simulates : first.Simulates Same view Result second)
    (rest : ∀ left right, Result left right → (next left).Simulates Same view Last (other right)) :
    (first.bind next).Simulates Same view Last (second.bind other) := by
  induction simulates with
  | ready related => exact rest _ _ related
  | request same _ ih => exact .request same ih

theorem Simulates.map {change : α' → γ'} {changed : α → γ} (simulates : first.Simulates Same view Result second)
    (related : ∀ left right, Result left right → Last (change left) (changed right)) :
    (first.map change).Simulates Same view Last (second.map changed) :=
  simulates.bind fun left right same => .ready (related left right same)

theorem Simulates.mono {More : α' → α → Prop} (simulates : first.Simulates Same view Result second)
    (implied : ∀ left right, Result left right → More left right) : first.Simulates Same view More second := by
  induction simulates with
  | ready related => exact .ready (implied _ _ related)
  | request same _ ih => exact .request same ih

/-- An error of the one is an error of the other, and ends both. -/
theorem Simulates.andThen {first : Client ρ' β' (Except ε α')} {second : Client ρ β (Except ε α)}
    {next : α' → Client ρ' β' (Except ε γ')} {other : α → Client ρ β (Except ε γ)}
    (simulates : first.Simulates Same view (SameOutcome Result) second)
    (rest : ∀ left right, Result left right → (next left).Simulates Same view (SameOutcome Last) (other right)) :
    (first.andThen next).Simulates Same view (SameOutcome Last) (second.andThen other) := by
  apply simulates.bind
  intro left right same
  cases same with
  | ok related => exact rest _ _ related
  | error error => exact .ready (.error error)

/-- The requests of the first are those that the second may send. -/
theorem Simulates.sends {May : ρ → Prop} {May' : ρ' → Prop} (simulates : first.Simulates Same view Result second)
    (sends : second.Sends May) (implied : ∀ message other, Same message other → May other → May' message) :
    first.Sends May' := by
  induction simulates with
  | ready => trivial
  | request same _ ih => exact ⟨implied _ _ same sends.1, fun reply => ih reply (sends.2 _)⟩

/-- An exchange of the one, as the other sees it. -/
def SameExchange (Same : ρ' → ρ → Prop) (view : β' → β) (left : ρ' × β') (right : ρ × β) : Prop :=
  Same left.1 right.1 ∧ right.2 = view left.2

theorem Simulates.awaits (simulates : first.Simulates Same view Result second) {exchanges : List (ρ' × β')} {message : ρ'}
    (awaits : first.Awaits exchanges message) :
    ∃ others other, second.Awaits others other ∧ Same message other ∧
      List.Forall₂ (SameExchange Same view) exchanges others := by
  induction awaits generalizing second with
  | here => cases simulates with
    | request same rest => exact ⟨[], _, .here, same, .nil⟩
  | @later sent awaited resume reply exchanges _ ih => cases simulates with
    | request same rest =>
      obtain ⟨others, other, awaits, stands, each⟩ := ih (rest reply)
      exact ⟨_ :: others, other, .later awaits, stands, .cons ⟨same, rfl⟩ each⟩

theorem Simulates.selects (simulates : first.Simulates Same view Result second) {exchanges : List (ρ' × β')}
    {outcome : Option α'} (selects : first.Selects exchanges outcome) {result : α'} (ended : outcome = some result) :
    ∃ others other, second.Selects others (some other) ∧ Result result other ∧
      List.Forall₂ (SameExchange Same view) exchanges others := by
  induction selects generalizing second with
  | cancelled => cases ended
  | ready => cases simulates with
    | ready related =>
      cases ended
      exact ⟨[], _, .ready, related, .nil⟩
  | @request sent resume reply later outcome _ ih => cases simulates with
    | request same rest =>
      obtain ⟨others, other, selects, related, each⟩ := ih (rest reply) ended
      exact ⟨_ :: others, other, .request selects, related, .cons ⟨same, rfl⟩ each⟩

/-- Every execution of the first is one of the second, exchange by exchange, wherever it is left and however it ends. -/
structure Refines (Same : ρ' → ρ → Prop) (view : β' → β) (Result : α' → α → Prop) (first : Client ρ' β' α')
    (second : Client ρ β α) : Prop where
  awaits : ∀ exchanges message, first.Awaits exchanges message → ∃ others other, second.Awaits others other ∧
    Same message other ∧ List.Forall₂ (SameExchange Same view) exchanges others
  ends : ∀ exchanges result, first.Selects exchanges (some result) → ∃ others other, second.Selects others (some other) ∧
    Result result other ∧ List.Forall₂ (SameExchange Same view) exchanges others

theorem Simulates.refines (simulates : first.Simulates Same view Result second) : Refines Same view Result first second := by
  constructor
  · exact fun exchanges message awaits => simulates.awaits awaits
  · exact fun exchanges result selects => simulates.selects selects rfl

/-- A future beside itself. -/
theorem simulates_self {Same : ρ → ρ → Prop} {Result : α → α → Prop} (same : ∀ message, Same message message)
    (related : ∀ result, Result result result) (client : Client ρ β α) : client.Simulates Same id Result client := by
  induction client with
  | ready result => exact .ready (related result)
  | request message resume ih => exact .request (same message) ih

end Client

end Cancellation
