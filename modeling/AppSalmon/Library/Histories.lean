import AppSalmon.Library.Exchanges

/-! What a future asks for, judged beside everything that was exchanged before.

A request may be on its way when the future is dropped. It is judged when it is
sent, whether or not it is ever answered.
-/

set_option autoImplicit false

namespace Cancellation

variable {ρ β ε α γ : Type}

/-- Required where the result is a success, and only there. -/
def OnSuccess (Good : List (ρ × β) → α → Prop) (past : List (ρ × β)) (result : Except ε α) : Prop :=
  ∀ value, result = .ok value → Good past value

theorem OnSuccess.error {Good : List (ρ × β) → α → Prop} {past : List (ρ × β)} {error : ε} :
    OnSuccess Good past (.error error) := by
  intro value same
  cases same

theorem OnSuccess.ok {Good : List (ρ × β) → α → Prop} {past : List (ρ × β)} {value : α} (good : Good past value) :
    OnSuccess Good past (.ok value : Except ε α) := by
  intro other same
  cases same
  exact good

namespace Client

/-- What is required of each request and of the result, as soon as the exchanges before it are known. -/
def Obeys (At : List (ρ × β) → ρ → Prop) (Post : List (ρ × β) → α → Prop) (past : List (ρ × β)) : Client ρ β α → Prop
  | ready result => Post past result
  | request message resume => At past message ∧ ∀ reply, (resume reply).Obeys At Post (past ++ [(message, reply)])

/-- After these exchanges the future waits for the reply to this request. -/
inductive Awaits : Client ρ β α → List (ρ × β) → ρ → Prop where
  | here {message : ρ} {resume : β → Client ρ β α} : Awaits (.request message resume) [] message
  | later {message awaited : ρ} {resume : β → Client ρ β α} {reply : β} {exchanges : List (ρ × β)}
      (rest : Awaits (resume reply) exchanges awaited) :
      Awaits (.request message resume) ((message, reply) :: exchanges) awaited

/-- The request that is waited for after these replies. -/
def pending : Client ρ β α → List β → Option ρ
  | ready _, _ => none
  | request message _, [] => some message
  | request _ resume, reply :: later => (resume reply).pending later

theorem pending_awaits {client : Client ρ β α} {replies : List β} {message : ρ}
    (waits : client.pending replies = some message) : client.Awaits (client.feed replies).1 message := by
  induction replies generalizing client with
  | nil =>
    cases client with
    | ready result => cases waits
    | request first resume =>
      cases waits
      exact .here
  | cons reply later ih =>
    cases client with
    | ready result => cases waits
    | request first resume => exact .later (ih waits)

theorem Sends.awaits {May : ρ → Prop} {client : Client ρ β α} (sends : client.Sends May) {exchanges : List (ρ × β)} {message : ρ}
    (awaits : client.Awaits exchanges message) : May message := by
  induction awaits with
  | here => exact sends.1
  | later rest ih => exact ih (sends.2 _)

/-- What is awaited after the first part is awaited in the whole. -/
theorem Selects.andThen {first : Client ρ β (Except ε α)} {next : α → Client ρ β (Except ε γ)} {value : α}
    {exchanges later : List (ρ × β)} {message : ρ} (selects : first.Selects exchanges (some (.ok value)))
    (awaits : (next value).Awaits later message) : (first.andThen next).Awaits (exchanges ++ later) message := by
  generalize ended : some (Except.ok value) = outcome at selects
  induction selects with
  | cancelled => cases ended
  | ready =>
    cases ended
    exact awaits
  | request rest ih => exact .later (ih ended)

theorem Awaits.bind {first : Client ρ β α} {exchanges : List (ρ × β)} {message : ρ} (awaits : first.Awaits exchanges message)
    (next : α → Client ρ β γ) : (first.bind next).Awaits exchanges message := by
  induction awaits with
  | here => exact .here
  | later rest ih => exact .later ih

theorem Awaits.andThen {first : Client ρ β (Except ε α)} {exchanges : List (ρ × β)} {message : ρ}
    (awaits : first.Awaits exchanges message) (next : α → Client ρ β (Except ε γ)) :
    (first.andThen next).Awaits exchanges message := awaits.bind _

variable {At : List (ρ × β) → ρ → Prop} {Post : List (ρ × β) → α → Prop} {past : List (ρ × β)} {client : Client ρ β α}

theorem Obeys.awaits (obeys : client.Obeys At Post past) {exchanges : List (ρ × β)} {message : ρ}
    (awaits : client.Awaits exchanges message) : At (past ++ exchanges) message := by
  induction awaits generalizing past with
  | here =>
    rw [List.append_nil]
    exact obeys.1
  | later rest ih =>
    have after := ih (obeys.2 _)
    rwa [List.append_assoc, List.singleton_append] at after

theorem Obeys.selects (obeys : client.Obeys At Post past) {exchanges : List (ρ × β)} {outcome : Option α}
    (selects : client.Selects exchanges outcome) {result : α} (ended : outcome = some result) :
    Post (past ++ exchanges) result := by
  induction selects generalizing past with
  | cancelled => cases ended
  | ready =>
    cases ended
    rw [List.append_nil]
    exact obeys
  | request rest ih =>
    have after := ih (obeys.2 _) ended
    rwa [List.append_assoc, List.singleton_append] at after

theorem Obeys.mono {More : List (ρ × β) → α → Prop} (obeys : client.Obeys At Post past)
    (implied : ∀ past result, Post past result → More past result) : client.Obeys At More past := by
  induction client generalizing past with
  | ready result => exact implied _ _ obeys
  | request message resume ih => exact ⟨obeys.1, fun reply => ih reply (obeys.2 reply)⟩

/-- The second part goes on from what the first has exchanged. -/
theorem Obeys.bind {next : α → Client ρ β γ} {Last : List (ρ × β) → γ → Prop} (obeys : client.Obeys At Post past)
    (rest : ∀ past result, Post past result → (next result).Obeys At Last past) :
    (client.bind next).Obeys At Last past := by
  induction client generalizing past with
  | ready result => exact rest _ _ obeys
  | request message resume ih => exact ⟨obeys.1, fun reply => ih reply (obeys.2 reply)⟩

theorem Obeys.map {change : α → γ} {Last : List (ρ × β) → γ → Prop} (obeys : client.Obeys At Post past)
    (changed : ∀ past result, Post past result → Last past (change result)) :
    (client.map change).Obeys At Last past := obeys.bind changed

/-- An error ends it, and nothing is required of an error. -/
theorem Obeys.andThen {first : Client ρ β (Except ε α)} {next : α → Client ρ β (Except ε γ)}
    {Good : List (ρ × β) → α → Prop} {Better : List (ρ × β) → γ → Prop}
    (obeys : first.Obeys At (OnSuccess Good) past)
    (rest : ∀ past value, Good past value → (next value).Obeys At (OnSuccess Better) past) :
    (first.andThen next).Obeys At (OnSuccess Better) past := by
  apply obeys.bind
  intro past result good
  cases result with
  | ok value => exact rest past value (good value rfl)
  | error error => exact OnSuccess.error

/-- One request, whose reply is made the result. -/
theorem Obeys.ofSend {message : ρ} {change : β → α} (permitted : At past message)
    (answered : ∀ reply, Post (past ++ [(message, reply)]) (change reply)) :
    ((send message).map change).Obeys At Post past := ⟨permitted, answered⟩

end Client

end Cancellation
