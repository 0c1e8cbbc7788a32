import AppSalmon.Library.Cancellation

/-! The exchanges of a future, and what its result says of the step it has come to.

A request with its reply may count as a step. Which step was the last one is
followed along the exchanges, and the result is judged beside it.
-/

set_option autoImplicit false

namespace Cancellation

variable {ρ β ρ' β' ε α γ κ : Type}

/-- The last of the exchanges that counts as a step, where there is one. -/
def lastStep (step : ρ × β → Option κ) (before : Option κ) : List (ρ × β) → Option κ
  | [] => before
  | exchange :: later => lastStep step ((step exchange).or before) later

/-- The two sides of a `Result`, each judged beside the last step. -/
def Settles (Good : Option κ → α → Prop) (Bad : Option κ → ε → Prop) (last : Option κ) : Except ε α → Prop
  | .ok value => Good last value
  | .error error => Bad last error

namespace Client

/-- A select between a future and its cancellation. There is no result after a cancellation. -/
inductive Selects : Client ρ β α → List (ρ × β) → Option α → Prop where
  | cancelled {client : Client ρ β α} : Selects client [] none
  | ready {result : α} : Selects (.ready result) [] (some result)
  | request {message : ρ} {resume : β → Client ρ β α} {reply : β} {later : List (ρ × β)} {outcome : Option α}
      (rest : Selects (resume reply) later outcome) : Selects (.request message resume) ((message, reply) :: later) outcome

/-- The execution with these replies, cancelled where there is none left. -/
def feed : Client ρ β α → List β → List (ρ × β) × Option α
  | ready result, _ => ([], some result)
  | request _ _, [] => ([], none)
  | request message resume, reply :: later =>
    let fed := (resume reply).feed later
    ((message, reply) :: fed.1, fed.2)

/-- Whatever the replies are, the result is right beside the last step. -/
def Ensures (step : ρ × β → Option κ) (Post : Option κ → α → Prop) (last : Option κ) : Client ρ β α → Prop
  | ready result => Post last result
  | request message resume => ∀ reply, (resume reply).Ensures step Post ((step (message, reply)).or last)

/-- The same future, where its requests are some among others. -/
def lift (embed : ρ → ρ') (project : β' → β) : Client ρ β α → Client ρ' β' α
  | ready result => .ready result
  | request message resume => .request (embed message) fun reply => (resume (project reply)).lift embed project

variable {step : ρ × β → Option κ} {last : Option κ} {Post : Option κ → α → Prop} {client : Client ρ β α}

theorem feed_selects (client : Client ρ β α) (replies : List β) :
    client.Selects (client.feed replies).1 (client.feed replies).2 := by
  induction replies generalizing client with
  | nil => cases client with
    | ready result => exact .ready
    | request message resume => exact .cancelled
  | cons reply later ih => cases client with
    | ready result => exact .ready
    | request message resume => exact .request (ih _)

theorem Ensures.selects (ensures : client.Ensures step Post last) {exchanges : List (ρ × β)} {outcome : Option α}
    (selects : client.Selects exchanges outcome) {result : α} (ended : outcome = some result) :
    Post (lastStep step last exchanges) result := by
  induction selects generalizing last with
  | cancelled => cases ended
  | ready =>
    cases ended
    exact ensures
  | request rest ih => exact ih (ensures _) ended

theorem Sends.selects {May : ρ → Prop} (sends : client.Sends May) {exchanges : List (ρ × β)} {outcome : Option α}
    (selects : client.Selects exchanges outcome) : ∀ exchange ∈ exchanges, May exchange.1 := by
  induction selects with
  | cancelled | ready => exact fun _ none_made => (List.not_mem_nil none_made).elim
  | request rest ih =>
    rw [List.forall_mem_cons]
    exact ⟨sends.1, ih (sends.2 _)⟩

/-- A future whose requests are some among others still comes to what it came to. -/
theorem Selects.lift {exchanges : List (ρ × β)} {outcome : Option α} (selects : client.Selects exchanges outcome)
    (embed : ρ → ρ') (project : β' → β) (answers : Function.Surjective project) :
    ∃ lifted, (client.lift embed project).Selects lifted outcome := by
  induction selects with
  | cancelled => exact ⟨[], .cancelled⟩
  | ready => exact ⟨[], .ready⟩
  | @request message resume reply later outcome rest ih =>
    obtain ⟨lifted, after⟩ := ih
    obtain ⟨outer, rfl⟩ := answers reply
    exact ⟨(embed message, outer) :: lifted, .request after⟩

theorem Ensures.mono {More : Option κ → α → Prop} (ensures : client.Ensures step Post last)
    (implied : ∀ last result, Post last result → More last result) : client.Ensures step More last := by
  induction client generalizing last with
  | ready result => exact implied _ _ ensures
  | request message resume ih => exact fun reply => ih reply (ensures reply)

/-- One request, whose reply is made the result. -/
theorem Ensures.ofSend {message : ρ} {change : β → α}
    (answered : ∀ reply, Post ((step (message, reply)).or last) (change reply)) :
    ((send message).map change).Ensures step Post last := answered

/-- The two parts follow each other, the second from where the first has come to. -/
theorem Ensures.bind {next : α → Client ρ β γ} {Last : Option κ → γ → Prop} (ensures : client.Ensures step Post last)
    (rest : ∀ last result, Post last result → (next result).Ensures step Last last) :
    (client.bind next).Ensures step Last last := by
  induction client generalizing last with
  | ready result => exact rest _ _ ensures
  | request message resume ih => exact fun reply => ih reply (ensures reply)

theorem Ensures.map {change : α → γ} {Last : Option κ → γ → Prop} (ensures : client.Ensures step Post last)
    (changed : ∀ last result, Post last result → Last last (change result)) :
    (client.map change).Ensures step Last last := ensures.bind changed

/-- An error of the first part is the error of the whole. -/
theorem Ensures.andThen {first : Client ρ β (Except ε α)} {next : α → Client ρ β (Except ε γ)}
    {Good : Option κ → α → Prop} {Bad : Option κ → ε → Prop} {Better : Option κ → γ → Prop}
    (ensures : first.Ensures step (Settles Good Bad) last)
    (rest : ∀ last value, Good last value → (next value).Ensures step (Settles Better Bad) last) :
    (first.andThen next).Ensures step (Settles Better Bad) last := by
  apply ensures.bind
  intro last result settles
  cases result with
  | ok value => exact rest last value settles
  | error error => exact settles

theorem Ensures.lift {embed : ρ → ρ'} {project : β' → β} {outer : ρ' × β' → Option κ}
    (ensures : client.Ensures step Post last)
    (same : ∀ message reply, outer (embed message, reply) = step (message, project reply)) :
    (client.lift embed project).Ensures outer Post last := by
  induction client generalizing last with
  | ready result => exact ensures
  | request message resume ih =>
    intro reply
    rw [same]
    exact ih _ (ensures _)

end Client

end Cancellation
