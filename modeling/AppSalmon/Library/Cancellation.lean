import AppSalmon.Library.TaskPool

/-! A future that sends one request after the other, raced against its cancellation.

Dropping a future ends the waiting and nothing else: the request that was on its
way may still be worked on, at any later time or never, beside those of the
clean-up that follows.
-/

set_option autoImplicit false

namespace Cancellation

open TaskPool

variable {ρ β ε α γ σ ω κ : Type}

/-- What is left of a future: its result, or the request it waits for and what follows the reply. -/
inductive Client (ρ β α : Type) where
  | ready (result : α)
  | request (message : ρ) (resume : β → Client ρ β α)

namespace Client

def send (message : ρ) : Client ρ β β := .request message .ready

def bind (first : Client ρ β α) (next : α → Client ρ β γ) : Client ρ β γ :=
  match first with
  | ready result => next result
  | request message resume => request message fun reply => (resume reply).bind next

def map (change : α → γ) (client : Client ρ β α) : Client ρ β γ := client.bind fun result => .ready (change result)

/-- The `?` operator between two fallible futures. -/
def andThen (first : Client ρ β (Except ε α)) (next : α → Client ρ β (Except ε γ)) : Client ρ β (Except ε γ) :=
  first.bind fun result => match result with
    | .ok value => next value
    | .error error => .ready (.error error)

/-- Every request that may be sent is one of these. -/
def Sends (May : ρ → Prop) : Client ρ β α → Prop
  | ready _ => True
  | request message resume => May message ∧ ∀ reply, (resume reply).Sends May

/-- As long as the replies are fair, the result is one of these. -/
def Ends (Fair : ρ → β → Prop) (Post : α → Prop) : Client ρ β α → Prop
  | ready result => Post result
  | request message resume => ∀ reply, Fair message reply → (resume reply).Ends Fair Post

/-- As long as the replies are fair, a request of this kind is still sent. -/
def Inevitable (Fair : ρ → β → Prop) (Is : ρ → Prop) : Client ρ β α → Prop
  | ready _ => False
  | request message resume => Is message ∨ ∀ reply, Fair message reply → (resume reply).Inevitable Fair Is

/-- Nothing is sent after a request of this kind. -/
def Closes (Is : ρ → Prop) : Client ρ β α → Prop
  | ready _ => True
  | request message resume => ∀ reply, (Is message → ∃ result, resume reply = .ready result) ∧ (resume reply).Closes Is

variable {May Is : ρ → Prop} {Fair : ρ → β → Prop} {Post : α → Prop} {first : Client ρ β α} {next : α → Client ρ β γ}

theorem Sends.bind (sends : first.Sends May) (rest : ∀ result, (next result).Sends May) : (first.bind next).Sends May := by
  induction first with
  | ready result => exact rest result
  | request message resume ih => exact ⟨sends.1, fun reply => ih reply (sends.2 reply)⟩

theorem Sends.map {change : α → γ} (sends : first.Sends May) : (first.map change).Sends May :=
  sends.bind fun _ => trivial

theorem Sends.andThen {first : Client ρ β (Except ε α)} {next : α → Client ρ β (Except ε γ)} (sends : first.Sends May)
    (rest : ∀ value, (next value).Sends May) : (first.andThen next).Sends May := by
  apply sends.bind
  intro result
  cases result with
  | ok value => exact rest value
  | error error => trivial

theorem Sends.mono {More : ρ → Prop} (sends : first.Sends May) (implied : ∀ message, May message → More message) :
    first.Sends More := by
  induction first with
  | ready result => trivial
  | request message resume ih => exact ⟨implied _ sends.1, fun reply => ih reply (sends.2 reply)⟩

theorem Inevitable.bind (sent : first.Inevitable Fair Is) : (first.bind next).Inevitable Fair Is := by
  induction first with
  | ready result => exact sent.elim
  | request message resume ih => exact sent.imp_right fun later reply fair => ih reply (later reply fair)

/-- What comes after the first part is sent as well, if the first part ends as it should. -/
theorem Ends.inevitable_bind (ends : first.Ends Fair Post) (rest : ∀ result, Post result → (next result).Inevitable Fair Is) :
    (first.bind next).Inevitable Fair Is := by
  induction first with
  | ready result => exact rest result ends
  | request message resume ih => exact .inr fun reply fair => ih reply (ends reply fair)

theorem Ends.bind {Last : γ → Prop} (ends : first.Ends Fair Post) (rest : ∀ result, Post result → (next result).Ends Fair Last) :
    (first.bind next).Ends Fair Last := by
  induction first with
  | ready result => exact rest result ends
  | request message resume ih => exact fun reply fair => ih reply (ends reply fair)

theorem Ends.map {change : α → γ} {Last : γ → Prop} (ends : first.Ends Fair Post)
    (changed : ∀ result, Post result → Last (change result)) : (first.map change).Ends Fair Last :=
  ends.bind changed

/-- Where the first part succeeds, so far as the replies are fair, the rest is what counts. -/
theorem Ends.inevitable_andThen {first : Client ρ β (Except ε α)} {next : α → Client ρ β (Except ε γ)} {value : α}
    (ends : first.Ends Fair fun result => result = .ok value) (rest : (next value).Inevitable Fair Is) :
    (first.andThen next).Inevitable Fair Is := by
  apply ends.inevitable_bind
  rintro _ rfl
  exact rest

/-- Only the last part sends requests of this kind. -/
theorem Sends.closes_bind (sends : first.Sends fun message => ¬ Is message) (rest : ∀ result, (next result).Closes Is) :
    (first.bind next).Closes Is := by
  induction first with
  | ready result => exact rest result
  | request message resume ih =>
    intro reply
    exact ⟨fun is => absurd is sends.1, ih reply (sends.2 reply)⟩

end Client

/-! ## The race -/

/-- The reply and the new state, by a choice of the server's own. -/
abbrev Server (σ ρ β ω : Type) := σ → ρ → ω → β × σ

inductive Phase (ρ β α γ : Type) where
  | racing (main : Client ρ β α)
  | cleaning (left : Client ρ β γ)

structure Race (σ ρ β α γ : Type) where
  server : σ
  /-- What dropped futures have sent, as far as nobody has worked on it yet. -/
  abandoned : List ρ
  phase : Phase ρ β α γ

inductive Label (σ ω : Type) where
  /-- The request that is waited for is worked on. -/
  | reply (choice : ω)
  | cancel
  | late (index : Nat) (choice : ω)
  /-- Somebody else changes the server's state. -/
  | elsewhere (server : σ)

/-- The whole of a future, the server choosing the same each time. -/
def Client.execute (serve : Server σ ρ β ω) (choice : ω) (server : σ) : Client ρ β α → α × σ
  | .ready result => (result, server)
  | .request message resume =>
    let served := serve server message choice
    (resume served.1).execute serve choice served.2

theorem Client.execute_bind (serve : Server σ ρ β ω) (choice : ω) (server : σ) (first : Client ρ β α)
    (next : α → Client ρ β γ) :
    (first.bind next).execute serve choice server =
      (next (first.execute serve choice server).1).execute serve choice (first.execute serve choice server).2 := by
  induction first generalizing server with
  | ready result => rfl
  | request message resume ih => exact ih _ _

/-- Where the first part succeeds, the rest goes on from there. -/
theorem Client.execute_andThen {serve : Server σ ρ β ω} {choice : ω} {server after : σ}
    {first : Client ρ β (Except ε α)} {value : α} (succeeded : first.execute serve choice server = (.ok value, after))
    (next : α → Client ρ β (Except ε γ)) :
    (first.andThen next).execute serve choice server = (next value).execute serve choice after := by
  rw [Client.andThen, Client.execute_bind, succeeded]

/-- What holds wherever a request is sent, in the whole of a future. -/
def Client.Throughout (serve : Server σ ρ β ω) (choice : ω) (At : σ → ρ → Prop) (server : σ) : Client ρ β α → Prop
  | .ready _ => True
  | .request message resume => At server message ∧
      (resume (serve server message choice).1).Throughout serve choice At (serve server message choice).2

theorem Client.Throughout.bind {serve : Server σ ρ β ω} {choice : ω} {At : σ → ρ → Prop} {server : σ}
    {first : Client ρ β α} {next : α → Client ρ β γ} (throughout : first.Throughout serve choice At server)
    (rest : (next (first.execute serve choice server).1).Throughout serve choice At (first.execute serve choice server).2) :
    (first.bind next).Throughout serve choice At server := by
  induction first generalizing server with
  | ready result => exact rest
  | request message resume ih => exact ⟨throughout.1, ih _ throughout.2 rest⟩

theorem Client.Sends.throughout {At : σ → ρ → Prop} {client : Client ρ β α}
    (sends : client.Sends fun message => ∀ server, At server message) (serve : Server σ ρ β ω) (choice : ω) (server : σ) :
    client.Throughout serve choice At server := by
  induction client generalizing server with
  | ready result => trivial
  | request message resume ih => exact ⟨sends.1 server, ih _ (sends.2 _) _⟩

/-- A future that is left after some of its requests. What a request does, and what it is answered, is one of
what may happen to it. -/
inductive Client.Reaches (may : σ → ρ → β → σ → Prop) : Client ρ β α → σ → σ → Prop where
  | cut {client : Client ρ β α} {server : σ} : Reaches may client server server
  | call {message : ρ} {resume : β → Client ρ β α} {server next final : σ} {reply : β}
      (happened : may server message reply next) (rest : Reaches may (resume reply) next final) :
      Reaches may (.request message resume) server final

theorem Client.Reaches.invariant {may : σ → ρ → β → σ → Prop} {May : ρ → Prop} {Holds : σ → Prop} {client : Client ρ β α}
    {server final : σ} (reaches : client.Reaches may server final) (sends : client.Sends May)
    (kept : ∀ server message reply next, Holds server → May message → may server message reply next → Holds next)
    (initial : Holds server) : Holds final := by
  induction reaches with
  | cut => exact initial
  | call happened _ ih => exact ih (sends.2 _) (kept _ _ _ _ initial sends.1 happened)

namespace Race

variable (serve : Server σ ρ β ω) (cleanup : Client ρ β γ)

def next (race : Race σ ρ β α γ) : Label σ ω → Option (Race σ ρ β α γ)
  | .reply choice =>
    match race.phase with
    | .racing (.request message resume) =>
      let served := serve race.server message choice
      some { race with server := served.2, phase := .racing (resume served.1) }
    | .cleaning (.request message resume) =>
      let served := serve race.server message choice
      some { race with server := served.2, phase := .cleaning (resume served.1) }
    | .racing (.ready _) | .cleaning (.ready _) => none
  | .cancel =>
    match race.phase with
    | .racing (.request message _) =>
      some { race with abandoned := message :: race.abandoned, phase := .cleaning cleanup }
    | .racing (.ready _) | .cleaning _ => none
  | .late index choice =>
    (race.abandoned[index]?).map fun message =>
      { race with server := (serve race.server message choice).2, abandoned := race.abandoned.eraseIdx index }
  | .elsewhere server => some { race with server := server }

/-- A future that nobody has polled yet. -/
def begin (server : σ) (main : Client ρ β α) : Race σ ρ β α γ := ⟨server, [], .racing main⟩

/-- What one step does, whichever it is. -/
inductive Moves (race : Race σ ρ β α γ) : Label σ ω → Race σ ρ β α γ → Prop where
  | main {message : ρ} {resume : β → Client ρ β α} (choice : ω) (here : race.phase = .racing (.request message resume)) :
      Moves race (.reply choice) { race with server := (serve race.server message choice).2,
                                             phase := .racing (resume (serve race.server message choice).1) }
  | cleans {message : ρ} {resume : β → Client ρ β γ} (choice : ω)
      (here : race.phase = .cleaning (.request message resume)) :
      Moves race (.reply choice) { race with server := (serve race.server message choice).2,
                                             phase := .cleaning (resume (serve race.server message choice).1) }
  | drops {message : ρ} {resume : β → Client ρ β α} (here : race.phase = .racing (.request message resume)) :
      Moves race .cancel { race with abandoned := message :: race.abandoned, phase := .cleaning cleanup }
  | late {message : ρ} {index : Nat} (choice : ω) (here : race.abandoned[index]? = some message) :
      Moves race (.late index choice) { race with server := (serve race.server message choice).2,
                                                  abandoned := race.abandoned.eraseIdx index }
  | elsewhere (server : σ) : Moves race (.elsewhere server) { race with server := server }

variable {serve cleanup}

theorem next_moves {race after : Race σ ρ β α γ} {label : Label σ ω} (moved : race.next serve cleanup label = some after) :
    Moves serve cleanup race label after := by
  cases label with
  | reply choice =>
    simp only [next] at moved
    split at moved
    · next message resume here =>
      cases moved
      exact .main choice here
    · next message resume here =>
      cases moved
      exact .cleans choice here
    · cases moved
    · cases moved
  | cancel =>
    simp only [next] at moved
    split at moved
    · next message resume here =>
      cases moved
      exact .drops here
    · cases moved
    · cases moved
  | late index choice =>
    obtain ⟨message, here, rfl⟩ := Option.map_eq_some_iff.mp moved
    exact .late choice here
  | elsewhere server =>
    cases moved
    exact .elsewhere server

/-- A clean-up that is left alone comes to its end. -/
theorem run_cleaning (serve : Server σ ρ β ω) (cleanup : Client ρ β γ)
    {allowed : Race σ ρ β α γ → Label σ ω → Prop} (choice : ω)
    (willing : ∀ race, allowed race (.reply choice)) (server : σ) (abandoned : List ρ) (left : Client ρ β γ) :
    Run (next serve cleanup) allowed ⟨server, abandoned, .cleaning left⟩
      ⟨(left.execute serve choice server).2, abandoned, .cleaning (.ready (left.execute serve choice server).1)⟩ := by
  induction left generalizing server with
  | ready result => exact .refl
  | request message resume ih =>
    have first : Run (next serve cleanup) allowed ⟨server, abandoned, .cleaning (.request message resume)⟩
        ⟨(serve server message choice).2, abandoned, .cleaning (resume (serve server message choice).1)⟩ :=
      .step (.reply choice) .refl (willing _) rfl
    exact first.trans (ih _ _)

/-- As long as the race is on, its future sends only these, and none has been given up. -/
def Racing (May : ρ → Prop) (race : Race σ ρ β α γ) : Prop :=
  ∀ left, race.phase = .racing left → left.Sends May ∧ race.abandoned = []

theorem racing_of_run {allowed : Race σ ρ β α γ → Label σ ω → Prop} {May : ρ → Prop} {server : σ} {main : Client ρ β α}
    (sends : main.Sends May) {finish : Race σ ρ β α γ} (run : Run (next serve cleanup) allowed (begin server main) finish) :
    finish.Racing May := by
  have initial : (begin server main : Race σ ρ β α γ).Racing May := by
    intro left same
    cases same
    exact ⟨sends, rfl⟩
  apply run.invariant initial
  intro race label after racing _ moved left same
  cases next_moves moved with
  | main choice here =>
    cases same
    exact ⟨(racing _ here).1.2 _, (racing _ here).2⟩
  | cleans | drops => cases same
  | late choice here =>
    rw [(racing left same).2] at here
    cases here
  | elsewhere server => exact racing left same

end Race

/-! ## What a clean-up leaves behind -/

/-- Resources that requests make and free, and an end after which the clean-up sends nothing more. -/
structure Resources (serve : Server σ ρ β ω) (κ : Type) where
  Held : σ → κ → Prop
  Makes : ρ → κ → Prop
  Frees : ρ → κ → Prop
  /-- The replies that tell the clean-up to go on. -/
  Fair : ρ → β → Prop
  Over : σ → Prop
  Closing : ρ → Prop
  made : ∀ server message choice item, Held (serve server message choice).2 item → Held server item ∨ Makes message item
  freed : ∀ server message choice item, Frees message item → Fair message (serve server message choice).1 →
    ¬ Held (serve server message choice).2 item
  closed : ∀ server message choice, Over (serve server message choice).2 → Over server ∨ Closing message

variable {serve : Server σ ρ β ω} (resources : Resources serve κ)

/-- A clean-up that is sure to free each of the items, makes none of them, and closes at its end. -/
structure Resources.CleansUp (items : κ → Prop) (cleanup : Client ρ β γ) : Prop where
  frees : ∀ item, items item → cleanup.Inevitable resources.Fair fun message => resources.Frees message item
  makesNone : cleanup.Sends fun message => ∀ item, items item → ¬ resources.Makes message item
  closes : cleanup.Closes resources.Closing

/-- The clean-up is still sure to free the item. -/
def Resources.Ahead (phase : Phase ρ β α γ) (item : κ) : Prop :=
  ∃ left, phase = .cleaning left ∧ left.Inevitable resources.Fair fun message => resources.Frees message item

/-- The clean-up gets fair replies, and what a dropped future has asked for is made only while the clean-up still has
its removal ahead. Nobody else makes any of the items or brings the end about. -/
def Resources.Orderly (items : κ → Prop) (race : Race σ ρ β α γ) : Label σ ω → Prop
  | .reply choice => ∀ message resume, race.phase = .cleaning (.request message resume) →
      resources.Fair message (serve race.server message choice).1
  | .cancel => True
  | .late index choice => ∀ message, race.abandoned[index]? = some message → ∀ item, items item →
      resources.Makes message item → resources.Held (serve race.server message choice).2 item →
        resources.Held race.server item ∨ resources.Ahead race.phase item
  | .elsewhere server => (∀ item, items item → resources.Held server item → resources.Held race.server item) ∧
      (resources.Over server → resources.Over race.server)

/-- Whatever is held during the clean-up is still to be freed, and the end is the end. -/
structure Resources.Tidy (items : κ → Prop) (race : Race σ ρ β α γ) : Prop where
  main : ∀ main, race.phase = .racing main → main.Sends fun message => ¬ resources.Closing message
  abandoned : ∀ message ∈ race.abandoned, ¬ resources.Closing message
  left : ∀ left, race.phase = .cleaning left →
    left.Sends (fun message => ∀ item, items item → ¬ resources.Makes message item) ∧ left.Closes resources.Closing
  ahead : ∀ left, race.phase = .cleaning left → ∀ item, items item → resources.Held race.server item →
    left.Inevitable resources.Fair fun message => resources.Frees message item
  ended : resources.Over race.server → ∃ result, race.phase = .cleaning (.ready result)

namespace Resources

variable {resources : Resources serve κ} {items : κ → Prop} {cleanup : Client ρ β γ} {race after : Race σ ρ β α γ}
  {label : Label σ ω}

/-- A reply to the clean-up frees what it was to free, or leaves the freeing ahead. -/
theorem Tidy.ahead_of_reply (tidy : resources.Tidy items race) {message : ρ} {resume : β → Client ρ β γ}
    (here : race.phase = .cleaning (.request message resume)) {choice : ω}
    (fair : resources.Fair message (serve race.server message choice).1) {item : κ} (isItem : items item)
    (held : resources.Held (serve race.server message choice).2 item) :
    (resume (serve race.server message choice).1).Inevitable resources.Fair fun message =>
      resources.Frees message item := by
  have before : resources.Held race.server item := by
    rcases resources.made _ _ _ _ held with before | makes
    · exact before
    · exact absurd makes ((tidy.left _ here).1.1 item isItem)
  rcases tidy.ahead _ here item isItem before with frees | later
  · exact absurd held (resources.freed _ _ _ _ frees fair)
  · exact later _ fair

theorem Tidy.next (tidy : resources.Tidy items race) (cleansUp : resources.CleansUp items cleanup)
    (orderly : resources.Orderly items race label) (moved : race.next serve cleanup label = some after) :
    resources.Tidy items after := by
  cases Race.next_moves moved with
  | @main message resume choice here =>
    have sends := tidy.main _ here
    constructor
    · intro main same
      cases same
      exact sends.2 _
    · exact tidy.abandoned
    · intro left same
      cases same
    · intro left same
      cases same
    · intro ended
      rcases resources.closed _ _ _ ended with before | closing
      · obtain ⟨result, there⟩ := tidy.ended before
        rw [here] at there
        cases there
      · exact absurd closing sends.1
  | @cleans message resume choice here =>
    obtain ⟨sends, closes⟩ := tidy.left _ here
    constructor
    · intro main same
      cases same
    · exact tidy.abandoned
    · intro left same
      cases same
      exact ⟨sends.2 _, (closes _).2⟩
    · intro left same item isItem held
      cases same
      exact tidy.ahead_of_reply here (orderly message resume here) isItem held
    · intro ended
      rcases resources.closed _ _ _ ended with before | closing
      · obtain ⟨result, there⟩ := tidy.ended before
        rw [here] at there
        cases there
      · obtain ⟨result, ended⟩ := (closes _).1 closing
        exact ⟨result, congrArg Phase.cleaning ended⟩
  | @drops message resume here =>
    constructor
    · intro main same
      cases same
    · intro other member
      rcases List.mem_cons.mp member with rfl | old
      · exact (tidy.main _ here).1
      · exact tidy.abandoned other old
    · intro left same
      cases same
      exact ⟨cleansUp.makesNone, cleansUp.closes⟩
    · intro left same item isItem _
      cases same
      exact cleansUp.frees item isItem
    · intro ended
      obtain ⟨result, there⟩ := tidy.ended ended
      rw [here] at there
      cases there
  | @late message index choice here =>
    have dropped := List.mem_of_getElem? here
    constructor
    · exact tidy.main
    · exact fun other member => tidy.abandoned other (List.mem_of_mem_eraseIdx member)
    · exact tidy.left
    · intro left same item isItem held
      rcases resources.made _ _ _ _ held with before | makes
      · exact tidy.ahead left same item isItem before
      · rcases orderly message here item isItem makes held with before | ⟨other, there, sure⟩
        · exact tidy.ahead left same item isItem before
        · -- the request has come in before the clean-up got to its item
          obtain rfl : other = left := by
            rw [same] at there
            cases there
            rfl
          exact sure
    · intro ended
      rcases resources.closed _ _ _ ended with before | closing
      · exact tidy.ended before
      · exact absurd closing (tidy.abandoned _ dropped)
  | elsewhere server =>
    constructor
    · exact tidy.main
    · exact tidy.abandoned
    · exact tidy.left
    · exact fun left same item isItem held => tidy.ahead left same item isItem (orderly.1 item isItem held)
    · exact fun ended => tidy.ended (orderly.2 ended)

theorem begin_tidy {server : σ} {main : Client ρ β α} (sends : main.Sends fun message => ¬ resources.Closing message)
    (ongoing : ¬ resources.Over server) : resources.Tidy items (Race.begin server main : Race σ ρ β α γ) := by
  constructor
  · intro other same
    cases same
    exact sends
  · exact fun _ none_yet => by cases none_yet
  · intro left same
    cases same
  · intro left same
    cases same
  · exact fun ended => absurd ended ongoing

/-- Once it is over, in an orderly run, none of the items is held. -/
theorem clean_of_run (cleansUp : resources.CleansUp items cleanup) {server : σ} {main : Client ρ β α}
    (sends : main.Sends fun message => ¬ resources.Closing message) (ongoing : ¬ resources.Over server)
    {finish : Race σ ρ β α γ}
    (run : Run (Race.next serve cleanup) (resources.Orderly items) (.begin server main) finish)
    (ended : resources.Over finish.server) : ∀ item, items item → ¬ resources.Held finish.server item := by
  have tidy : resources.Tidy items finish := by
    apply run.invariant (begin_tidy sends ongoing)
    exact fun race label after tidy orderly moved => tidy.next cleansUp orderly moved
  intro item isItem held
  obtain ⟨result, phase⟩ := tidy.ended ended
  exact tidy.ahead _ phase item isItem held

end Resources

end Cancellation
