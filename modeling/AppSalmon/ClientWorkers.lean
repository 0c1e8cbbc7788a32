import AppSalmon.Config
import Mathlib.Data.List.Nodup

/-! Each client's Unix account, resolved from the configuration and the passwd text at startup. -/

set_option autoImplicit false

namespace AppSalmon

inductive WorkerResolutionError where
  | accountNotFound (name : String)
  | malformedEntry (name : String)
  deriving DecidableEq

/-- `str::split` at one character: as many pieces as separators and one more. -/
def splitOn (separator : Char) : List Char → List (List Char)
  | [] => [[]]
  | first :: rest =>
    if first = separator then [] :: splitOn separator rest
    else match splitOn separator rest with
      | [] => [[first]]
      | head :: tail => (first :: head) :: tail

/-- `str::lines`: no line after a final line feed, and no carriage return before a line feed. -/
def lines (contents : List Char) : List (List Char) :=
  let pieces := splitOn '\n' contents
  let ended := pieces.dropLast.map fun line => if line.getLast? = some '\r' then line.dropLast else line
  ended ++ (pieces.getLast?.toList.filter fun line => line ≠ [])

example : lines "a\r\nb\r".toList = ["a".toList, "b\r".toList] := by decide

def digitValue (char : Char) : Option Nat :=
  if '0' ≤ char ∧ char ≤ '9' then some (char.toNat - '0'.toNat) else none

def decimalValue (digits : List Char) : Option Nat :=
  digits.foldlM (fun value char => (digitValue char).map fun digit => 10 * value + digit) 0

/-- `str::parse::<u32>`: an optional plus sign and at least one digit. -/
def parseU32 (text : List Char) : Option UInt32 := do
  let digits := if text.head? = some '+' then text.tail else text
  if digits = [] then none
  else
    let value ← decimalValue digits
    if value < 2 ^ 32 then some (UInt32.ofNat value) else none

def parseUidGid (contents : List Char) (name : String) : Except WorkerResolutionError (UInt32 × UInt32) :=
  match (lines contents).find? fun line => (splitOn ':' line).head? = some name.toList with
  | none => .error (.accountNotFound name)
  | some line =>
    match (splitOn ':' line).drop 2 with
    | uid :: gid :: _ =>
      match parseU32 uid, parseU32 gid with
      | some uid, some gid => .ok (uid, gid)
      | _, _ => .error (.malformedEntry name)
    | _ => .error (.malformedEntry name)

def resolveClient (contents : List Char) (client : ClientConfig) :
    Except WorkerResolutionError (ClientId × WorkerUser) := do
  let ids ← parseUidGid contents client.unixUser
  return (⟨client.name⟩, ⟨client.unixUser, ids.1, ids.2⟩)

/-- The map from client to account. Collecting pairs into a map keeps the last pair of each key, so
the pairs stand here in reverse. -/
structure ClientWorkers where
  accounts : List (ClientId × WorkerUser)
  deriving DecidableEq

def resolveClientWorkers (contents : List Char) (clients : List ClientConfig) :
    Except WorkerResolutionError ClientWorkers := do
  let accounts ← clients.mapM (resolveClient contents)
  return ⟨accounts.reverse⟩

def ClientWorkers.get (workers : ClientWorkers) (client : ClientId) : Except ClientWorkerError WorkerUser :=
  match workers.accounts.find? fun entry => entry.1 = client with
  | some entry => .ok entry.2
  | none => .error (.unknownClient client)

/-- No account name belongs to two clients. -/
def ClientWorkers.Private (workers : ClientWorkers) : Prop :=
  ∀ first second firstWorker secondWorker, workers.get first = .ok firstWorker →
    workers.get second = .ok secondWorker → firstWorker.name = secondWorker.name → first = second

theorem ClientWorkers.get_eq_ok {workers : ClientWorkers} {client : ClientId} {worker : WorkerUser}
    (found : workers.get client = .ok worker) : (client, worker) ∈ workers.accounts := by
  unfold get at found
  split at found
  · next entry here =>
    obtain rfl : entry.2 = worker := Except.ok.inj found
    have named : entry.1 = client := by simpa using List.find?_some here
    rw [← named]
    exact List.mem_of_find?_eq_some here
  · cases found

theorem resolveClient_ok {contents : List Char} {client : ClientConfig} {entry : ClientId × WorkerUser}
    (resolved : resolveClient contents client = .ok entry) :
    entry.1 = ⟨client.name⟩ ∧ entry.2.name = client.unixUser := by
  unfold resolveClient at resolved
  cases ids : parseUidGid contents client.unixUser with
  | error why => simp [ids, bind, Except.bind] at resolved
  | ok found =>
    simp only [ids, bind, Except.bind, pure, Except.pure, Except.ok.injEq] at resolved
    subst resolved
    exact ⟨rfl, rfl⟩

theorem resolveClients_names {contents : List Char} {clients : List ClientConfig}
    {accounts : List (ClientId × WorkerUser)} (resolved : clients.mapM (resolveClient contents) = .ok accounts) :
    accounts.map (fun entry => (entry.1, entry.2.name)) =
      clients.map fun client => (⟨client.name⟩, client.unixUser) := by
  induction clients generalizing accounts with
  | nil =>
    cases resolved
    rfl
  | cons client rest ih =>
    rw [List.mapM_cons] at resolved
    cases head : resolveClient contents client with
    | error why => simp [head, bind, Except.bind] at resolved
    | ok entry =>
      cases tail : rest.mapM (resolveClient contents) with
      | error why => simp [head, tail, bind, Except.bind] at resolved
      | ok others =>
        simp only [head, tail, bind, Except.bind, pure, Except.pure, Except.ok.injEq] at resolved
        subst resolved
        have named := resolveClient_ok head
        simp [named.1, named.2, ih tail]

/-- Under an accepted configuration every client has an account of its own. -/
theorem resolveClientWorkers_private {config : Config} (accepted : config.validate = .ok ())
    {contents : List Char} {workers : ClientWorkers}
    (resolved : resolveClientWorkers contents config.clients = .ok workers) : workers.Private := by
  unfold resolveClientWorkers at resolved
  cases pairs : config.clients.mapM (resolveClient contents) with
  | error why => simp [pairs, bind, Except.bind] at resolved
  | ok accounts =>
    simp only [pairs, bind, Except.bind, pure, Except.pure, Except.ok.injEq] at resolved
    subst resolved
    have names := resolveClients_names pairs
    have distinct : (accounts.map fun entry => entry.2.name).Nodup := by
      have users := congrArg (List.map Prod.snd) names
      rw [List.map_map, List.map_map] at users
      exact users ▸ config.unixUsers_nodup accepted
    intro first second firstWorker secondWorker left right same
    have left := List.mem_reverse.mp (ClientWorkers.get_eq_ok left)
    have right := List.mem_reverse.mp (ClientWorkers.get_eq_ok right)
    exact congrArg Prod.fst (List.inj_on_of_nodup_map distinct left right same)

end AppSalmon
