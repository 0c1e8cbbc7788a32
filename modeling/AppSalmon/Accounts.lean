import AppSalmon.Auth
import AppSalmon.Library.Decoding

/-! The accounts of the clients, beside the registry that authenticates them.

Both maps are built from the same list of entries, the registry from the hashes
and the accounts from the passwd text.
-/

set_option autoImplicit false

namespace AppSalmon

/-! ## The passwd text -/

/-- The first line of an account, with its user and its group in the third and the fourth field. -/
def FirstEntry (contents : List Char) (name : String) (uid gid : UInt32) : Prop :=
  ∃ before line after uidText gidText rest, lines contents = before ++ line :: after ∧
    (∀ earlier ∈ before, (splitOn ':' earlier).head? ≠ some name.toList) ∧
    (splitOn ':' line).head? = some name.toList ∧ (splitOn ':' line).drop 2 = uidText :: gidText :: rest ∧
    parseU32 uidText = some uid ∧ parseU32 gidText = some gid

theorem parseUidGid_eq_ok {contents : List Char} {name : String} {uid gid : UInt32} :
    parseUidGid contents name = .ok (uid, gid) ↔ FirstEntry contents name uid gid := by
  constructor
  · intro parsed
    unfold parseUidGid at parsed
    split at parsed
    · cases parsed
    next line found =>
    -- the first line of the name counts, whatever later lines of it say
    obtain ⟨named, before, after, whole, unnamed⟩ := List.find?_eq_some_iff_append.mp found
    split at parsed
    · next uidText gidText rest fields =>
      split at parsed
      · next user group user? group? =>
        cases parsed
        refine ⟨before, line, after, uidText, gidText, rest, whole, fun earlier member => ?_, ?_, fields, user?, group?⟩
        · simpa using unnamed earlier member
        · simpa using named
      · cases parsed
    · cases parsed
  · rintro ⟨before, line, after, uidText, gidText, rest, whole, unnamed, named, fields, user, group⟩
    have found : ((lines contents).find? fun line => (splitOn ':' line).head? = some name.toList) = some line := by
      apply List.find?_eq_some_iff_append.mpr
      exact ⟨by simpa using named, before, after, whole, fun earlier member => by simpa using unnamed earlier member⟩
    simp only [parseUidGid, found, fields, user, group]

theorem FirstEntry.unique {contents : List Char} {name : String} {uid gid otherUid otherGid : UInt32}
    (first : FirstEntry contents name uid gid) (second : FirstEntry contents name otherUid otherGid) :
    uid = otherUid ∧ gid = otherGid := by
  have same := (parseUidGid_eq_ok.mpr first).symm.trans (parseUidGid_eq_ok.mpr second)
  simpa using Except.ok.inj same

/-! ## The account of an entry -/

theorem resolveClient_eq_ok {contents : List Char} {entry : ClientConfig} {client : ClientId} {worker : WorkerUser} :
    resolveClient contents entry = .ok (client, worker) ↔
      client = ⟨entry.name⟩ ∧ worker.name = entry.unixUser ∧ FirstEntry contents entry.unixUser worker.uid worker.gid := by
  rw [← parseUidGid_eq_ok, resolveClient]
  cases worker
  cases ids : parseUidGid contents entry.unixUser with
  | error why => simp [bind, Except.bind]
  | ok found =>
    obtain ⟨uid, gid⟩ := found
    simp only [bind, Except.bind, pure, Except.pure, Except.ok.injEq, Prod.mk.injEq, WorkerUser.mk.injEq]
    simp only [eq_comm]

theorem resolveClientWorkers_eq_ok {contents : List Char} {clients : List ClientConfig} {workers : ClientWorkers}
    (resolved : resolveClientWorkers contents clients = .ok workers) :
    List.Forall₂ (fun entry account => resolveClient contents entry = .ok account) clients.reverse workers.accounts := by
  unfold resolveClientWorkers at resolved
  cases each : clients.mapM (resolveClient contents) with
  | error why => simp [each, bind, Except.bind] at resolved
  | ok accounts =>
    simp only [each, bind, Except.bind, pure, Except.pure, Except.ok.injEq] at resolved
    subst resolved
    exact List.forall₂_reverse_iff.mpr (Decoding.mapM_eq_ok.mp each)

theorem find_resolved {contents : List Char} {clients : List ClientConfig} {workers : ClientWorkers}
    (resolved : resolveClientWorkers contents clients = .ok workers) (client : ClientId) :
    Option.Rel (fun entry account => resolveClient contents entry = .ok account) (entryOf clients client.name)
      (workers.accounts.find? fun account => account.1 = client) := by
  refine KeyedTable.find?_related ?_ (resolveClientWorkers_eq_ok resolved)
  intro entry account here
  obtain ⟨owner, -⟩ := resolveClient_eq_ok.mp here
  cases client
  simp [owner]

theorem ClientWorkers.get_resolved {contents : List Char} {clients : List ClientConfig} {workers : ClientWorkers}
    (resolved : resolveClientWorkers contents clients = .ok workers) {client : ClientId} {worker : WorkerUser} :
    workers.get client = .ok worker ↔ ∃ entry, entryOf clients client.name = some entry ∧
      worker.name = entry.unixUser ∧ FirstEntry contents entry.unixUser worker.uid worker.gid := by
  have same := find_resolved resolved client
  unfold ClientWorkers.get
  generalize entryOf clients client.name = entry? at same ⊢
  generalize workers.accounts.find? _ = account? at same ⊢
  cases same with
  | none => simp
  | @some entry account here =>
    obtain ⟨owner, found⟩ := account
    obtain ⟨-, user, numbers⟩ := resolveClient_eq_ok.mp here
    simp only [Except.ok.injEq, Option.some.injEq, exists_eq_left']
    constructor
    · rintro rfl
      exact ⟨user, numbers⟩
    · rintro ⟨user', numbers'⟩
      -- one entry and one passwd text leave one account
      obtain ⟨uid, gid⟩ := numbers.unique numbers'
      cases found
      cases worker
      simp only [WorkerUser.mk.injEq]
      exact ⟨user.trans user'.symm, uid, gid⟩

/-- Every client with an entry has an account, since resolving stops at the first entry without one. -/
theorem ClientWorkers.get_isOk {contents : List Char} {clients : List ClientConfig} {workers : ClientWorkers}
    (resolved : resolveClientWorkers contents clients = .ok workers) {client : ClientId} :
    (∃ worker, workers.get client = .ok worker) ↔ ∃ entry, entryOf clients client.name = some entry := by
  have same := find_resolved resolved client
  unfold ClientWorkers.get
  generalize entryOf clients client.name = entry? at same ⊢
  generalize workers.accounts.find? _ = account? at same ⊢
  cases same <;> simp

theorem Config.get_clientRegistry_isSome {config : Config} (accepted : config.validate = .ok ())
    {registry : ClientRegistry} (built : config.clientRegistry = .ok registry) {client : ClientId} :
    (∃ hash, registry.get client = some hash) ↔ ∃ entry, entryOf config.clients client.name = some entry := by
  rw [config.get_clientRegistry built]
  constructor
  · rintro ⟨hash, registered⟩
    obtain ⟨entry, counts, -⟩ := Option.bind_eq_some_iff.mp registered
    exact ⟨entry, counts⟩
  · rintro ⟨entry, counts⟩
    have formed := checkHashes_ok.mp (config.hashes_ok accepted) entry (entryOf_eq_some counts).1
    rwa [counts, Option.bind_some]

structure AccountsTotal (sha256 : List UInt8 → SecretHash) (config : Config) (contents : List Char)
    (registry : ClientRegistry) (workers : ClientWorkers) : Prop where
  domain : ∀ client, (∃ worker, workers.get client = .ok worker) ↔ ∃ hash, registry.get client = some hash
  usable : ∀ client worker, workers.get client = .ok worker →
    ((∃ headerValue, registry.authenticate sha256 headerValue = .ok client) ↔
      client.name ≠ "" ∧ ':' ∉ client.name.toList ∧
        ∃ secret, secret ≠ "" ∧ registry.get client = some (SecretHash.of sha256 secret))
  known : ∀ headerValue client, registry.authenticate sha256 headerValue = .ok client →
    workers.get client ≠ .error (.unknownClient client)
  /-- One entry gives the client both its hash and its account. -/
  own : ∀ client worker, workers.get client = .ok worker → ∃ entry, entryOf config.clients client.name = some entry ∧
    registry.get client = SecretHash.fromHexWithPrefix entry.secretHash ∧ worker.name = entry.unixUser ∧
    FirstEntry contents entry.unixUser worker.uid worker.gid
  names : ∀ first second firstWorker secondWorker, first ≠ second → workers.get first = .ok firstWorker →
    workers.get second = .ok secondWorker → firstWorker.name ≠ secondWorker.name
  /-- Two clients share a user exactly where the passwd text gives it to both of their accounts. -/
  uids : ∀ first second firstWorker secondWorker, workers.get first = .ok firstWorker →
    workers.get second = .ok secondWorker →
    (firstWorker.uid = secondWorker.uid ↔
      ∃ uid firstGid secondGid, FirstEntry contents firstWorker.name uid firstGid ∧
        FirstEntry contents secondWorker.name uid secondGid)

/-- Where resolving succeeds under an accepted configuration, every client has an account of its own. -/
theorem accounts_total {config : Config} (accepted : config.validate = .ok ()) {contents : List Char}
    {workers : ClientWorkers} (resolved : resolveClientWorkers contents config.clients = .ok workers)
    (sha256 : List UInt8 → SecretHash) :
    ∃ registry, config.clientRegistry = .ok registry ∧ AccountsTotal sha256 config contents registry workers := by
  obtain ⟨registry, built⟩ := config.clientRegistry_isOk accepted
  have hash := config.get_clientRegistry built
  have domain : ∀ client, (∃ worker, workers.get client = .ok worker) ↔ ∃ hash, registry.get client = some hash := by
    intro client
    rw [ClientWorkers.get_isOk resolved, config.get_clientRegistry_isSome accepted built]
  refine ⟨registry, built, domain, ?_, ?_, ?_, ?_, ?_⟩
  · intro client worker _
    constructor
    -- the header that is accepted names the client and carries a secret of its hash
    · rintro ⟨headerValue, authenticated⟩
      obtain ⟨named, absent, secret, secured, -, registered⟩ := (ClientRegistry.authenticate_eq_ok sha256).mp authenticated
      exact ⟨named, absent, secret, secured, registered⟩
    -- and any such client can send that header
    · rintro ⟨named, absent, secret, secured, registered⟩
      exact ⟨_, (ClientRegistry.authenticate_eq_ok sha256).mpr ⟨named, absent, secret, secured, rfl, registered⟩⟩
  · intro headerValue client authenticated
    obtain ⟨-, -, secret, -, -, registered⟩ := (ClientRegistry.authenticate_eq_ok sha256).mp authenticated
    obtain ⟨worker, found⟩ := (domain client).mpr ⟨_, registered⟩
    simp [found]
  · intro client worker found
    obtain ⟨entry, counts, user, numbers⟩ := (ClientWorkers.get_resolved resolved).mp found
    exact ⟨entry, counts, by rw [hash, counts, Option.bind_some], user, numbers⟩
  · intro first second firstWorker secondWorker different left right same
    exact different (resolveClientWorkers_private accepted resolved _ _ _ _ left right same)
  · intro first second firstWorker secondWorker left right
    obtain ⟨entry, -, user, numbers⟩ := (ClientWorkers.get_resolved resolved).mp left
    obtain ⟨other, -, otherUser, otherNumbers⟩ := (ClientWorkers.get_resolved resolved).mp right
    -- the accounts' names are those of the entries, so both numbers come from the passwd text
    rw [← user] at numbers
    rw [← otherUser] at otherNumbers
    constructor
    · intro same
      exact ⟨_, _, _, numbers, same ▸ otherNumbers⟩
    · rintro ⟨uid, firstGid, secondGid, leftEntry, rightEntry⟩
      exact (numbers.unique leftEntry).1.trans (otherNumbers.unique rightEntry).1.symm

/-! ## Two clients -/

def pairConfig : Config where
  limits := smallLimits
  clients := [smallClient "alice" "agent1", smallClient "bob" "agent2"]

def pairPasswd (uid : String) : List Char :=
  ("agent1:x:1001:1001::/:/bin/sh\nagent2:x:" ++ uid ++ ":1002::/:/bin/sh\n").toList

theorem pair_accounts_total : ∃ registry, pairConfig.clientRegistry = .ok registry ∧
    AccountsTotal smallSha256 pairConfig (pairPasswd "1002") registry
      ⟨[(⟨"bob"⟩, ⟨"agent2", 1002, 1002⟩), (⟨"alice"⟩, ⟨"agent1", 1001, 1001⟩)]⟩ :=
  accounts_total (by decide +kernel) (by decide +kernel) smallSha256

/-- Two accounts of one user: both names are resolved, and nothing compares the users. -/
theorem pair_shares_uid : pairConfig.validate = .ok () ∧
    ∃ workers, resolveClientWorkers (pairPasswd "1001") pairConfig.clients = .ok workers ∧
      ¬ ∀ first second firstWorker secondWorker, first ≠ second → workers.get first = .ok firstWorker →
        workers.get second = .ok secondWorker →
        firstWorker.name ≠ secondWorker.name ∧ firstWorker.uid ≠ secondWorker.uid := by
  refine ⟨by decide +kernel, ⟨[(⟨"bob"⟩, ⟨"agent2", 1001, 1002⟩), (⟨"alice"⟩, ⟨"agent1", 1001, 1001⟩)]⟩,
    by decide +kernel, fun apart => ?_⟩
  have different := apart ⟨"alice"⟩ ⟨"bob"⟩ _ _ (by decide) rfl rfl
  exact different.2 rfl

end AppSalmon
