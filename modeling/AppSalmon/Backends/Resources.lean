import AppSalmon.Backends

/-! What goes by the names of a cluster: a spawn makes nothing else, and a teardown removes all of it and nothing else.

Nothing about a spawn is stored. Its teardown finds what there is by the names
alone, wherever the spawn was cut off.
-/

set_option autoImplicit false

namespace AppSalmon

open Cancellation (Client)

/-! ## The texts of identifiers -/

/-- Texts of one length, of letters and digits, one for each identifier. -/
structure IdTexts where
  text : ClusterId → String
  width : Nat
  length : ∀ id, (text id).toList.length = width
  alphanumeric : ∀ id, ∀ char ∈ (text id).toList, char.isAlphanum = true
  injective : ∀ first second, text first = text second → first = second

def IdTexts.resources (texts : IdTexts) (generatedConfigDirBase : UnixPath.Path) (id : ClusterId) (kind : ServiceKind) :
    ResourceNames := kind.resources generatedConfigDirBase (texts.text id)

variable {texts : IdTexts} {id other : ClusterId} {kind otherKind : ServiceKind} {base : UnixPath.Path}

/-- Texts of one length are cut from whatever follows them. -/
theorem IdTexts.eq_of_append {rest otherRest : List Char}
    (same : (texts.text id).toList ++ rest = (texts.text other).toList ++ otherRest) : id = other := by
  have sized : (texts.text id).toList.length = (texts.text other).toList.length := by rw [texts.length, texts.length]
  have equal := List.append_inj_left same sized
  exact texts.injective _ _ (String.toList_inj.mp equal)

theorem IdTexts.relative (texts : IdTexts) (id : ClusterId) : UnixPath.hasRoot (texts.text id).toList = false := by
  cases text : (texts.text id).toList with
  | nil => rfl
  | cons first rest =>
    have letter := texts.alphanumeric id first (text ▸ List.mem_cons_self)
    rw [UnixPath.hasRoot, decide_eq_false_iff_not]
    rintro rfl
    cases letter

/-! ## The names of two clusters -/

/-- After the common start of all names comes the text of the identifier. -/
theorem containerName_starts {clusterId name : String} (member : name ∈ kind.containerNames clusterId) :
    ∃ rest, name.toList = "app-salmon-".toList ++ (clusterId.toList ++ rest) := by
  cases kind with
  | postgres =>
    obtain rfl := List.mem_singleton.mp member
    exact ⟨[], by simp [PostgresBackend.containerName, String.toList_append]⟩
  | supabase =>
    obtain ⟨suffix, -, rfl⟩ := List.mem_map.mp member
    exact ⟨'-' :: suffix.toList, by simp [SupabaseBackend.containerName, String.toList_append]⟩

theorem containers_apart {name : String} (own : name ∈ (texts.resources base id kind).containers)
    (others : name ∈ (texts.resources base other otherKind).containers) : id = other := by
  obtain ⟨rest, start⟩ := containerName_starts own
  obtain ⟨otherRest, otherStart⟩ := containerName_starts others
  exact IdTexts.eq_of_append (List.append_cancel_left (start.symm.trans otherStart))

theorem networks_apart {network : String} (own : network ∈ (texts.resources base id kind).networks)
    (others : network ∈ (texts.resources base other otherKind).networks) : id = other := by
  cases kind with
  | postgres => cases own
  | supabase =>
    cases otherKind with
    | postgres => cases others
    | supabase =>
      have same := (List.mem_singleton.mp own).symm.trans (List.mem_singleton.mp others)
      exact texts.injective _ _ ((String.append_right_inj "app-salmon-net-").mp same)

theorem join_injective {first second : UnixPath.Path} (left : UnixPath.hasRoot first = false)
    (right : UnixPath.hasRoot second = false) (same : UnixPath.join base first = UnixPath.join base second) :
    first = second := by
  unfold UnixPath.join at same
  rw [left, right] at same
  by_cases open_ : base = [] ∨ base.getLast? = some '/'
  · simpa [open_] using same
  · simpa [open_] using same

theorem dirs_apart {dir : UnixPath.Path} (own : dir ∈ (texts.resources base id kind).dirs)
    (others : dir ∈ (texts.resources base other otherKind).dirs) : id = other := by
  cases kind with
  | postgres => cases own
  | supabase =>
    cases otherKind with
    | postgres => cases others
    | supabase =>
      have same := (List.mem_singleton.mp own).symm.trans (List.mem_singleton.mp others)
      have equal := join_injective (texts.relative id) (texts.relative other) same
      exact texts.injective _ _ (String.toList_inj.mp equal)

/-- The directory of one cluster is not above that of another one. -/
theorem dirs_beside {dir otherDir : UnixPath.Path} (own : dir ∈ (texts.resources base id kind).dirs)
    (others : otherDir ∈ (texts.resources base other otherKind).dirs) (above : dir <+: otherDir) : id = other := by
  -- both names have one length below one base, so neither stands above the other
  have sized : dir.length = otherDir.length := by
    cases kind with
    | postgres => cases own
    | supabase =>
      cases otherKind with
      | postgres => cases others
      | supabase =>
        rw [List.mem_singleton.mp own, List.mem_singleton.mp others]
        simp only [SupabaseBackend.configDir, UnixPath.join, texts.relative, Bool.false_eq_true, if_false]
        split <;> simp [texts.length]
  obtain rfl := above.eq_of_length sized
  exact dirs_apart own others

/-! ## A host without them -/

/-- The host with everything of these names gone. -/
def Host.without (host : Host) (names : ResourceNames) : Host :=
  { host with containers := host.containers.filter fun spec => spec.name ∉ names.containers
              networks := host.networks.filter fun network => network ∉ names.networks
              dirs := host.dirs.filter fun dir => dir ∉ names.dirs }

variable {names : ResourceNames} {host next before after : Host}

/-- Nothing of these names is there. -/
structure Host.Lacks (host : Host) (names : ResourceNames) : Prop where
  containers : ∀ spec ∈ host.containers, spec.name ∉ names.containers
  networks : ∀ network ∈ host.networks, network ∉ names.networks
  dirs : ∀ dir ∈ host.dirs, dir ∉ names.dirs

theorem Host.without_lacks (host : Host) (names : ResourceNames) : (host.without names).Lacks names where
  containers := fun _ member => of_decide_eq_true (List.mem_filter.mp member).2
  networks := fun _ member => of_decide_eq_true (List.mem_filter.mp member).2
  dirs := fun _ member => of_decide_eq_true (List.mem_filter.mp member).2

theorem Host.Lacks.without (lacks : host.Lacks names) : host.without names = host := by
  have containers := List.filter_eq_self.mpr fun spec member => decide_eq_true (lacks.containers spec member)
  have networks := List.filter_eq_self.mpr fun network member => decide_eq_true (lacks.networks network member)
  have dirs := List.filter_eq_self.mpr fun dir member => decide_eq_true (lacks.dirs dir member)
  simp only [Host.without, containers, networks, dirs]

/-! ## A spawn that is cut off -/

/-- What may happen to a call that may fail: it is carried out or not, and answered as it may be. -/
def Host.Undergoes (host : Host) (call : ExternalCall) (_reply : ExternalReply) (next : Host) : Prop :=
  next = host ∨ ∃ status, next = (host.carryOut status call).2

/-- A call of a spawn changes nothing but what goes by its names. -/
theorem without_undergoes {call : ExternalCall} {reply : ExternalReply} (spawns : call.SpawnsIn names)
    (undergoes : host.Undergoes call reply next) : next.without names = host.without names := by
  rcases undergoes with rfl | ⟨status, rfl⟩
  · rfl
  · cases call with
    | createContainer spec =>
      have own : spec.name ∈ names.containers := spawns
      simp only [Host.carryOut]
      split
      · rfl
      · simp [Host.without, own]
    | createNetwork network =>
      have own : network ∈ names.networks := spawns
      simp [Host.carryOut, Host.without, own]
    | createDirAll dir =>
      have own : dir ∈ names.dirs := spawns
      simp [Host.carryOut, Host.without, own]
    | startContainer | inspectContainer | write | sleep | connect | execute => rfl
    | removeContainer | removeNetwork | removeDirAll | prepare | wipeWorkerDir | deleteRow => exact spawns.elim

/-- Wherever it was cut off. -/
theorem without_of_reaches {α : Type} {client : External α} (sends : SpawnsOnlyIn names client)
    (cut : client.Reaches Host.Undergoes before after) : after.without names = before.without names := by
  -- the invariant: away from these names the host is as it was
  have preserved (host : Host) (call : ExternalCall) (reply : ExternalReply) (next : Host)
      (same : host.without names = before.without names) (spawns : call.SpawnsIn names)
      (undergoes : host.Undergoes call reply next) : next.without names = before.without names :=
    (without_undergoes spawns undergoes).trans same
  exact cut.invariant sends preserved rfl

/-! ## A teardown where every call succeeds -/

/-- Nothing at all. -/
def ResourceNames.none : ResourceNames := ⟨[], [], []⟩

@[simp] theorem Host.without_none (host : Host) : host.without .none = host :=
  Host.Lacks.without ⟨fun _ _ => List.not_mem_nil, fun _ _ => List.not_mem_nil, fun _ _ => List.not_mem_nil⟩

theorem Host.without_without (host : Host) (first second : ResourceNames) :
    (host.without first).without second = host.without
      ⟨first.containers ++ second.containers, first.networks ++ second.networks, first.dirs ++ second.dirs⟩ := by
  simp [Host.without, List.filter_filter, Bool.and_comm]

/-- What is not there is not found, which removes it as well. -/
theorem removeContainer_host (host : Host) (status : ContainerStatus) (name : String) :
    (host.carryOut status (.removeContainer name)).2 = host.without ⟨[name], [], []⟩ := by
  simp only [Host.carryOut]
  split
  · simp [Host.without]
  · next missing =>
    have lacks : host.Lacks ⟨[name], [], []⟩ := by
      refine ⟨fun spec member own => missing ⟨spec, member, List.mem_singleton.mp own⟩, ?_, ?_⟩ <;>
        exact fun _ _ => List.not_mem_nil
    exact lacks.without.symm

theorem removeNetwork_host (host : Host) (status : ContainerStatus) (network : String) :
    (host.carryOut status (.removeNetwork network)).2 = host.without ⟨[], [network], []⟩ := by
  simp only [Host.carryOut]
  split
  · simp [Host.without]
  · next missing =>
    have lacks : host.Lacks ⟨[], [network], []⟩ := by
      refine ⟨?_, fun other member own => missing (List.mem_singleton.mp own ▸ member), ?_⟩ <;>
        exact fun _ _ => List.not_mem_nil
    exact lacks.without.symm

theorem removeDirAll_host (host : Host) (status : ContainerStatus) (dir : UnixPath.Path) :
    (host.carryOut status (.removeDirAll dir)).2 = host.without ⟨[], [], [dir]⟩ := by
  simp only [Host.carryOut]
  split
  · simp [Host.without]
  · next missing =>
    have lacks : host.Lacks ⟨[], [], [dir]⟩ := by
      refine ⟨?_, ?_, fun other member own => missing (List.mem_singleton.mp own ▸ member)⟩ <;>
        exact fun _ _ => List.not_mem_nil
    exact lacks.without.symm

theorem stopAndRemove_execute (name : String) (host : Host) :
    (viaDocker (BollardContainerRuntime.stopAndRemove name)).execute Host.serve {} host =
      (.ok (), host.without ⟨[name], [], []⟩) := by
  rw [← removeContainer_host host (.running none none)]
  apply Prod.ext
  · by_cases present : host.Has name <;>
      simp [viaDocker, BollardContainerRuntime.stopAndRemove, Client.map, Client.bind, Client.send, Client.execute,
        Host.serve, Host.carryOut, present, Except.mapError]
  · rfl

theorem removeNetwork_execute (network : String) (host : Host) :
    (viaDocker (BollardContainerRuntime.removeNetwork network)).execute Host.serve {} host =
      (.ok (), host.without ⟨[], [network], []⟩) := by
  rw [← removeNetwork_host host (.running none none)]
  apply Prod.ext
  · by_cases present : network ∈ host.networks <;>
      simp [viaDocker, BollardContainerRuntime.removeNetwork, Client.map, Client.bind, Client.send, Client.execute,
        Host.serve, Host.carryOut, present, Except.mapError]
  · rfl

theorem removeAll_execute (containers : List String) (host : Host) :
    (SupabaseBackend.removeAll containers).execute Host.serve {} host = (.ok (), host.without ⟨containers, [], []⟩) := by
  induction containers generalizing host with
  | nil => exact Prod.ext rfl host.without_none.symm
  | cons name rest ih =>
    rw [SupabaseBackend.removeAll, Client.execute_andThen (stopAndRemove_execute name host), ih, Host.without_without]
    rfl

/-- A teardown removes what goes by the names of its cluster. -/
theorem teardown_execute (kind : ServiceKind) (params : SpawnParams) (host : Host) :
    (kind.teardown params).execute Host.serve {} host =
      (.ok (), host.without (kind.resources params.generatedConfigDirBase params.clusterId)) := by
  cases kind with
  | postgres => exact stopAndRemove_execute _ host
  | supabase =>
    rw [ServiceKind.teardown, SupabaseBackend.teardown, Client.execute_andThen (removeAll_execute _ host),
      Client.execute_andThen (removeNetwork_execute _ _)]
    change (Except.ok (), ((Host.without _ _).carryOut (.running none none) (.removeDirAll _)).2) = _
    rw [removeDirAll_host, Host.without_without, Host.without_without, List.append_nil, List.append_nil]
    rfl

/-! ## The order of the removals -/

/-- A network is removed when no container of these names is left. -/
def DetachedFirst (names : ResourceNames) (host : Host) (call : ExternalCall) : Prop :=
  ∀ network, call = .removeNetwork network → ∀ spec ∈ host.containers, spec.name ∉ names.containers

theorem removeAll_detachedFirst (names : ResourceNames) (containers : List String) :
    (SupabaseBackend.removeAll containers).Sends fun call => ∀ host, DetachedFirst names host call := by
  induction containers with
  | nil => trivial
  | cons name rest ih =>
    apply Client.Sends.andThen
    · exact viaDocker_sends ⟨fun _ _ same => (ExternalCall.noConfusion same), fun _ => trivial⟩
    · exact fun _ => ih

theorem teardown_detachedFirst (kind : ServiceKind) (params : SpawnParams) (host : Host) :
    (kind.teardown params).Throughout Host.serve {}
      (DetachedFirst (kind.resources params.generatedConfigDirBase params.clusterId)) host := by
  cases kind with
  | postgres => exact ⟨fun _ same => ExternalCall.noConfusion same, trivial⟩
  | supabase =>
    apply Client.Throughout.bind
    · exact (removeAll_detachedFirst _ _).throughout _ _ _
    -- the loop has removed every container by the time the network's turn comes
    rw [removeAll_execute]
    apply Client.Throughout.bind
    · exact ⟨fun _ _ => (Host.without_lacks _ _).containers, trivial⟩
    rw [removeNetwork_execute]
    exact ⟨fun _ same => ExternalCall.noConfusion same, trivial⟩

/-! ## A spawn and its teardown -/

/-- What a teardown after a spawn is to have done. -/
structure TearsDown (texts : IdTexts) (base : UnixPath.Path) (id : ClusterId) (kind : ServiceKind) (before after : Host)
    (torn : Except ClusterError Unit × Host) : Prop where
  succeeds : torn.1 = .ok ()
  /-- Nothing is left that goes by a name of the cluster. -/
  gone : torn.2.Lacks (texts.resources base id kind)
  /-- The spawn has left no trace. -/
  restored : torn.2 = before.without (texts.resources base id kind)
  containers : ∀ other ≠ id, ∀ otherKind : ServiceKind, ∀ spec ∈ after.containers,
    spec.name ∈ (texts.resources base other otherKind).containers → spec ∈ torn.2.containers
  networks : ∀ other ≠ id, ∀ otherKind : ServiceKind, ∀ network ∈ after.networks,
    network ∈ (texts.resources base other otherKind).networks → network ∈ torn.2.networks
  /-- Neither a directory of another cluster nor one that it is in. -/
  dirs : ∀ other ≠ id, ∀ otherKind : ServiceKind, ∀ dir ∈ after.dirs,
    dir ∈ (texts.resources base other otherKind).dirs →
      dir ∈ torn.2.dirs ∧ ∀ removed ∈ (texts.resources base id kind).dirs, ¬ removed <+: dir

/-- What a spawn and a teardown of one cluster are told. -/
def SpawnParams.named (params : SpawnParams) (texts : IdTexts) (id : ClusterId) : SpawnParams :=
  { params with clusterId := texts.text id }

/-- Wherever a spawn was cut off, its teardown takes away what it made and nothing of another cluster. -/
theorem tears_down (texts : IdTexts) (params : SpawnParams) (id : ClusterId) (kind : ServiceKind) {before after : Host}
    (cut : (kind.spawn (params.named texts id)).Reaches Host.Undergoes before after) :
    let teardown := kind.teardown (params.named texts id)
    let torn := teardown.execute Host.serve {} after
    TearsDown texts params.generatedConfigDirBase id kind before after torn ∧
      teardown.Throughout Host.serve {} (DetachedFirst (texts.resources params.generatedConfigDirBase id kind)) after ∧
      teardown.execute Host.serve {} torn.2 = (.ok (), torn.2) := by
  dsimp only
  have torn := teardown_execute kind (params.named texts id)
  rw [torn]
  have lacks := after.without_lacks (texts.resources params.generatedConfigDirBase id kind)
  refine ⟨?_, teardown_detachedFirst kind (params.named texts id) after, ?_⟩
  · constructor
    · rfl
    · exact lacks
    · exact without_of_reaches (kind.spawn_sends_in (params.named texts id)) cut
    · intro other different otherKind spec member theirs
      apply List.mem_filter.mpr
      exact ⟨member, decide_eq_true fun own => different (containers_apart own theirs).symm⟩
    · intro other different otherKind network member theirs
      apply List.mem_filter.mpr
      exact ⟨member, decide_eq_true fun own => different (networks_apart own theirs).symm⟩
    · intro other different otherKind dir member theirs
      constructor
      · apply List.mem_filter.mpr
        exact ⟨member, decide_eq_true fun own => different (dirs_apart own theirs).symm⟩
      · exact fun removed own above => different (dirs_beside own theirs above).symm
  -- a second teardown finds nothing of these names, and succeeds all the same
  · rw [torn]
    exact Prod.ext rfl lacks.without

/-! ## The texts of ULIDs -/

/-- Digits and capital letters without those that are easily confused. -/
def crockford : List Char := "0123456789ABCDEFGHJKMNPQRSTVWXYZ".toList

def crockfordDigit (digit : Nat) : Char := crockford.getD (digit % 32) '0'

def base32 : Nat → Nat → List Char
  | 0, _ => []
  | places + 1, value => base32 places (value / 32) ++ [crockfordDigit value]

theorem crockfordDigit_injective {first second : Nat} (same : crockfordDigit first = crockfordDigit second) :
    first % 32 = second % 32 := by
  -- thirty-two digits, all of them different
  have each : ∀ left right : Fin 32, crockford.getD left.val '0' = crockford.getD right.val '0' → left = right := by
    decide +kernel
  have equal := each ⟨first % 32, Nat.mod_lt _ (by decide)⟩ ⟨second % 32, Nat.mod_lt _ (by decide)⟩ same
  exact congrArg Fin.val equal

theorem crockfordDigit_alphanumeric (digit : Nat) : (crockfordDigit digit).isAlphanum = true := by
  have each : ∀ value : Fin 32, (crockford.getD value.val '0').isAlphanum = true := by decide +kernel
  exact each ⟨digit % 32, Nat.mod_lt _ (by decide)⟩

theorem length_base32 (places value : Nat) : (base32 places value).length = places := by
  induction places generalizing value with
  | zero => rfl
  | succ places ih => rw [base32, List.length_append, ih, List.length_singleton]

theorem base32_injective {places first second : Nat} (left : first < 32 ^ places) (right : second < 32 ^ places)
    (same : base32 places first = base32 places second) : first = second := by
  induction places generalizing first second with
  | zero => omega
  | succ places ih =>
    rw [base32, base32] at same
    -- the last digit is the remainder, the others are the text of the quotient
    have parts := List.append_inj' same rfl
    have last := crockfordDigit_injective (List.cons.inj parts.2).1
    have rest := ih (Nat.div_lt_of_lt_mul (by rwa [Nat.pow_succ, Nat.mul_comm] at left))
      (Nat.div_lt_of_lt_mul (by rwa [Nat.pow_succ, Nat.mul_comm] at right)) parts.1
    omega

theorem base32_alphanumeric {places value : Nat} {char : Char} (member : char ∈ base32 places value) :
    char.isAlphanum = true := by
  induction places generalizing value with
  | zero => cases member
  | succ places ih =>
    rw [base32, List.mem_append, List.mem_singleton] at member
    rcases member with earlier | rfl
    · exact ih earlier
    · exact crockfordDigit_alphanumeric value

/-- The texts that the program's identifiers have. -/
def ulidTexts : IdTexts where
  text := fun id => String.ofList (base32 26 id.ulid.toNat)
  width := 26
  length := fun id => by rw [String.toList_ofList, length_base32]
  alphanumeric := fun id char member => by
    rw [String.toList_ofList] at member
    exact base32_alphanumeric member
  injective := fun first second same => by
    have digits : base32 26 first.ulid.toNat = base32 26 second.ulid.toNat := by
      have lists := congrArg String.toList same
      rwa [String.toList_ofList, String.toList_ofList] at lists
    have small (id : ClusterId) : id.ulid.toNat < 32 ^ 26 := id.ulid.isLt.trans (by decide)
    have equal := base32_injective (small first) (small second) digits
    cases first
    cases second
    exact congrArg ClusterId.mk (BitVec.eq_of_toNat_eq equal)

example : ulidTexts.text ⟨1⟩ = "00000000000000000000000001" := by decide +kernel

/-- A database that was created and not yet started, on a host with a container of another cluster. -/
def halfMade : Host where
  containers :=
    [⟨"app-salmon-00000000000000000000000001-db", some "app-salmon-net-00000000000000000000000001", true⟩,
      ⟨"app-salmon-00000000000000000000000002", none, true⟩]
  networks := ["app-salmon-net-00000000000000000000000001"]
  dirs := ["/generated/00000000000000000000000001".toList]
  rows := []

def neighbour : Host := ⟨[⟨"app-salmon-00000000000000000000000002", none, true⟩], [], [], []⟩

theorem half_made_torn_down : ∃ torn : Except ClusterError Unit × Host,
    TearsDown ulidTexts "/generated".toList ⟨1⟩ .supabase neighbour halfMade torn ∧ torn.2 = neighbour := by
  have cut : (ServiceKind.supabase.spawn (smallParams.named ulidTexts ⟨1⟩)).Reaches Host.Undergoes neighbour halfMade := by
    have done (host : Host) (call : ExternalCall) : host.Undergoes call .done (host.carryOut (.running none none) call).2 :=
      .inr ⟨_, rfl⟩
    -- the network, the directory and its three files, and the first container
    exact .call (done _ _) (.call (done _ _) (.call (done _ _) (.call (done _ _) (.call (done _ _) (.call (done _ _) .cut)))))
  have whole := tears_down ulidTexts smallParams ⟨1⟩ .supabase cut
  exact ⟨_, whole.1, by decide +kernel⟩

end AppSalmon
