import AppSalmon.Adapters.EngineApi
import AppSalmon.Backends

/-! The containers of both kinds of cluster, with everything they are made from.

The outline of each of them is what the backends' course depends on.
-/

set_option autoImplicit false

namespace AppSalmon.Wire

open ContainerRuntime

/-- The images that a Supabase cluster runs. -/
structure SupabaseImages where
  postgresImage : String
  postgrestImage : String
  gotrueImage : String
  kongImage : String
  edgeRuntimeImage : String

/-- All that a spawn is told, and what its backend and its runtime were built from. -/
structure Provision extends SpawnParams where
  worker : WorkerUser
  slot : UInt32
  workerDataDirBase : UnixPath.Path
  postgresImage : String
  supabaseImages : SupabaseImages
  kataRuntimeName : String

def clusterIdLabel : String := "app_salmon.cluster_id"

def labels (clusterId : String) : List (String × String) := [(clusterIdLabel, clusterId)]

/-- `Path::display` -/
def display (path : UnixPath.Path) : String := String.ofList path

/-! ## Postgres -/

namespace PostgresBackend

def containerPort : UInt16 := 5432

def healthcheckInterval : Duration := .fromSecs 1

def healthcheckProbeTimeout : Duration := .fromSecs 2

def healthcheckRetries : UInt32 := 3

def containerSpec (provision : Provision) : ContainerRuntime.ContainerSpec where
  name := PostgresBackend.containerName provision.clusterId
  image := provision.postgresImage
  env := [("POSTGRES_USER", PostgresBackend.dbUser), ("POSTGRES_DB", PostgresBackend.dbName),
    ("POSTGRES_PASSWORD", provision.password)]
  labels := labels provision.clusterId
  portPublish := .ephemeral
  containerPort := containerPort
  bindMounts := [⟨display (workerDataDir provision.workerDataDirBase provision.worker provision.slot),
    "/var/lib/postgresql/data"⟩]
  runAs := some (provision.worker.uid, provision.worker.gid)
  healthCheck := some {
    test := ["CMD-SHELL", "pg_isready -U " ++ PostgresBackend.dbUser ++ " -d " ++ PostgresBackend.dbName]
    interval := healthcheckInterval
    timeout := healthcheckProbeTimeout
    retries := healthcheckRetries }
  runtime := .runc
  network := none
  command := none

/-- What the one connection of the backend's own is opened with. -/
def connectConfig (hostPort : UInt16) (password : String) : String :=
  "host=127.0.0.1 port=" ++ toString hostPort.toNat ++ " user=" ++ PostgresBackend.dbUser ++ " password=" ++ password ++
    " dbname=" ++ PostgresBackend.dbName ++ " connect_timeout=2"

end PostgresBackend

/-! ## Supabase -/

namespace SupabaseBackend

def dbPort : UInt16 := 5432

def restPort : UInt16 := 3000

def authPort : UInt16 := 9999

def kongPort : UInt16 := 8000

def functionsPort : UInt16 := 9000

def postgrestDbRole : String := "authenticator"

def gotrueDbRole : String := "supabase_auth_admin"

def dbJwtExpSecs : String := "3600"

def projectSubdir : String := "project"

def functionsContainerPath : String := "/home/deno/functions"

def functionsMainServicePath : String := "/home/deno/functions/main"

def rolesSql : String :=
  "-- NOTE: change to your own passwords for production environments\n\\set pgpass `echo \"$POSTGRES_PASSWORD\"`\n\n" ++
    "ALTER USER authenticator WITH PASSWORD :'pgpass';\nALTER USER supabase_auth_admin WITH PASSWORD :'pgpass';\n"

def jwtSql : String :=
  "\\set jwt_secret `echo \"$JWT_SECRET\"`\n\\set jwt_exp `echo \"$JWT_EXP\"`\n\n" ++
    "ALTER DATABASE postgres SET \"app.settings.jwt_secret\" TO :'jwt_secret';\n" ++
    "ALTER DATABASE postgres SET \"app.settings.jwt_exp\" TO :'jwt_exp';\n"

/-- One service of the declarative configuration, with its only route. -/
def kongService (name alias_ : String) (port : UInt16) (path : String) : String :=
  "  - name: " ++ name ++ "\n    url: http://" ++ alias_ ++ ":" ++ toString port.toNat ++ "\n    routes:\n      - name: " ++
    name ++ "-route\n        paths:\n          - " ++ path ++ "\n"

def kongDeclarativeConfig (restAlias authAlias functionsAlias : String) : String :=
  "_format_version: \"3.0\"\nservices:\n" ++ kongService "rest" restAlias restPort "/rest/v1" ++
    kongService "auth" authAlias authPort "/auth/v1" ++ kongService "functions" functionsAlias functionsPort "/functions/v1"

/-- A database's URL on the network of the cluster. -/
def dbUrl (scheme role password : String) : String :=
  scheme ++ "://" ++ role ++ ":" ++ password ++ "@db:" ++ toString dbPort.toNat ++ "/" ++ SupabaseBackend.dbName

/-- Once a second, at most two seconds each time. -/
def healthCheck (test : List String) (retries : UInt32) : HealthCheck := ⟨test, .fromSecs 1, .fromSecs 2, retries⟩

variable (provision : Provision) (anonKey serviceRoleKey : String)

def attach (alias_ : String) : Option NetworkAttachment :=
  some ⟨SupabaseBackend.networkName provision.clusterId, alias_⟩

def dbSpec (rolesSqlPath jwtSqlPath : String) : ContainerRuntime.ContainerSpec where
  name := SupabaseBackend.containerName provision.clusterId "db"
  image := provision.supabaseImages.postgresImage
  env := [("POSTGRES_DB", SupabaseBackend.dbName), ("POSTGRES_PASSWORD", provision.password),
    ("JWT_SECRET", provision.jwtSecret), ("JWT_EXP", dbJwtExpSecs)]
  labels := labels provision.clusterId
  portPublish := .ephemeral
  containerPort := dbPort
  bindMounts := [⟨rolesSqlPath, "/docker-entrypoint-initdb.d/init-scripts/99-roles.sql"⟩,
    ⟨jwtSqlPath, "/docker-entrypoint-initdb.d/init-scripts/99-jwt.sql"⟩]
  -- what the database stores stays in the container, whose own user the image expects
  runAs := none
  healthCheck := some (healthCheck ["CMD", "pg_isready", "-U", SupabaseBackend.dbUser, "-h", "localhost"] 10)
  runtime := .runc
  network := attach provision "db"
  command := none

def restSpec : ContainerRuntime.ContainerSpec where
  name := SupabaseBackend.containerName provision.clusterId "rest"
  image := provision.supabaseImages.postgrestImage
  env := [("PGRST_DB_URI", dbUrl "postgres" postgrestDbRole provision.password),
    ("PGRST_DB_SCHEMAS", "public,graphql_public"), ("PGRST_DB_ANON_ROLE", "anon"),
    ("PGRST_JWT_SECRET", provision.jwtSecret), ("PGRST_ADMIN_SERVER_PORT", "3001"),
    ("PGRST_ADMIN_SERVER_HOST", "localhost")]
  labels := labels provision.clusterId
  portPublish := .unpublished
  containerPort := restPort
  bindMounts := []
  runAs := none
  healthCheck := some (healthCheck ["CMD", "postgrest", "--ready"] 5)
  runtime := .runc
  network := attach provision "rest"
  command := none

def authSpec : ContainerRuntime.ContainerSpec where
  name := SupabaseBackend.containerName provision.clusterId "auth"
  image := provision.supabaseImages.gotrueImage
  env := [("GOTRUE_API_HOST", "0.0.0.0"), ("GOTRUE_API_PORT", toString authPort.toNat),
    ("API_EXTERNAL_URL", "http://kong:8000/auth/v1"), ("GOTRUE_DB_DRIVER", "postgres"),
    ("GOTRUE_DB_DATABASE_URL", dbUrl "postgres" gotrueDbRole provision.password),
    ("GOTRUE_SITE_URL", "http://localhost:3000"), ("GOTRUE_DISABLE_SIGNUP", "false"),
    ("GOTRUE_JWT_ADMIN_ROLES", "service_role"), ("GOTRUE_JWT_AUD", "authenticated"),
    ("GOTRUE_JWT_DEFAULT_GROUP_NAME", "authenticated"), ("GOTRUE_JWT_EXP", dbJwtExpSecs),
    ("GOTRUE_JWT_SECRET", provision.jwtSecret)]
  labels := labels provision.clusterId
  portPublish := .unpublished
  containerPort := authPort
  bindMounts := []
  runAs := none
  healthCheck := some (healthCheck
    ["CMD", "wget", "--no-verbose", "--tries=1", "--spider", "http://localhost:9999/health"] 5)
  runtime := .runc
  network := attach provision "auth"
  command := none

def kongSpec (kongConfigPath : String) : ContainerRuntime.ContainerSpec where
  name := SupabaseBackend.containerName provision.clusterId "kong"
  image := provision.supabaseImages.kongImage
  env := [("KONG_DATABASE", "off"), ("KONG_DECLARATIVE_CONFIG", "/usr/local/kong/kong.yml"), ("SUPABASE_ANON_KEY", anonKey),
    ("SUPABASE_SERVICE_KEY", serviceRoleKey)]
  labels := labels provision.clusterId
  portPublish := .ephemeral
  containerPort := kongPort
  bindMounts := [⟨kongConfigPath, "/usr/local/kong/kong.yml"⟩]
  runAs := none
  healthCheck := some (healthCheck ["CMD", "kong", "health"] 5)
  runtime := .runc
  network := attach provision "kong"
  command := none

def functionsSpec (functionsHostPath : String) : ContainerRuntime.ContainerSpec where
  name := SupabaseBackend.containerName provision.clusterId "functions"
  image := provision.supabaseImages.edgeRuntimeImage
  env := [("JWT_SECRET", provision.jwtSecret), ("SUPABASE_URL", "http://kong:8000"), ("SUPABASE_ANON_KEY", anonKey),
    ("SUPABASE_SERVICE_ROLE_KEY", serviceRoleKey),
    ("SUPABASE_DB_URL", dbUrl "postgresql" SupabaseBackend.dbUser provision.password), ("VERIFY_JWT", "false")]
  labels := labels provision.clusterId
  portPublish := .unpublished
  containerPort := functionsPort
  bindMounts := [⟨functionsHostPath, functionsContainerPath⟩]
  -- its mount is the caller's upload, which belongs to the worker
  runAs := some (provision.worker.uid, provision.worker.gid)
  healthCheck := none
  runtime := .kata
  network := attach provision "functions"
  command := some ["start", "--main-service", functionsMainServicePath]

def buildSpecs (kongConfigPath rolesSqlPath jwtSqlPath functionsHostPath : String) : List ContainerRuntime.ContainerSpec :=
  [dbSpec provision rolesSqlPath jwtSqlPath, restSpec provision, authSpec provision,
    kongSpec provision anonKey serviceRoleKey kongConfigPath,
    functionsSpec provision anonKey serviceRoleKey functionsHostPath]

def generatedConfigDir : UnixPath.Path := SupabaseBackend.configDir provision.generatedConfigDirBase provision.clusterId

/-- A file of the generated configuration. -/
def configPath (file : String) : UnixPath.Path := UnixPath.join (generatedConfigDir provision) file.toList

def functionsHostPath : UnixPath.Path :=
  UnixPath.join (UnixPath.join (workerDataDir provision.workerDataDirBase provision.worker provision.slot)
    projectSubdir.toList) "functions".toList

/-- The specifications of a spawn, with the paths that it computes. -/
def specs : List ContainerRuntime.ContainerSpec :=
  buildSpecs provision anonKey serviceRoleKey (display (configPath provision "kong.yml"))
    (display (configPath provision "roles.sql")) (display (configPath provision "jwt.sql"))
    (display (functionsHostPath provision))

theorem outline_specs :
    (specs provision anonKey serviceRoleKey).map ContainerRuntime.ContainerSpec.outline =
      AppSalmon.SupabaseBackend.buildSpecs provision.clusterId := rfl

end SupabaseBackend

end AppSalmon.Wire
