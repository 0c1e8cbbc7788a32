import AppSalmon.Auth
import AppSalmon.Http.ClusterInfo

/-! What an error of a handler is answered with.

The states and events in the text of a refused transition are shown as the
compiler derives it, which is a parameter here.
-/

set_option autoImplicit false

namespace AppSalmon

def AuthError.message : AuthError → String
  | .missingCredentials => "missing Authorization header"
  | .malformedHeader => "malformed Authorization header"
  | .unknownClient => "unknown client"
  | .invalidSecret => "credential mismatch"

namespace Http

/-- What is answered with a 500. -/
inductive InternalError where
  | repository (source : RepositoryError)
  | clientWorker (source : ClientWorkerError)
  | docker (source : DockerError)
  | backend (message : String)
  deriving DecidableEq

/-- For the log. -/
def InternalError.category : InternalError → String
  | .repository _ => "repository"
  | .clientWorker _ => "client_worker"
  | .docker _ => "docker"
  | .backend _ => "backend"

inductive ApiError where
  | auth (source : AuthError)
  | badRequest (message : String)
  | notFound
  | quotaExceeded
  | unavailable (message : String)
  | internal (source : InternalError)
  deriving DecidableEq

/-- The derived `Debug` of what a transition is refused between. -/
structure DebugTexts where
  state : ClusterState → String
  event : ClusterEvent → String

/-- The text of an error of the domain is made for a 400 only. -/
def ApiError.ofClusterError (texts : DebugTexts) : ClusterError → ApiError
  | .ttlOutOfBounds requestedSecs minSecs maxSecs => .badRequest
      ("requested TTL " ++ toString requestedSecs ++ "s outside [" ++ toString minSecs ++ ", " ++ toString maxSecs ++ "]")
  | .invalidTransition from_ event => .badRequest
      ("state " ++ texts.state from_ ++ " cannot handle event " ++ texts.event event)
  | .quotaExceeded .. => .quotaExceeded
  | .notFound _ => .notFound
  | .clientWorker source => .internal (.clientWorker source)
  | .docker (.connect ..) => .unavailable "docker daemon unreachable"
  | .docker source => .internal (.docker source)
  | .repository source => .internal (.repository source)
  | .backendSpawnFailed message => .internal (.backend message)

structure ErrorBody where
  error : String
  message : String
  deriving DecidableEq

structure Response where
  status : Nat
  body : ErrorBody
  /-- The category that is logged. -/
  logged : Option String
  deriving DecidableEq

def ApiError.intoResponse : ApiError → Response
  | .auth source => ⟨401, ⟨"unauthorized", source.message⟩, none⟩
  | .badRequest message => ⟨400, ⟨"bad_request", "bad request: " ++ message⟩, none⟩
  | .notFound => ⟨404, ⟨"not_found", "cluster may never have existed or may have been deleted"⟩, none⟩
  | .quotaExceeded => ⟨429, ⟨"quota_exceeded", "quota exceeded"⟩, none⟩
  | .unavailable message => ⟨503, ⟨"unavailable", "temporarily unavailable: " ++ message⟩, none⟩
  | .internal source => ⟨500, ⟨"internal_error", "internal error"⟩, some source.category⟩

/-- The status is that of the error of the domain. -/
theorem intoResponse_status (texts : DebugTexts) (error : ClusterError) :
    (ApiError.ofClusterError texts error).intoResponse.status = errorStatus error := by
  cases error with
  | docker source => cases source <;> rfl
  | ttlOutOfBounds | quotaExceeded | notFound | invalidTransition | clientWorker | repository | backendSpawnFailed => rfl

end Http

end AppSalmon
