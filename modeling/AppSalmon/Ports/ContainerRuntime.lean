import AppSalmon.Adapters.DockerBollard
import AppSalmon.Domain.Time

/-! The container runtime's port, with everything that a container is made from. -/

set_option autoImplicit false

namespace AppSalmon.ContainerRuntime

structure HealthCheck where
  test : List String
  interval : Duration
  timeout : Duration
  retries : UInt32
  deriving DecidableEq

structure BindMount where
  hostPath : String
  containerPath : String
  deriving DecidableEq

inductive OciRuntime where
  | runc | kata
  deriving DecidableEq

structure NetworkAttachment where
  networkName : String
  alias_ : String
  deriving DecidableEq

inductive PortPublish where
  | unpublished | ephemeral
  deriving DecidableEq

structure ContainerSpec where
  name : String
  image : String
  env : List (String × String)
  labels : List (String × String)
  portPublish : PortPublish
  containerPort : UInt16
  bindMounts : List BindMount
  runAs : Option (UInt32 × UInt32)
  healthCheck : Option HealthCheck
  runtime : OciRuntime
  network : Option NetworkAttachment
  command : Option (List String)
  deriving DecidableEq

/-- What the order of a spawn depends on. -/
def ContainerSpec.outline (spec : ContainerSpec) : AppSalmon.ContainerSpec where
  name := spec.name
  network := spec.network.map NetworkAttachment.networkName
  healthCheck := spec.healthCheck.isSome

end AppSalmon.ContainerRuntime
