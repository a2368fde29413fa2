import PodmanSwarm.GoMap

/-!
# The records of `internal/types`

The data the agent moves between its components: pods, the three manifest
kinds, cluster nodes. Each record keeps the fields that a modelled function
reads or writes; the others (a pod's image, ports, environment and volumes,
which only the container runtime reads; a service's type and cluster IP; the
label maps that nothing consults) are left out.

Three modelling decisions are made here once.

* **Pointers.** Go code passes `*types.Pod` around and mutates pods through
  any of the pointers it holds. The agent's pods therefore live on a heap
  (`PodmanSwarm.Scheduler.heap`), and a deployment's `Pods`
  field is a list of heap references. The store's and the snapshot's maps hold
  `*Deployment`, `*Service`, … pointers that can be nil once they come out of
  JSON; there they are `Option` values.
* **Panics.** A nil dereference or a failed type assertion kills the agent;
  code that can do either returns `Except Panic _`.
* **Time.** A `time.Time` is an integer count of nanoseconds; `CreatedAt`
  fields are Unix seconds, as the source computes them.
-/

namespace PodmanSwarm

/-- A `time.Time`, in nanoseconds. -/
abbrev Time := Int

/-- One second, as a `time.Duration`. -/
def second : Time := 1000000000

/-- A Go runtime panic. Nothing in the agent recovers from one, so a panic in
any goroutine ends the process. -/
inductive Panic
  /-- `invalid memory address or nil pointer dereference`. -/
  | nilDereference
  /-- `interface conversion`: a type assertion `x.(T)` on a value of another
  type. -/
  | interfaceConversion
  deriving DecidableEq, Repr

/-- `types.PodState`. -/
inductive PodState
  | pending
  | running
  | succeeded
  | failed
  | unknown
  deriving DecidableEq, Repr, Inhabited

/-- `types.Pod`. -/
structure Pod where
  /-- `ID`: the generated scheduling id, rewritten to the container id once the
  runtime has created the container. -/
  id : String
  name : String
  /-- `Namespace`. -/
  ns : String
  nodeName : String
  state : PodState
  labels : GoMap String
  nodeSelector : GoMap String
  /-- `CreatedAt`, Unix seconds. -/
  createdAt : Int
  deriving DecidableEq, Inhabited

/-- The part of a `corev1.PodTemplateSpec` that `ExtractPodFromTemplate` copies
into a pod and the agent later reads. -/
structure PodTemplate where
  labels : GoMap String
  nodeSelector : GoMap String
  deriving DecidableEq

/-- `types.Deployment`. -/
structure Deployment where
  name : String
  /-- `Namespace`. -/
  ns : String
  replicas : Int
  desiredReplicas : Int
  /-- `Pods []*Pod`, as references into the pod heap. -/
  pods : List Nat
  template : PodTemplate
  deriving DecidableEq

/-- `types.Service`; `ports` lists the `Port` of each `ServicePort`. -/
structure Service where
  name : String
  /-- `Namespace`. -/
  ns : String
  selector : GoMap String
  ports : List Int
  deriving DecidableEq

/-- `networkingv1.PathType`, a string type: the three values the API names,
or any other string a manifest gives. -/
inductive PathType
  | exact
  /-- `Prefix`. -/
  | prefixed
  | implementationSpecific
  | other (s : String)
  deriving DecidableEq, Repr

/-- `types.IngressPath`. -/
structure IngressPath where
  path : String
  /-- `*networkingv1.PathType`; nil when the manifest leaves it out. -/
  pathType : Option PathType
  serviceName : String
  servicePort : Int
  deriving DecidableEq

/-- `types.IngressRule`. -/
structure IngressRule where
  host : String
  paths : List IngressPath
  deriving DecidableEq

/-- `types.Ingress`. -/
structure Ingress where
  name : String
  /-- `Namespace`. -/
  ns : String
  rules : List IngressRule
  deriving DecidableEq

/-- `types.Node`, a member of the roster. -/
structure Node where
  name : String
  address : String
  status : String
  labels : GoMap String
  deriving DecidableEq, Inhabited

/-- The table key `fmt.Sprintf("%s/%s", namespace, name)` under which the API,
the store and the ingress controller file every record. -/
def objectKey (ns name : String) : String := ns ++ "/" ++ name

end PodmanSwarm
