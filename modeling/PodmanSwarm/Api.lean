import PodmanSwarm.Discovery
import PodmanSwarm.Storage

/-!
# The workload API (`internal/api`)

`api.API` keeps three tables of its own – deployments, services and ingresses,
keyed `namespace/name` – and drives the scheduler, the runtime, the registry
and the ingress controller. This module models the handlers that change them:
`ApplyManifest` with `applyDeployment`, `applyService` and `applyIngress`,
`DeleteManifest`, and `RecoverDeployments`, which rebuilds the tables from the
store when the agent starts.

What the handlers cannot know in advance is an argument: the pod IDs that
`generateID` draws, the clock, the node `SchedulePod` draws, and what the
container runtime answers (`PodmanSwarm.ReplicaEnv`). A theorem for every
argument is a theorem for every run of the runtime.

Three points of the source shape everything after:

* a deployment is filed in `a.deployments` *before* its replicas are created,
  and a failing replica returns at once: the record keeps the pods created so
  far, and the scheduler keeps the failing pod;
* a pod created on this node has its `ID` rewritten to the container ID after
  `SchedulePod` filed it under the generated ID;
* none of the handlers but `RecoverDeployments` touches the store.

`RegisterService` panics after filing its endpoint and `DeregisterService`
before deleting one (`PodmanSwarm.Registry.registerService_eq`). So
`applyService` files the service, registers the first matching pod the
scheduler lists and panics; `DeleteManifest` of a service with a registered
endpoint panics before it forgets the service. `gin.Recovery` turns a panic
in a handler into a reply 500; what the handler changed before the panic
stays changed. A panic in `RecoverDeployments`, which runs in its own
goroutine, ends the agent.
-/

namespace PodmanSwarm

/-- What the environment decides for one replica. -/
structure ReplicaEnv where
  /-- `generateID()`. -/
  podID : String
  /-- `time.Now().Unix()`. -/
  createdAt : Int
  /-- The value `rand.Intn(len(nodes))` draws in `SchedulePod`. -/
  pick : Nat
  /-- `CreatePod`: the container ID, or the error. -/
  create : Except String String
  /-- `StartPod`. -/
  start : Except String Unit
  /-- The state `GetPodStatus` returns; its error is ignored by the caller. -/
  status : PodState

/-- `ingress.IngressController`, reduced to its rule table. -/
structure IngressController where
  rules : GoMap Ingress

namespace IngressController

/-- `AddIngress`. -/
def addIngress (ing : Ingress) (ic : IngressController) : IngressController :=
  ⟨ic.rules.insert (objectKey ing.ns ing.name) ing⟩

/-- `RemoveIngress`. -/
def removeIngress (ns name : String) (ic : IngressController) : IngressController :=
  ⟨ic.rules.erase (objectKey ns name)⟩

end IngressController

/-- The agent behind `api.API`: its three tables and the components it
drives. -/
structure Agent where
  cluster : Cluster
  scheduler : Scheduler
  registry : Registry
  storage : Storage
  /-- `API.ingress`, nil when the ingress controller is disabled. -/
  ingress : Option IngressController
  deployments : GoMap Deployment
  services : GoMap Service
  ingresses : GoMap Ingress

/-- How a handler's step ends: normally, with an error it returns, or with a
panic. -/
inductive Outcome
  | ok
  | error (msg : String)
  | panic (p : Panic)
  deriving DecidableEq

/-- The status code and message of a handler's reply; `gin.Recovery` answers
a panic with a bare 500. -/
def Outcome.reply (success : String) : Outcome → Nat × String
  | .ok => (200, success)
  | .error msg => (500, msg)
  | .panic _ => (500, "")

/-- A manifest object, as `ParseManifest` decodes it. -/
inductive Manifest
  | deployment (d : Deployment)
  | service (s : Service)
  | ingress (i : Ingress)
  /-- Any other kind, which `ApplyManifest` skips. -/
  | other

/-- `ExtractPodFromTemplate(template, namespace, podName)`. -/
def extractPodFromTemplate (t : PodTemplate) (ns podName : String) : Pod where
  id := ""
  name := podName
  ns := ns
  nodeName := ""
  state := .pending
  labels := t.labels
  nodeSelector := t.nodeSelector
  createdAt := 0

namespace Agent

/-- The agent as `main` builds it: the store loaded from `state.json`, the
ingress controller if it is enabled, and everything else empty. A restart is
`start` again on the same file. -/
def start (c : Cluster) (file : StateFile) (ingressEnabled : Bool) : Agent :=
  ⟨c, ⟨[], ∅⟩, ∅, Storage.newStorage file, if ingressEnabled then some ⟨∅⟩ else none, ∅, ∅, ∅⟩

/-- One pass of the replica loop shared by `applyDeployment` and
`RecoverDeployments`: make pod `i`, file it with the scheduler, and create and
start its container if it was placed on this node. It gives the pod's pointer,
or the error at which the pass stopped. -/
def createReplica (c : Cluster) (dep : Deployment) (i : Nat) (e : ReplicaEnv) (s : Scheduler) :
    Scheduler × Except String Nat :=
  let pod := { extractPodFromTemplate dep.template dep.ns (dep.name ++ "-" ++ toString i) with
    id := e.podID, createdAt := e.createdAt }
  let (r, s) := s.alloc pod
  match s.schedulePod c e.pick r with
  | .error err => (s, .error ("failed to schedule pod: " ++ err))
  | .ok (nodeName, s) =>
    if nodeName = c.localName then
      match e.create with
      | .error err => (s, .error ("failed to create pod: " ++ err))
      | .ok containerID =>
        let s := s.write r fun p => { p with id := containerID }
        match e.start with
        | .error err => (s, .error ("failed to start pod: " ++ err))
        | .ok () =>
          match s.updatePodState containerID e.status with
          | .ok s' => (s', .ok r)
          | .error _ => (s, .ok r)
    else (s, .ok r)

/-- The replica loop of `applyDeployment`: `n` more replicas from index `i`,
appending each pod to `pods`, and returning at the first error. -/
def createReplicas (c : Cluster) (dep : Deployment) (env : Nat → ReplicaEnv) :
    Nat → Nat → Scheduler → List Nat → Scheduler × List Nat × Except String Unit
  | 0, _, s, pods => (s, pods, .ok ())
  | n + 1, i, s, pods =>
    match createReplica c dep i (env i) s with
    | (s', .ok r) => createReplicas c dep env n (i + 1) s' (pods ++ [r])
    | (s', .error err) => (s', pods, .error err)

/-- `applyDeployment`. The record is filed first and its `Pods` grow with
each replica; an error leaves both as far as they got. -/
def applyDeployment (env : Nat → ReplicaEnv) (dep : Deployment) (a : Agent) : Agent × Outcome :=
  let (s, pods, res) :=
    createReplicas a.cluster dep env dep.desiredReplicas.toNat 0 a.scheduler dep.pods
  ({ a with
      scheduler := s
      deployments := a.deployments.insert (objectKey dep.ns dep.name) { dep with pods := pods } },
    match res with
    | .ok () => .ok
    | .error err => .error err)

/-- The loop over `GetAllPods()` that calls `RegisterService` for every pod
whose labels match the selector; a panic ends it. -/
def registerMatching (c : Cluster) (now : Time) (svc : Service) :
    List Pod → Registry → Registry × Except Panic Unit
  | [], reg => (reg, .ok ())
  | p :: ps, reg =>
    if matchesSelector p.labels svc.selector then
      match Registry.registerService c now svc p reg with
      | (reg, .ok ()) => registerMatching c now svc ps reg
      | r => r
    else registerMatching c now svc ps reg

/-- `applyService`: the service is filed, then registered for the matching
pods. -/
def applyService (now : Time) (svc : Service) (a : Agent) : Agent × Outcome :=
  let a := { a with services := a.services.insert (objectKey svc.ns svc.name) svc }
  match registerMatching a.cluster now svc a.scheduler.getAllPods a.registry with
  | (reg, .ok ()) => ({ a with registry := reg }, .ok)
  | (reg, .error p) => ({ a with registry := reg }, .panic p)

/-- `applyIngress`; with the controller disabled, `a.ingress.AddIngress`
dereferences a nil pointer after the table was updated. -/
def applyIngress (ing : Ingress) (a : Agent) : Agent × Outcome :=
  let a := { a with ingresses := a.ingresses.insert (objectKey ing.ns ing.name) ing }
  match a.ingress with
  | some ic => ({ a with ingress := some (ic.addIngress ing) }, .ok)
  | none => (a, .panic .nilDereference)

/-! ### `ApplyManifest` and `DeleteManifest` -/

/-- What the environment decides while `ApplyManifest` runs: for the `j`-th
object of the manifest, the draws of its replicas and the clock. -/
structure RequestEnv where
  replica : Nat → Nat → ReplicaEnv
  now : Nat → Time

/-- One pass of `ApplyManifest`'s loop, on the `j`-th object. -/
def applyObject (env : RequestEnv) (j : Nat) : Manifest → Agent → Agent × Outcome
  | .deployment d, a =>
    match applyDeployment (env.replica j) d a with
    | (a', .error err) => (a', .error ("Failed to apply deployment: " ++ err))
    | r => r
  | .service svc, a => applyService (env.now j) svc a
  | .ingress ing, a => applyIngress ing a
  | .other, a => (a, .ok)

/-- The loop of `ApplyManifest` from the `j`-th object on; it stops at the
first object that fails. -/
def applyObjects (env : RequestEnv) : Nat → List Manifest → Agent → Agent × Outcome
  | _, [], a => (a, .ok)
  | j, o :: os, a =>
    match applyObject env j o a with
    | (a', .ok) => applyObjects env (j + 1) os a'
    | r => r

/-- `ApplyManifest`, on the objects `ParseManifest` decoded. -/
def applyManifest (env : RequestEnv) (objs : List Manifest) (a : Agent) : Agent × (Nat × String) :=
  let (a, o) := applyObjects env 0 objs a
  (a, o.reply "Manifest applied successfully")

/-- The loop over `GetAllPods()` that calls `DeregisterService` for every pod
whose labels match the selector; a panic ends it. -/
def deregisterMatching (svc : Service) : List Pod → Registry → Registry × Except Panic Unit
  | [], reg => (reg, .ok ())
  | p :: ps, reg =>
    if matchesSelector p.labels svc.selector then
      match Registry.deregisterService svc p reg with
      | (reg, .ok ()) => deregisterMatching svc ps reg
      | r => r
    else deregisterMatching svc ps reg

/-- The deployment branch of `DeleteManifest`: every pod of the record is
removed from the scheduler under its current ID. Stopping and removing the
containers of local pods only logs its errors. -/
def deleteDeploymentOf (key : String) (a : Agent) : Agent :=
  match a.deployments.lookup key with
  | some dep => { a with
      scheduler := dep.pods.foldl (fun s r => s.removePod (s.deref r).id) a.scheduler
      deployments := a.deployments.erase key }
  | none => a

/-- The service branch of `DeleteManifest`: the matching pods' endpoints are
deregistered, then the service is forgotten. -/
def deleteServiceOf (key : String) (a : Agent) : Agent × Outcome :=
  match a.services.lookup key with
  | some svc =>
    match deregisterMatching svc a.scheduler.getAllPods a.registry with
    | (reg, .ok ()) => ({ a with registry := reg, services := a.services.erase key }, .ok)
    | (reg, .error p) => ({ a with registry := reg }, .panic p)
  | none => (a, .ok)

/-- The ingress branch of `DeleteManifest`; with the controller disabled,
`a.ingress.RemoveIngress` dereferences a nil pointer. -/
def deleteIngressOf (ns name : String) (a : Agent) : Agent × Outcome :=
  match a.ingresses.lookup (objectKey ns name), a.ingress with
  | some _, some ic =>
    ({ a with ingress := some (ic.removeIngress ns name), ingresses := a.ingresses.erase (objectKey ns name) }, .ok)
  | some _, none => (a, .panic .nilDereference)
  | none, _ => (a, .ok)

/-- `DeleteManifest(namespace, name)`: the deployment, the service and the
ingress filed under `namespace/name`, each if there is one; a panic ends the
handler. -/
def deleteManifest (ns name : String) (a : Agent) : Agent × (Nat × String) :=
  let a := deleteDeploymentOf (objectKey ns name) a
  let (a, o) := match deleteServiceOf (objectKey ns name) a with
    | (a, .ok) => deleteIngressOf ns name a
    | r => r
  (a, o.reply "Manifest deleted successfully")

/-! ### `RecoverDeployments` -/

/-- What the environment decides during `RecoverDeployments`: the draws of the
replicas of the `j`-th stored deployment, what `persist` meets when it is
saved back, and the clock. -/
structure RecoveryEnv where
  replica : Nat → Nat → ReplicaEnv
  disk : Nat → Storage.WriteResult
  now : Time

/-- The replica loop of `RecoverDeployments`: a failing replica is counted and
skipped. -/
def recoverReplicas (c : Cluster) (dep : Deployment) (env : Nat → ReplicaEnv) :
    Nat → Nat → Scheduler → List Nat → Nat → Scheduler × List Nat × Nat
  | 0, _, s, pods, failed => (s, pods, failed)
  | n + 1, i, s, pods, failed =>
    match createReplica c dep i (env i) s with
    | (s', .ok r) => recoverReplicas c dep env n (i + 1) s' (pods ++ [r]) failed
    | (s', .error _) => recoverReplicas c dep env n (i + 1) s' pods (failed + 1)

/-- The deployment loop of `RecoverDeployments`, from the `j`-th stored
deployment on, counting failed pods; a nil record panics. -/
def recoverDeploymentList (env : RecoveryEnv) :
    Nat → List (Option Deployment) → Agent → Nat → Except Panic (Agent × Nat)
  | _, [], a, failed => .ok (a, failed)
  | _, none :: _, _, _ => .error .nilDereference
  | j, some dep :: ds, a, failed =>
    let (s, pods, f) :=
      recoverReplicas a.cluster dep (env.replica j) dep.desiredReplicas.toNat 0 a.scheduler [] 0
    let dep := { dep with pods := pods }
    recoverDeploymentList env (j + 1) ds
      { a with
        scheduler := s
        deployments := a.deployments.insert (objectKey dep.ns dep.name) dep
        storage := a.storage.saveDeployment (env.disk j) env.now dep }
      (failed + f)

/-- The service loop of `RecoverDeployments`: each stored service is
registered for the matching pods and then filed in `a.services`; a nil record
or a registration panics. -/
def recoverServiceList (now : Time) : List (Option Service) → Agent → Except Panic Agent
  | [], a => .ok a
  | none :: _, _ => .error .nilDereference
  | some svc :: ss, a =>
    match registerMatching a.cluster now svc a.scheduler.getAllPods a.registry with
    | (reg, .ok ()) =>
      recoverServiceList now ss
        { a with registry := reg, services := a.services.insert (objectKey svc.ns svc.name) svc }
    | (_, .error p) => .error p

/-- `RecoverDeployments`. It runs in its own goroutine, so a panic ends the
agent. -/
def recoverDeployments (env : RecoveryEnv) (a : Agent) : Except Panic (Agent × Outcome) := do
  let (a, failed) ← recoverDeploymentList env 0 a.storage.listDeployments a 0
  let a ← recoverServiceList env.now a.storage.listServices a
  return (a, if failed > 0 then .error (toString failed ++ " pods failed to recover") else .ok)

end Agent

end PodmanSwarm
