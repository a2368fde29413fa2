import PodmanSwarm.Api

/-!
# What the workload handlers keep in step

Three tables describe the workload on one node: the API's own tables, the
scheduler's pod table, and the registry of service endpoints; the store holds
what should survive a restart. This module asks which of them the handlers of
`PodmanSwarm.Api` keep in step.

* **The store.** No handler but `RecoverDeployments` writes to it
  (`PodmanSwarm.Agent.applyManifest_storage`,
  `PodmanSwarm.Agent.deleteManifest_storage`), so a restart loses everything
  applied since the store was last filled, even a manifest that applied
  cleanly (`PodmanSwarm.Agent.applied_manifest_lost_on_restart`).
* **The scheduler.** A pod created on this node is filed under its generated
  ID and then renamed to its container ID; `UpdatePodState` and the
  `RemovePod` of `DeleteManifest` look it up under the new name and miss
  (`PodmanSwarm.Agent.deleted_local_pod_stays_scheduled`).
* **The registry.** Only `applyService`, and recovery, which registers
  services the same way, add endpoints, and each adds one: the registration
  of the first pod the scheduler lists whose labels match, whatever its
  state, panics (`PodmanSwarm.Registry.registerService_eq`). Deployments
  applied later register nothing, and `DeleteManifest` removes no endpoint
  (`PodmanSwarm.Agent.registry_follows_service_applies`). So what the
  registry holds depends on the order of the applies
  (`PodmanSwarm.Agent.pending_pod_registered`).
-/

namespace PodmanSwarm

namespace Agent

/-! ### The store -/

theorem applyDeployment_storage (env : Nat → ReplicaEnv) (dep : Deployment) (a : Agent) :
    (applyDeployment env dep a).1.storage = a.storage := rfl

theorem applyService_storage (now : Time) (svc : Service) (a : Agent) :
    (applyService now svc a).1.storage = a.storage := by
  unfold applyService
  dsimp only
  split <;> rfl

theorem applyObject_storage (env : RequestEnv) (j : Nat) (o : Manifest) (a : Agent) :
    (applyObject env j o a).1.storage = a.storage := by
  cases o with
  | deployment d =>
    simp only [applyObject]
    split
    · next a' err h => simpa [h] using applyDeployment_storage (env.replica j) d a
    · exact applyDeployment_storage _ d a
  | service svc => exact applyService_storage _ svc a
  | ingress ing =>
    show (applyIngress ing a).1.storage = a.storage
    unfold applyIngress
    dsimp only
    split <;> rfl
  | other => rfl

theorem applyObjects_storage (env : RequestEnv) (j : Nat) (objs : List Manifest) (a : Agent) :
    (applyObjects env j objs a).1.storage = a.storage := by
  induction objs generalizing j a with
  | nil => rfl
  | cons o os ih =>
    simp only [applyObjects]
    split
    · next a' h => rw [ih, ← applyObject_storage env j o a, h]
    · exact applyObject_storage env j o a

/-- **`ApplyManifest` never writes to the store.** -/
theorem applyManifest_storage (env : RequestEnv) (objs : List Manifest) (a : Agent) :
    (applyManifest env objs a).1.storage = a.storage :=
  applyObjects_storage env 0 objs a

/-- A field of the agent that none of the three branches of `DeleteManifest`
writes is one `DeleteManifest` leaves as it is. -/
theorem deleteManifest_preserves {β : Type} (f : Agent → β) (ns name : String)
    (hd : ∀ b, f (deleteDeploymentOf (objectKey ns name) b) = f b)
    (hs : ∀ b, f (deleteServiceOf (objectKey ns name) b).1 = f b)
    (hi : ∀ b, f (deleteIngressOf ns name b).1 = f b) (a : Agent) :
    f (deleteManifest ns name a).1 = f a := by
  have h₁ := hs (deleteDeploymentOf (objectKey ns name) a)
  rw [hd] at h₁
  unfold deleteManifest
  dsimp only
  rcases hr : deleteServiceOf (objectKey ns name) (deleteDeploymentOf (objectKey ns name) a) with ⟨b, o⟩
  rw [hr] at h₁
  cases o
  · exact (hi b).trans h₁
  all_goals exact h₁

/-- **`DeleteManifest` never writes to the store.** -/
theorem deleteManifest_storage (ns name : String) (a : Agent) :
    (deleteManifest ns name a).1.storage = a.storage := by
  refine deleteManifest_preserves Agent.storage ns name (fun b => ?_) (fun b => ?_) (fun b => ?_) a
  · unfold deleteDeploymentOf; split <;> rfl
  · unfold deleteServiceOf; split
    · split <;> rfl
    · rfl
  · unfold deleteIngressOf; split <;> rfl

/-! ### A manifest applied, then a restart -/

/-- Two nodes; `node-1` is this one. `GetNodes` lists `node-2` first. -/
def twoNodes : Cluster :=
  ⟨"node-1", ((∅ : GoMap Node).insert "node-1" ⟨"node-1", "10.0.0.1", "ready", ∅⟩).insert
    "node-2" ⟨"node-2", "10.0.0.2", "ready", ∅⟩⟩

/-- The labels `app: web`. -/
def webLabels : GoMap String := (∅ : GoMap String).insert "app" "web"

/-- The deployment `default/web`: one replica labelled `app: web`. -/
def webApp : Deployment := ⟨"web", "default", 1, 1, [], ⟨webLabels, ∅⟩⟩

/-- The service `default/web`, selecting `app: web`, on port 80. -/
def webSvc : Service := ⟨"web", "default", webLabels, [80]⟩

/-- The ingress `default/web`, routing every path of `web.example.com` to it. -/
def webIngress : Ingress :=
  ⟨"web", "default", [⟨"web.example.com", [⟨"/", some .prefixed, "web", 80⟩]⟩]⟩

/-- Every replica draws the ID `gen-1` and the node at index `pick`; the
runtime creates, starts and runs container `ctr-1`. -/
def oneRun (pick : Nat) : RequestEnv :=
  ⟨fun _ _ => ⟨"gen-1", 0, pick, .ok "ctr-1", .ok (), .running⟩, fun _ => 0⟩

/-- A fresh agent, after `ApplyManifest` of `default/web` as a service, a
deployment and an ingress, and its reply. The service comes first, so no pod
matches it yet and nothing is registered. -/
def webApplied : Agent × (Nat × String) :=
  applyManifest (oneRun 1) [.service webSvc, .deployment webApp, .ingress webIngress]
    (start twoNodes .absent true)

/-- **A restart loses the manifest.** A fresh agent applies a service, a
deployment and an ingress and answers 200, yet the store stays empty;
restarted on its state file, the agent recovers none of the three. -/
theorem applied_manifest_lost_on_restart :
    webApplied.2.1 = 200 ∧ "default/web" ∈ webApplied.1.deployments ∧
      "default/web" ∈ webApplied.1.services ∧ "default/web" ∈ webApplied.1.ingresses ∧
      webApplied.1.storage.listDeployments = [] ∧ webApplied.1.storage.listServices = [] ∧
      webApplied.1.storage.listIngresses = [] ∧
      ∀ env, ∃ b, recoverDeployments env (start twoNodes webApplied.1.storage.stateFile true) =
        .ok (b, .ok) ∧ b.deployments.entries = [] ∧ b.services.entries = [] ∧
        b.ingresses.entries = [] :=
  ⟨by decide, by decide, by decide, by decide, by decide, by decide, by decide,
    fun _ => ⟨_, rfl, rfl, rfl, rfl⟩⟩

/-! ### The scheduler's table -/

/-- A fresh agent after `applyDeployment` of `default/web`, its replica
created on this node. -/
def webDeployed : Agent :=
  (applyDeployment ((oneRun 1).replica 0) webApp (start twoNodes .absent true)).1

/-- **A local pod outlives its deployment in the scheduler.** The one replica
of `default/web` is created on this node: the scheduler files it under `gen-1`,
the pod becomes `ctr-1`, `UpdatePodState(ctr-1)` fails and the pod stays
`Pending`; after `DeleteManifest` the deployment is gone and `GetAllPods`
still lists its pod. -/
theorem deleted_local_pod_stays_scheduled :
    (webDeployed.scheduler.updatePodState "ctr-1" .running).toOption.isNone ∧
      webDeployed.scheduler.getAllPods.map (·.state) = [.pending] ∧
      (deleteManifest "default" "web" webDeployed).1.deployments.lookup "default/web" = none ∧
      (deleteManifest "default" "web" webDeployed).1.scheduler.getAllPods.map (·.name) = ["web-0"] := by
  decide

/-! ### The registry -/

/-- **The registration loop registers the first matching pod, then panics.** -/
theorem registerMatching_eq (c : Cluster) (now : Time) (svc : Service) (ps : List Pod) (reg : Registry) :
    registerMatching c now svc ps reg =
      match ps.find? fun p => matchesSelector p.labels svc.selector with
      | some p => ((Registry.registerService c now svc p reg).1, .error .nilDereference)
      | none => (reg, .ok ()) := by
  induction ps with
  | nil => rfl
  | cons p ps ih =>
    unfold registerMatching
    by_cases hp : matchesSelector p.labels svc.selector = true
    · simp only [hp, if_true, List.find?_cons_of_pos, Registry.registerService_eq]
    · simp only [hp, Bool.false_eq_true, if_false, ih, List.find?_cons_of_neg, not_false_eq_true]

/-- **The deregistration loop changes nothing**: it panics at the first
matching pod whose endpoint is filed, and returns normally when there is
none. -/
theorem deregisterMatching_eq (svc : Service) (ps : List Pod) (reg : Registry) :
    deregisterMatching svc ps reg =
      (reg, if ps.any fun p => matchesSelector p.labels svc.selector &&
          (reg.find (serviceKey svc.name svc.ns) (endpointID svc.ns svc.name p.id)).isSome
        then .error .nilDereference else .ok ()) := by
  induction ps with
  | nil => rfl
  | cons p ps ih =>
    unfold deregisterMatching
    by_cases hp : matchesSelector p.labels svc.selector = true
    · rw [if_pos hp, Registry.deregisterService_eq]
      by_cases hf : (reg.find (serviceKey svc.name svc.ns) (endpointID svc.ns svc.name p.id)).isSome = true
      · simp only [hf, if_true, List.any_cons, hp, Bool.and_self, Bool.true_or]
      · simp only [hf, Bool.false_eq_true, if_false, ih, List.any_cons, hp, Bool.true_and, Bool.false_or]
    · simp only [hp, Bool.false_eq_true, if_false, ih, List.any_cons, Bool.false_and, Bool.false_or]

/-- **`applyService` files the service, then registers the first matching pod
and panics**; with no matching pod it only files the service. -/
theorem applyService_eq (now : Time) (svc : Service) (a : Agent) :
    applyService now svc a =
      match a.scheduler.getAllPods.find? fun p => matchesSelector p.labels svc.selector with
      | some p => ({ a with
          services := a.services.insert (objectKey svc.ns svc.name) svc
          registry := Registry.putEndpoint (serviceKey svc.name svc.ns) (endpointID svc.ns svc.name p.id)
            (Registry.endpointFor a.cluster now svc p) a.registry }, .panic .nilDereference)
      | none => ({ a with services := a.services.insert (objectKey svc.ns svc.name) svc }, .ok) := by
  unfold applyService
  dsimp only
  rw [registerMatching_eq]
  cases a.scheduler.getAllPods.find? fun p => matchesSelector p.labels svc.selector <;> rfl

/-- The deployment branch of `DeleteManifest` changes the scheduler and the
deployment table only. -/
theorem deleteDeploymentOf_eq (key : String) (a : Agent) :
    ∃ s ds, deleteDeploymentOf key a = { a with scheduler := s, deployments := ds } := by
  unfold deleteDeploymentOf
  split
  · exact ⟨_, _, rfl⟩
  · exact ⟨a.scheduler, a.deployments, rfl⟩

/-- **The service branch of `DeleteManifest` panics at the first filed
endpoint**, before forgetting the service; otherwise it only forgets it. -/
theorem deleteServiceOf_eq (key : String) (a : Agent) :
    deleteServiceOf key a =
      match a.services.lookup key with
      | some svc =>
        if a.scheduler.getAllPods.any fun p => matchesSelector p.labels svc.selector &&
            (a.registry.find (serviceKey svc.name svc.ns) (endpointID svc.ns svc.name p.id)).isSome
        then (a, .panic .nilDereference) else ({ a with services := a.services.erase key }, .ok)
      | none => (a, .ok) := by
  unfold deleteServiceOf
  rcases a.services.lookup key with _ | svc
  · rfl
  · dsimp only
    rw [deregisterMatching_eq]
    split_ifs <;> rfl

theorem deleteManifest_registry (ns name : String) (a : Agent) :
    (deleteManifest ns name a).1.registry = a.registry := by
  refine deleteManifest_preserves Agent.registry ns name (fun b => ?_) (fun b => ?_) (fun b => ?_) a
  · obtain ⟨s, ds, h⟩ := deleteDeploymentOf_eq (objectKey ns name) b
    rw [h]
  · rw [deleteServiceOf_eq]
    split
    · split_ifs <;> rfl
    · rfl
  · unfold deleteIngressOf; split <;> rfl

/-- **The registry follows the order of the applies.** Applying a deployment
leaves the registry as it is. Applying a service files it and, when some pod
the scheduler lists matches its selector, registers the first such pod –
`Running` or not – and panics, so the request answers 500 and no other pod
gets an endpoint; when none matches it registers nothing. `DeleteManifest`
never removes an endpoint, and `RecoverDeployments` registers a stored
service's first matching pod and ends the agent. -/
theorem registry_follows_service_applies :
    (∀ (env : Nat → ReplicaEnv) (dep : Deployment) (a : Agent),
      (applyDeployment env dep a).1.registry = a.registry) ∧
    (∀ (now : Time) (svc : Service) (a : Agent),
      (applyService now svc a).1.services = a.services.insert (objectKey svc.ns svc.name) svc ∧
      applyService now svc a =
        match a.scheduler.getAllPods.find? fun p => matchesSelector p.labels svc.selector with
        | some p => ({ a with
            services := a.services.insert (objectKey svc.ns svc.name) svc
            registry := Registry.putEndpoint (serviceKey svc.name svc.ns) (endpointID svc.ns svc.name p.id)
              (Registry.endpointFor a.cluster now svc p) a.registry }, .panic .nilDereference)
        | none => ({ a with services := a.services.insert (objectKey svc.ns svc.name) svc }, .ok)) ∧
    (∀ (ns name : String) (a : Agent), (deleteManifest ns name a).1.registry = a.registry) ∧
    (∀ (now : Time) (svc : Service) (ss : List (Option Service)) (a : Agent),
      (a.scheduler.getAllPods.find? fun p => matchesSelector p.labels svc.selector).isSome →
        recoverServiceList now (some svc :: ss) a = .error .nilDereference) := by
  refine ⟨fun _ _ _ => rfl, fun now svc a => ⟨?_, applyService_eq now svc a⟩, deleteManifest_registry,
    fun now svc ss a h => ?_⟩
  · rw [applyService_eq]
    split <;> rfl
  · obtain ⟨p, hp⟩ := Option.isSome_iff_exists.mp h
    simp only [recoverServiceList, registerMatching_eq, hp]

/-- The spec's registry: for every service the API holds, the endpoints filed
under its key are those of the pods the scheduler holds that match its
selector and run. -/
def RegistryMatchesRunningPods (a : Agent) : Prop :=
  ∀ k svc, a.services.lookup k = some svc → ∀ i,
    (∃ e, a.registry.find (serviceKey svc.name svc.ns) i = some e) ↔
      ∃ p ∈ a.scheduler.getAllPods, matchesSelector p.labels svc.selector = true ∧
        p.state = .running ∧ endpointID svc.ns svc.name p.id = i

/-- **The order of the applies decides the registry.** The replica of
`default/web` is placed on `node-2`, so this node never sees it run. Applied
after the deployment, the service registers it all the same and the request
answers 500; applied before, it registers nothing and the request answers
200. -/
theorem pending_pod_registered :
    ¬ (∀ (env : RequestEnv) (objs : List Manifest),
      RegistryMatchesRunningPods (applyManifest env objs (start twoNodes .absent true)).1) ∧
    (applyManifest (oneRun 0) [.deployment webApp, .service webSvc] (start twoNodes .absent true)).2.1 = 500 ∧
    (applyManifest (oneRun 0) [.service webSvc, .deployment webApp] (start twoNodes .absent true)).2.1 = 200 ∧
    ((applyManifest (oneRun 0) [.deployment webApp, .service webSvc] (start twoNodes .absent true)).1.registry.find
        "web.default" "default-web-gen-1").isSome ∧
    ((applyManifest (oneRun 0) [.service webSvc, .deployment webApp] (start twoNodes .absent true)).1.registry.find
        "web.default" "default-web-gen-1").isNone := by
  refine ⟨fun h => ?_, by decide, by decide, by decide, by decide⟩
  have := (h (oneRun 0) [.deployment webApp, .service webSvc] "default/web" webSvc rfl
    "default-web-gen-1").1 ⟨_, rfl⟩
  revert this
  decide

end Agent

end PodmanSwarm
