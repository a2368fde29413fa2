import PodmanSwarm.Workload

/-!
# The replica loops

`applyDeployment` and `RecoverDeployments` share one loop body
(`PodmanSwarm.Agent.createReplica`): make pod `name-i`, schedule it, and create
and start its container when it lands on this node. They differ in what a
failing replica does to the loop.

* `applyDeployment` returns at once. The record, filed before the loop, keeps
  the pods of the replicas before the failing one, and the replicas after it
  are never scheduled (`PodmanSwarm.Agent.createReplicas_spec`).
* `RecoverDeployments` counts the failure and goes on, so its record holds, in
  index order, one pod for each replica that did not fail, and the count holds
  the rest (`PodmanSwarm.Agent.recoverReplicas_spec`).

So a deployment has its `DesiredReplicas` pods only when no replica fails
(`PodmanSwarm.Agent.replica_records`). Every pod either record holds has
been placed on a node of the roster.

What makes the loops tractable is a frame property of the loop body: it only
adds a pod to the heap and writes the new pod's fields, and the writes it makes
to other pods – `UpdatePodState` finds *some* pod under the container ID – touch
neither a name nor a node (`PodmanSwarm.Scheduler.Keeps`).
-/

namespace PodmanSwarm

/-- The pod name `fmt.Sprintf("%s-%d", dep.Name, i)` of replica `i`. -/
def replicaName (dep : Deployment) (i : Nat) : String := dep.name ++ "-" ++ toString i

namespace Scheduler

/-- `s'` keeps every pod of `s` where it was, with its name and its node. -/
def Keeps (s s' : Scheduler) : Prop :=
  s.heap.length ≤ s'.heap.length ∧
    ∀ r < s.heap.length, (s'.deref r).name = (s.deref r).name ∧ (s'.deref r).nodeName = (s.deref r).nodeName

theorem Keeps.refl (s : Scheduler) : Keeps s s := ⟨le_rfl, fun _ _ => ⟨rfl, rfl⟩⟩

theorem Keeps.trans {s₁ s₂ s₃ : Scheduler} (h₁ : Keeps s₁ s₂) (h₂ : Keeps s₂ s₃) : Keeps s₁ s₃ :=
  ⟨h₁.1.trans h₂.1, fun r hr =>
    let ⟨hn, hd⟩ := h₁.2 r hr
    let ⟨hn', hd'⟩ := h₂.2 r (lt_of_lt_of_le hr h₁.1)
    ⟨hn'.trans hn, hd'.trans hd⟩⟩

theorem keeps_alloc (p : Pod) (s : Scheduler) : Keeps s (s.alloc p).2 :=
  ⟨by simp, fun _ hr => by simp [deref_alloc_of_lt p s hr]⟩

/-- A write through a pointer outside `s` keeps `s`. -/
theorem Keeps.write_of_le {s₀ s : Scheduler} {r : Nat} (f : Pod → Pod) (h : Keeps s₀ s)
    (hr : s₀.heap.length ≤ r) : Keeps s₀ (s.write r f) :=
  ⟨by simpa using h.1, fun r' hr' => by
    rw [deref_write_ne f s (by omega)]
    exact h.2 r' hr'⟩

/-- A write that changes neither the name nor the node keeps everything. -/
theorem keeps_write (f : Pod → Pod) (hf : ∀ p, (f p).name = p.name ∧ (f p).nodeName = p.nodeName)
    (r : Nat) (s : Scheduler) : Keeps s (s.write r f) := by
  refine ⟨by simp, fun r' hr' => ?_⟩
  by_cases h : r = r'
  · subst h
    rw [deref_write_self f s hr']
    exact hf _
  · rw [deref_write_ne f s h]
    exact ⟨rfl, rfl⟩

theorem keeps_write_id (r : Nat) (cid : String) (s : Scheduler) :
    Keeps s (s.write r fun p => { p with id := cid }) :=
  keeps_write (fun p => { p with id := cid }) (fun _ => ⟨rfl, rfl⟩) r s

theorem keeps_updatePodState {id : String} {st : PodState} {s s' : Scheduler}
    (h : s.updatePodState id st = .ok s') : Keeps s s' := by
  unfold updatePodState at h
  split at h
  · cases h
    exact keeps_write (fun p => { p with state := st }) (fun _ => ⟨rfl, rfl⟩) _ s
  · cases h

/-- Pod `r` of `s` is replica `i` of `dep`, placed on a node of the roster. -/
def Placed (c : Cluster) (dep : Deployment) (i r : Nat) (s : Scheduler) : Prop :=
  r < s.heap.length ∧ (s.deref r).name = replicaName dep i ∧ (s.deref r).nodeName ∈ c.getNodes.map Node.name

theorem Keeps.placed {c : Cluster} {dep : Deployment} {i r : Nat} {s s' : Scheduler}
    (h : Keeps s s') (hp : Placed c dep i r s) : Placed c dep i r s' :=
  let ⟨hl, hn, hd⟩ := hp
  let ⟨hn', hd'⟩ := h.2 r hl
  ⟨lt_of_lt_of_le hl h.1, hn'.trans hn, hd' ▸ hd⟩

end Scheduler

namespace Agent

open Scheduler

/-! ### One pass of the loop -/

/-- **The loop body** keeps every pod already on the heap; when it succeeds,
the pointer it returns is the one new pod, named after the replica and placed
on a node of the roster. -/
theorem createReplica_spec (c : Cluster) (dep : Deployment) (i : Nat) (e : ReplicaEnv) (s : Scheduler) :
    Keeps s (createReplica c dep i e s).1 ∧
      ∀ r, (createReplica c dep i e s).2 = .ok r → Placed c dep i r (createReplica c dep i e s).1 := by
  unfold createReplica
  dsimp only
  generalize hsa : s.alloc _ = sa
  obtain ⟨r₀, s₁⟩ := sa
  have hr₀ : r₀ = s.heap.length := (congrArg Prod.fst hsa).symm
  have hs₁ : s₁ = (s.alloc _).2 := (congrArg Prod.snd hsa).symm
  have ha : Keeps s s₁ := hs₁ ▸ keeps_alloc _ s
  have hl₁ : r₀ < s₁.heap.length := by rw [hr₀, hs₁]; simp
  have hn₁ : (s₁.deref r₀).name = replicaName dep i := by rw [hr₀, hs₁, deref_alloc_self]; rfl
  split
  · exact ⟨ha, fun _ h => nomatch h⟩
  · next s₂ hs =>
    obtain ⟨⟨n, hn, rfl⟩, hs₂⟩ := schedulePod_eq_ok hs
    -- the new pod as `SchedulePod` leaves it: bound to node `n`
    have k₂ : Keeps s s₂ := by rw [hs₂]; exact ha.write_of_le _ (by omega)
    have p₂ : Placed c dep i r₀ s₂ := by
      rw [hs₂]
      refine ⟨by simpa using hl₁, ?_⟩
      show ((s₁.write r₀ _).deref r₀).name = _ ∧ ((s₁.write r₀ _).deref r₀).nodeName ∈ _
      rw [deref_write_self _ _ hl₁]
      exact ⟨hn₁, List.mem_map_of_mem _ hn⟩
    split_ifs
    · split
      · exact ⟨k₂, fun _ h => nomatch h⟩
      · next cid _ =>
        have k₃ := keeps_write_id r₀ cid s₂
        split
        · exact ⟨k₂.trans k₃, fun _ h => nomatch h⟩
        · split
          · next hu =>
            have k₄ := keeps_updatePodState hu
            exact ⟨k₂.trans (k₃.trans k₄), fun _ h => by cases h; exact k₄.placed (k₃.placed p₂)⟩
          · exact ⟨k₂.trans k₃, fun _ h => by cases h; exact k₃.placed p₂⟩
    · exact ⟨k₂, fun _ h => by cases h; exact p₂⟩

/-! ### The two loops -/

/-- **The loop of `applyDeployment`** runs replicas `i, i+1, …` until the
first failure: the pods it appends are those of the first `k` replicas, and it
reports success exactly when it got through all `n`. -/
theorem createReplicas_spec (c : Cluster) (dep : Deployment) (env : Nat → ReplicaEnv) :
    ∀ n i s pods, Keeps s (createReplicas c dep env n i s pods).1 ∧
      ∃ k ≤ n, ∃ rs, (createReplicas c dep env n i s pods).2.1 = pods ++ rs ∧
        List.Forall₂ (fun j r => Placed c dep j r (createReplicas c dep env n i s pods).1)
          (List.range' i k) rs ∧
        ((createReplicas c dep env n i s pods).2.2 = .ok () ↔ k = n)
  | 0, _, s, _ => ⟨Keeps.refl s, 0, le_rfl, [], by simp [createReplicas]⟩
  | n + 1, i, s, pods => by
    obtain ⟨k₁, h₁⟩ := createReplica_spec c dep i (env i) s
    rw [createReplicas]
    generalize createReplica c dep i (env i) s = o at k₁ h₁ ⊢
    obtain ⟨s', _ | r⟩ := o
    · exact ⟨k₁, 0, Nat.zero_le _, [], by simp, .nil, by simp⟩
    · obtain ⟨k₂, k, hk, rs, hp, hf, hr⟩ := createReplicas_spec c dep env n (i + 1) s' (pods ++ [r])
      refine ⟨k₁.trans k₂, k + 1, by omega, r :: rs, by simp [hp], ?_, by simp [hr]⟩
      rw [List.range'_succ]
      exact .cons (k₂.placed (h₁ r rfl)) hf

/-- **The loop of `RecoverDeployments`** runs all `n` replicas: the pods it
appends are those of the replicas that did not fail, in index order, and the
count grows by the number of the others. -/
theorem recoverReplicas_spec (c : Cluster) (dep : Deployment) (env : Nat → ReplicaEnv) :
    ∀ n i s pods failed, Keeps s (recoverReplicas c dep env n i s pods failed).1 ∧
      ∃ idx rs, idx.Sublist (List.range' i n) ∧
        (recoverReplicas c dep env n i s pods failed).2.1 = pods ++ rs ∧
        List.Forall₂ (fun j r => Placed c dep j r (recoverReplicas c dep env n i s pods failed).1) idx rs ∧
        (recoverReplicas c dep env n i s pods failed).2.2 = failed + (n - idx.length)
  | 0, _, s, _, _ => ⟨Keeps.refl s, [], [], .slnil, by simp [recoverReplicas], .nil, rfl⟩
  | n + 1, i, s, pods, failed => by
    obtain ⟨k₁, h₁⟩ := createReplica_spec c dep i (env i) s
    rw [recoverReplicas]
    generalize createReplica c dep i (env i) s = o at k₁ h₁ ⊢
    obtain ⟨s', _ | r⟩ := o
    · obtain ⟨k₂, idx, rs, hs, hp, hf, hn⟩ := recoverReplicas_spec c dep env n (i + 1) s' pods (failed + 1)
      have := hs.length_le
      rw [List.length_range'] at this
      refine ⟨k₁.trans k₂, idx, rs, ?_, hp, hf, by rw [hn]; omega⟩
      rw [List.range'_succ]
      exact hs.cons _
    · obtain ⟨k₂, idx, rs, hs, hp, hf, hn⟩ := recoverReplicas_spec c dep env n (i + 1) s' (pods ++ [r]) failed
      refine ⟨k₁.trans k₂, i :: idx, r :: rs, ?_, by simp [hp], .cons (k₂.placed (h₁ r rfl)) hf,
        by rw [hn, List.length_cons]; omega⟩
      rw [List.range'_succ]
      exact hs.cons₂ _

/-! ### The deployment record -/

theorem map_name_of_forall₂ {c : Cluster} {dep : Deployment} {s : Scheduler} {idx rs : List Nat}
    (h : List.Forall₂ (fun j r => Placed c dep j r s) idx rs) :
    rs.map (fun r => (s.deref r).name) = idx.map (replicaName dep) ∧
      ∀ r ∈ rs, (s.deref r).nodeName ∈ c.getNodes.map Node.name := by
  induction h with
  | nil => exact ⟨rfl, fun _ h => nomatch h⟩
  | cons hp _ ih =>
    refine ⟨by rw [List.map_cons, List.map_cons, hp.2.1, ih.1], ?_⟩
    rintro r (_ | ⟨_, hr⟩)
    exacts [hp.2.2, ih.2 r hr]

/-- The record `a` files for `dep` lists the pods `base`, then one pod for each
replica index of `idx`, in order: pod `name-j` for index `j`, placed on a node
of the roster. -/
def HoldsReplicas (a : Agent) (dep : Deployment) (base idx : List Nat) : Prop :=
  ∃ rs, a.deployments.lookup (objectKey dep.ns dep.name) = some { dep with pods := base ++ rs } ∧
    rs.map (fun r => (a.scheduler.deref r).name) = idx.map (replicaName dep) ∧
    ∀ r ∈ rs, (a.scheduler.deref r).nodeName ∈ a.cluster.getNodes.map Node.name

/-- **What the two loops leave in the record of a deployment.** With
`N = DesiredReplicas`:

* after `applyDeployment` the record lists the pods it had, then those of
  replicas `0, …, k-1` for some `k ≤ N`, and the reply is success exactly when
  `k = N`: the first failing replica ends the loop;
* `RecoverDeployments` files the deployment with the pods of the replicas that
  did not fail, a sublist of `0, …, N-1`, adds the others to its failure count,
  and goes on with the next stored deployment.

Every pod either record lists is placed on a node of the roster. -/
theorem replica_records (env : Nat → ReplicaEnv) (renv : RecoveryEnv) (dep : Deployment) (a : Agent)
    (j : Nat) (ds : List (Option Deployment)) (failed : Nat) :
    (∃ k ≤ dep.desiredReplicas.toNat, HoldsReplicas (applyDeployment env dep a).1 dep dep.pods (List.range k) ∧
      ((applyDeployment env dep a).2 = .ok ↔ k = dep.desiredReplicas.toNat)) ∧
    ∃ idx a', idx.Sublist (List.range dep.desiredReplicas.toNat) ∧ HoldsReplicas a' dep [] idx ∧
      recoverDeploymentList renv j (some dep :: ds) a failed =
        recoverDeploymentList renv (j + 1) ds a' (failed + (dep.desiredReplicas.toNat - idx.length)) := by
  constructor
  · obtain ⟨-, k, hk, rs, hp, hf, hr⟩ :=
      createReplicas_spec a.cluster dep env dep.desiredReplicas.toNat 0 a.scheduler dep.pods
    rw [← List.range_eq_range'] at hf
    refine ⟨k, hk, ⟨rs, ?_, map_name_of_forall₂ hf⟩, ?_⟩
    · simp only [applyDeployment, AList.lookup_insert, hp]
    · rw [← hr]
      unfold applyDeployment
      split
      next heq => rw [heq]; dsimp only; split <;> simp
  · obtain ⟨-, idx, rs, hs, hp, hf, hn⟩ :=
      recoverReplicas_spec a.cluster dep (renv.replica j) dep.desiredReplicas.toNat 0 a.scheduler [] 0
    rw [recoverDeploymentList]
    generalize recoverReplicas a.cluster dep (renv.replica j) dep.desiredReplicas.toNat 0 a.scheduler [] 0 = o
      at hp hf hn ⊢
    obtain ⟨s, pods, f⟩ := o
    dsimp only at hp hf hn ⊢
    rw [Nat.zero_add] at hn
    subst hp hn
    refine ⟨idx, _, by rwa [List.range_eq_range'], ⟨_, ?_, map_name_of_forall₂ hf⟩, rfl⟩
    exact AList.lookup_insert _

/-! ### A replica that fails -/

/-- The deployment `default/web` with two replicas. -/
def webPair : Deployment := ⟨"web", "default", 2, 2, [], ⟨webLabels, ∅⟩⟩

/-- Both replicas are placed on this node; the runtime fails to create the
first one and creates and starts the second. -/
def firstCreateFails (i : Nat) : ReplicaEnv :=
  ⟨"gen-" ++ toString i, 0, 1, if i = 0 then .error "image not found" else .ok "ctr-1", .ok (), .running⟩

/-- **A failing replica leaves the record short.** Of the two replicas of
`default/web` the first fails. `applyDeployment` files the record with no pod
and never schedules the second replica; `RecoverDeployments` files it with the
one pod `web-1` and counts one failure. -/
theorem failed_replica_leaves_record_short :
    ((applyDeployment firstCreateFails webPair (start twoNodes .absent true)).1.deployments.lookup
        "default/web").map (·.pods) = some [] ∧
      (applyDeployment firstCreateFails webPair (start twoNodes .absent true)).1.scheduler.getAllPods.map
        (·.name) = ["web-0"] ∧
      ∃ a', recoverDeploymentList ⟨fun _ => firstCreateFails, fun _ => .ok, 0⟩ 0 [some webPair]
          (start twoNodes .absent true) 0 = .ok (a', 1) ∧
        (a'.deployments.lookup "default/web").map
          (fun d => d.pods.map fun r => (a'.scheduler.deref r).name) = some ["web-1"] :=
  ⟨by decide, by decide, _, rfl, by decide⟩

end Agent

end PodmanSwarm
