import PodmanSwarm.Replicas
import PodmanSwarm.RegistryRuns
import PodmanSwarm.Roster

/-!
# A node that leaves

Nothing in the repository moves a pod once `SchedulePod` has placed it. The
scheduler has no loop that revisits its pods, `NotifyLeave` only deletes the
node's roster entry, and the workload handlers – `ApplyManifest`,
`DeleteManifest` and `RecoverDeployments` – only add pods, each scheduled onto
a node of the roster as it stands, and write fields of the pods they add.

This module runs an agent through any interleaving of those handlers with the
roster changes memberlist reports (`PodmanSwarm.Agent.AgentEvent`). One step
either leaves the roster alone and grows the scheduler's heap with pods that
are unplaced or on a roster node, keeping every pod it had
(`PodmanSwarm.Scheduler.Grows`), or changes the roster and nothing else
(`PodmanSwarm.Agent.AgentEvent.run_cases`). So when a node leaves and does
not join again, every pod placed on it stays placed on it, `GetNode` no longer
finds it, and no pod created after it left is placed on it
(`PodmanSwarm.Agent.departed_node_strands_its_pods`): its replicas are
neither moved nor replaced.
-/

namespace PodmanSwarm

namespace Scheduler

/-! ### Growing the heap -/

/-- `s'` keeps every pod of `s` (`PodmanSwarm.Scheduler.Keeps`), and each pod
it adds is unplaced – its `NodeName` still the empty one
`ExtractPodFromTemplate` gives it – or placed on a node `placed` allows. -/
def Grows (placed : String → Prop) (s s' : Scheduler) : Prop :=
  Keeps s s' ∧ ∀ r, s.heap.length ≤ r → r < s'.heap.length →
    (s'.deref r).nodeName = "" ∨ placed (s'.deref r).nodeName

variable {placed : String → Prop}

theorem Grows.refl (s : Scheduler) : Grows placed s s :=
  ⟨Keeps.refl s, fun _ h h' => absurd h' (by omega)⟩

theorem Grows.trans {s₁ s₂ s₃ : Scheduler} (g₁ : Grows placed s₁ s₂) (g₂ : Grows placed s₂ s₃) :
    Grows placed s₁ s₃ := by
  refine ⟨g₁.1.trans g₂.1, fun r h h' => ?_⟩
  by_cases hr : r < s₂.heap.length
  · rw [(g₂.1.2 r hr).2]
    exact g₁.2 r h hr
  · exact g₂.2 r (by omega) h'

theorem Grows.mono {placed' : String → Prop} (hp : ∀ x, placed x → placed' x) {s s' : Scheduler}
    (g : Grows placed s s') : Grows placed' s s' :=
  ⟨g.1, fun r h h' => (g.2 r h h').imp_right (hp _)⟩

/-- Writes that add no pod and keep every name and node. -/
theorem grows_of_keeps {s s' : Scheduler} (k : Keeps s s') (hl : s'.heap.length ≤ s.heap.length) :
    Grows placed s s' :=
  ⟨k, fun _ h h' => absurd h' (by omega)⟩

theorem grows_of_heap_eq {s s' : Scheduler} (h : s'.heap = s.heap) : Grows placed s s' :=
  grows_of_keeps ⟨h ▸ le_rfl, fun r _ => by simp only [deref, h, and_self]⟩ (h ▸ le_rfl)

theorem length_updatePodState {id : String} {st : PodState} {s s' : Scheduler}
    (h : s.updatePodState id st = .ok s') : s'.heap.length = s.heap.length := by
  unfold updatePodState at h
  split at h <;> cases h
  exact length_write _ _ s

theorem heap_foldl_removePod (rs : List Nat) (s : Scheduler) :
    (rs.foldl (fun s r => s.removePod (s.deref r).id) s).heap = s.heap := by
  induction rs generalizing s with
  | nil => rfl
  | cons r rs ih => exact ih _

end Scheduler

namespace Agent

open Scheduler

/-! ### The replica loops -/

/-- **The loop body adds one pod**, and places it, if at all, on a node of
the roster. -/
theorem grows_createReplica (c : Cluster) (dep : Deployment) (i : Nat) (e : ReplicaEnv) (s : Scheduler) :
    Grows (· ∈ c.getNodes.map Node.name) s (createReplica c dep i e s).1 := by
  unfold createReplica
  dsimp only
  generalize hsa : s.alloc _ = sa
  obtain ⟨r₀, s₁⟩ := sa
  have hr₀ : r₀ = s.heap.length := (congrArg Prod.fst hsa).symm
  have hs₁ : s₁ = (s.alloc _).2 := (congrArg Prod.snd hsa).symm
  have hl₁ : s₁.heap.length = s.heap.length + 1 := by rw [hs₁, length_alloc]
  -- the pod `alloc` adds is unplaced
  have g₁ : Grows (· ∈ c.getNodes.map Node.name) s s₁ := by
    refine ⟨hs₁ ▸ keeps_alloc _ s, fun r h h' => .inl ?_⟩
    obtain rfl : r = s.heap.length := by omega
    rw [hs₁, deref_alloc_self]
    rfl
  split
  · exact g₁
  · next s₂ hs =>
    obtain ⟨⟨n, hn, rfl⟩, hs₂⟩ := schedulePod_eq_ok hs
    -- `SchedulePod` places it on a roster node
    have g₂ : Grows (· ∈ c.getNodes.map Node.name) s s₂ := by
      have hl₂ : s₂.heap.length = s₁.heap.length := by rw [hs₂]; exact length_write _ _ _
      refine ⟨by rw [hs₂]; exact g₁.1.write_of_le _ (by omega), fun r h h' => .inr ?_⟩
      obtain rfl : r = r₀ := by omega
      rw [hs₂]
      show ((s₁.write r _).deref r).nodeName ∈ _
      rw [deref_write_self _ _ (by omega)]
      exact List.mem_map_of_mem _ hn
    split_ifs
    · split
      · exact g₂
      · next cid _ =>
        have g₃ := g₂.trans (grows_of_keeps (keeps_write_id r₀ cid s₂) (length_write _ _ _).le)
        split
        · exact g₃
        · split
          · next hu => exact g₃.trans (grows_of_keeps (keeps_updatePodState hu) (length_updatePodState hu).le)
          · exact g₃
    · exact g₂

theorem grows_createReplicas (c : Cluster) (dep : Deployment) (env : Nat → ReplicaEnv) :
    ∀ n i s pods, Grows (· ∈ c.getNodes.map Node.name) s (createReplicas c dep env n i s pods).1
  | 0, _, s, _ => Grows.refl s
  | n + 1, i, s, pods => by
    have g := grows_createReplica c dep i (env i) s
    rw [createReplicas]
    generalize createReplica c dep i (env i) s = o at g ⊢
    obtain ⟨s', _ | r⟩ := o
    · exact g
    · exact g.trans (grows_createReplicas c dep env n (i + 1) s' _)

theorem grows_recoverReplicas (c : Cluster) (dep : Deployment) (env : Nat → ReplicaEnv) :
    ∀ n i s pods failed, Grows (· ∈ c.getNodes.map Node.name) s (recoverReplicas c dep env n i s pods failed).1
  | 0, _, s, _, _ => Grows.refl s
  | n + 1, i, s, pods, failed => by
    have g := grows_createReplica c dep i (env i) s
    rw [recoverReplicas]
    generalize createReplica c dep i (env i) s = o at g ⊢
    obtain ⟨s', _ | r⟩ := o <;> exact g.trans (grows_recoverReplicas c dep env n (i + 1) s' _ _)

/-! ### The workload handlers -/

/-- `a'` is what workload handlers make of `a`: the roster as it was, and the
scheduler grown by pods placed, if at all, on a node of that roster. -/
def Handled (a a' : Agent) : Prop :=
  a'.cluster = a.cluster ∧ Grows (· ∈ a.cluster.getNodes.map Node.name) a.scheduler a'.scheduler

theorem Handled.refl (a : Agent) : Handled a a := ⟨rfl, Grows.refl _⟩

theorem Handled.trans {a₁ a₂ a₃ : Agent} (h₁ : Handled a₁ a₂) (h₂ : Handled a₂ a₃) : Handled a₁ a₃ :=
  ⟨h₂.1.trans h₁.1, h₁.2.trans (h₁.1 ▸ h₂.2)⟩

theorem handled_of_scheduler {a a' : Agent} (hc : a'.cluster = a.cluster) (hs : a'.scheduler = a.scheduler) :
    Handled a a' :=
  ⟨hc, hs ▸ Grows.refl _⟩

theorem handled_applyObject (env : RequestEnv) (j : Nat) (o : Manifest) (a : Agent) :
    Handled a (applyObject env j o a).1 := by
  cases o with
  | deployment d =>
    have h : Handled a (applyDeployment (env.replica j) d a).1 :=
      ⟨rfl, grows_createReplicas _ _ _ _ _ _ _⟩
    simp only [applyObject]
    split
    · next a' err hd => rw [hd] at h; exact h
    · exact h
  | service svc =>
    show Handled a (applyService (env.now j) svc a).1
    rw [applyService_eq]
    split <;> exact handled_of_scheduler rfl rfl
  | ingress ing =>
    show Handled a (applyIngress ing a).1
    unfold applyIngress
    dsimp only
    split <;> exact handled_of_scheduler rfl rfl
  | other => exact Handled.refl a

theorem handled_applyObjects (env : RequestEnv) (j : Nat) (objs : List Manifest) (a : Agent) :
    Handled a (applyObjects env j objs a).1 := by
  induction objs generalizing j a with
  | nil => exact Handled.refl a
  | cons o os ih =>
    have h := handled_applyObject env j o a
    simp only [applyObjects]
    split
    · next a' ho => rw [ho] at h; exact h.trans (ih _ _)
    · exact h

theorem handled_deleteManifest (ns name : String) (a : Agent) : Handled a (deleteManifest ns name a).1 := by
  have h : ((deleteManifest ns name a).1.cluster, (deleteManifest ns name a).1.scheduler.heap) =
      (a.cluster, a.scheduler.heap) := by
    refine deleteManifest_preserves (fun b => (b.cluster, b.scheduler.heap)) ns name (fun b => ?_) (fun b => ?_)
      (fun b => ?_) a
    · unfold deleteDeploymentOf
      split
      · exact congrArg _ (heap_foldl_removePod _ _)
      · rfl
    · rw [deleteServiceOf_eq]
      split
      · split_ifs <;> rfl
      · rfl
    · unfold deleteIngressOf
      split <;> rfl
  exact ⟨congrArg Prod.fst h, grows_of_heap_eq (congrArg Prod.snd h)⟩

theorem handled_recoverDeploymentList (env : RecoveryEnv) :
    ∀ j ds a failed a' f, recoverDeploymentList env j ds a failed = .ok (a', f) → Handled a a'
  | _, [], a, _, _, _, h => by cases h; exact Handled.refl a
  | _, none :: _, _, _, _, _, h => nomatch h
  | j, some dep :: ds, a, failed, a', f, h => by
    rw [recoverDeploymentList] at h
    refine Handled.trans ?_ (handled_recoverDeploymentList env _ ds _ _ a' f h)
    exact ⟨rfl, grows_recoverReplicas _ _ _ _ _ _ _ _⟩

theorem recoverServiceList_eq_ok (now : Time) :
    ∀ ss a a', recoverServiceList now ss a = .ok a' → a'.cluster = a.cluster ∧ a'.scheduler = a.scheduler
  | [], _, _, h => by cases h; exact ⟨rfl, rfl⟩
  | none :: _, _, _, h => nomatch h
  | some svc :: ss, a, a', h => by
    rw [recoverServiceList] at h
    split at h
    · have h' := recoverServiceList_eq_ok now ss _ a' h
      exact h'
    · cases h

theorem handled_recoverDeployments {env : RecoveryEnv} {a a' : Agent} {o : Outcome}
    (h : recoverDeployments env a = .ok (a', o)) : Handled a a' := by
  obtain ⟨⟨a₁, failed⟩, h₁, h⟩ := Registry.except_bind_eq_ok h
  obtain ⟨a₂, h₂, h⟩ := Registry.except_bind_eq_ok h
  cases h
  obtain ⟨hc, hs⟩ := recoverServiceList_eq_ok env.now _ a₁ _ h₂
  exact (handled_recoverDeploymentList env 0 _ a 0 a₁ failed h₁).trans (handled_of_scheduler hc hs)

/-! ### Runs of an agent -/

/-- What happens to an agent: one of its API's workload requests, or a change
of the roster that memberlist reports. -/
inductive AgentEvent
  | apply (env : RequestEnv) (objs : List Manifest)
  | delete (ns name : String)
  | recover (env : RecoveryEnv)
  | roster (e : Cluster.RosterEvent)

/-- The event. A handler's panic is answered by `gin.Recovery` and the agent
goes on; a panic of `RecoverDeployments`, in its own goroutine, ends it. -/
def AgentEvent.run : AgentEvent → Agent → Except Panic Agent
  | .apply env objs, a => .ok (applyManifest env objs a).1
  | .delete ns name, a => .ok (deleteManifest ns name a).1
  | .recover env, a => (recoverDeployments env a).map Prod.fst
  | .roster e, a => .ok { a with cluster := e.run a.cluster }

/-- The events one after the other; a panic ends the run. -/
def runAgent : List AgentEvent → Agent → Except Panic Agent
  | [], a => .ok a
  | e :: es, a => (e.run a).bind (runAgent es)

/-- **What one event can do**: handle a request, or change the roster and
nothing else. -/
theorem AgentEvent.run_cases {e : AgentEvent} {a a' : Agent} (h : e.run a = .ok a') :
    Handled a a' ∨ ∃ re, e = .roster re ∧ a' = { a with cluster := re.run a.cluster } := by
  cases e with
  | apply env objs =>
    cases h
    exact .inl (handled_applyObjects env 0 objs a)
  | delete ns name =>
    cases h
    exact .inl (handled_deleteManifest ns name a)
  | recover env =>
    simp only [AgentEvent.run] at h
    cases h₁ : recoverDeployments env a with
    | error p => rw [h₁] at h; cases h
    | ok r =>
      rw [h₁] at h
      cases h
      exact .inl (handled_recoverDeployments h₁)
  | roster re =>
    cases h
    exact .inr ⟨re, rfl, rfl⟩

theorem wellKeyed_runAgent {evs : List AgentEvent} {a a' : Agent} (hw : Cluster.WellKeyed a.cluster)
    (h : runAgent evs a = .ok a') : Cluster.WellKeyed a'.cluster := by
  induction evs generalizing a with
  | nil => cases h; exact hw
  | cons e es ih =>
    obtain ⟨a₁, h₁, h⟩ := Registry.except_bind_eq_ok h
    refine ih ?_ h
    rcases AgentEvent.run_cases h₁ with hd | ⟨re, -, rfl⟩
    · exact hd.1 ▸ hw
    · exact hw.run re

/-- A roster event that is not a `NotifyJoin` of `k` leaves `k` out of a
roster that lacks it. -/
theorem lookup_run_of_none {c : Cluster} {k : String} (hk : c.nodes.lookup k = none) {re : Cluster.RosterEvent}
    (hj : ∀ addr, re ≠ .join k addr) : (re.run c).nodes.lookup k = none := by
  rw [Cluster.lookup_run, hk]
  split_ifs with he
  · cases re with
    | join name addr => exact absurd (he ▸ rfl) (hj addr)
    | _ => rfl
  · rfl

/-- Over a run in which `n`, away from a well-keyed roster, never joins, the
roster never regains `n` and the scheduler places no new pod on `n`. -/
theorem runAgent_away {n : String} (hn : n ≠ "") {evs : List AgentEvent}
    (hj : ∀ addr, AgentEvent.roster (.join n addr) ∉ evs) {a a' : Agent}
    (hw : Cluster.WellKeyed a.cluster) (ha : a.cluster.nodes.lookup n = none) (h : runAgent evs a = .ok a') :
    a'.cluster.nodes.lookup n = none ∧ Grows (· ≠ n) a.scheduler a'.scheduler := by
  induction evs generalizing a with
  | nil => cases h; exact ⟨ha, Grows.refl _⟩
  | cons e es ih =>
    obtain ⟨a₁, h₁, h⟩ := Registry.except_bind_eq_ok h
    have hw₁ : Cluster.WellKeyed a₁.cluster := @wellKeyed_runAgent [e] a a₁ hw (by rw [runAgent, h₁]; rfl)
    rcases AgentEvent.run_cases h₁ with hd | ⟨re, rfl, rfl⟩
    · -- a request: `n` is not in the roster it schedules on
      have hout : ∀ x ∈ a.cluster.getNodes.map Node.name, x ≠ n := by
        rintro x hx rfl
        obtain ⟨m, hm, rfl⟩ := List.mem_map.mp hx
        obtain ⟨k, hk⟩ := Cluster.mem_getNodes.mp hm
        obtain ⟨rfl, -⟩ := hw k m hk
        rw [ha] at hk
        cases hk
      obtain ⟨h', g⟩ := ih (fun addr hm => hj addr (List.mem_cons_of_mem _ hm)) hw₁ (hd.1 ▸ ha) h
      exact ⟨h', (hd.2.mono hout).trans g⟩
    · -- a roster event: not a join of `n`
      have hre : ∀ addr, re ≠ .join n addr := fun addr he => hj addr (he ▸ List.mem_cons_self _ _)
      obtain ⟨h', g⟩ := ih (fun addr hm => hj addr (List.mem_cons_of_mem _ hm)) hw₁
        (lookup_run_of_none ha hre) h
      exact ⟨h', g⟩

/-- **A node that leaves strands its pods.** Start an agent on a roster
`NewCluster` reached, run it through any requests and roster changes, then let
node `n` leave and run it on through any requests and roster changes that do
not bring `n` back. Then `GetNode(n)` fails with "node `n` not found", every
pod the agent held when `n` left – those on `n` among them – keeps its name
and its node (`PodmanSwarm.Scheduler.Keeps`), and no pod created after that
is placed on `n`: nothing moves or replaces the replicas `n` ran. -/
theorem departed_node_strands_its_pods (cfg : Membership.ClusterConfig) (evs₀ : List Cluster.RosterEvent)
    (file : StateFile) (ingressEnabled : Bool) (pre post : List AgentEvent) {n : String} (hn : n ≠ "")
    (hpost : ∀ addr, AgentEvent.roster (.join n addr) ∉ post) {a₁ a' : Agent}
    (h₁ : runAgent pre (start (Cluster.newClusterRoster cfg evs₀) file ingressEnabled) = .ok a₁)
    (h₂ : runAgent (.roster (.leave n) :: post) a₁ = .ok a') :
    a'.cluster.getNode n = .error ("node " ++ n ++ " not found") ∧ Scheduler.Keeps a₁.scheduler a'.scheduler ∧
      ∀ r, a₁.scheduler.heap.length ≤ r → r < a'.scheduler.heap.length → (a'.scheduler.deref r).nodeName ≠ n := by
  have hw₁ := wellKeyed_runAgent (Cluster.wellKeyed_newClusterRoster cfg evs₀) h₁
  obtain ⟨hl, g⟩ := runAgent_away hn hpost (hw₁.run (.leave n))
    (by simp [Cluster.lookup_run, Cluster.RosterEvent.node, Cluster.RosterEvent.onEntry]) h₂
  refine ⟨by simp only [Cluster.getNode, hl], g.1, fun r h h' => ?_⟩
  rcases g.2 r h h' with he | hne
  · exact he ▸ hn.symm
  · exact hne

/-! ### `node-2` leaves -/

/-- `node-1`, started with `node-2` already in the roster. -/
def twoNodeStart : Agent :=
  start (Cluster.newClusterRoster Cluster.soloConfig [.join "node-2" "10.0.0.2"]) .absent true

/-- `default/web` applied, its replica drawn onto `node-2`. -/
def webOnNode2 : Agent := (applyManifest (oneRun 1) [.deployment webApp] twoNodeStart).1

/-- `node-2` leaves, and `default/web` is applied again. -/
def webReapplied : Agent :=
  (applyManifest (oneRun 1) [.deployment webApp]
    { webOnNode2 with cluster := (Cluster.RosterEvent.leave "node-2").run webOnNode2.cluster }).1

theorem web_replica_stranded_on_node2 :
    "node-2" ≠ "" ∧
      (∀ addr, AgentEvent.roster (.join "node-2" addr) ∉ [AgentEvent.apply (oneRun 1) [.deployment webApp]]) ∧
      runAgent [.apply (oneRun 1) [.deployment webApp]] twoNodeStart = .ok webOnNode2 ∧
      runAgent [.roster (.leave "node-2"), .apply (oneRun 1) [.deployment webApp]] webOnNode2 = .ok webReapplied ∧
      webReapplied.cluster.getNode "node-2" = .error "node node-2 not found" ∧
      Scheduler.Keeps webOnNode2.scheduler webReapplied.scheduler ∧
      ∀ r, webOnNode2.scheduler.heap.length ≤ r → r < webReapplied.scheduler.heap.length →
        (webReapplied.scheduler.deref r).nodeName ≠ "node-2" :=
  have hj : ∀ addr, AgentEvent.roster (.join "node-2" addr) ∉ [AgentEvent.apply (oneRun 1) [.deployment webApp]] :=
    fun _ h => by simp at h
  ⟨by decide, hj, rfl, rfl,
    departed_node_strands_its_pods Cluster.soloConfig [.join "node-2" "10.0.0.2"] .absent true
      [.apply (oneRun 1) [.deployment webApp]] [.apply (oneRun 1) [.deployment webApp]] (by decide) hj rfl rfl⟩

end Agent

end PodmanSwarm
