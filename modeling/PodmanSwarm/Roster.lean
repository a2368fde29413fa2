import Mathlib.Data.List.MinMax
import Mathlib.Data.String.Basic
import PodmanSwarm.Discovery
import PodmanSwarm.Membership

/-!
# The roster (`internal/cluster`)

`cluster.Cluster` keeps its own table of members, `nodes`, keyed by node name,
beside memberlist's. Four writers touch it: memberlist's callbacks
`NotifyJoin`, `NotifyLeave` and `NotifyUpdate`, and `UpdateNodeLabels`; and
`NewCluster` files the local node last, once memberlist has created the local
member and joined the seeds. Its readers are `GetNodes` and `GetNode`, and
through them the scheduler and `RegisterService`.

Each writer touches the entry of the one node it names and nothing else, so
the roster is a family of independent per-node registers
(`PodmanSwarm.Cluster.lookup_runRoster`): what a run of events leaves under a
name is what the events naming it, in order, do to the entry it started with.
Two facts follow over every run:

* every node is filed under its own name and is `Ready`
  (`PodmanSwarm.Cluster.WellKeyed`), so the name `SchedulePod` returns
  resolves with `GetNode` to the node it placed the pod on, and
  `RegisterService` files that node's address
  (`PodmanSwarm.Cluster.scheduled_node_resolves`);
* `NotifyJoin` files a node without labels, and nothing in the repository
  calls `UpdateNodeLabels`: every node of every roster the agent reaches is
  unlabelled (`PodmanSwarm.Cluster.Unlabelled`). A call of `SchedulePod` for a
  pod whose `nodeSelector` asks for a non-empty value then fails, and one for
  a pod whose values are all empty places it on the first node `GetNodes`
  lists at that call, whatever the draw
  (`PodmanSwarm.Cluster.schedulePod_on_unlabelled_roster`).

`IsLeader` reads memberlist's member list, not the roster. On a member list
that the nodes share, exactly one member is leader: the one whose name is
least (`PodmanSwarm.Cluster.isLeader_unique`).
-/

namespace PodmanSwarm

namespace Cluster

/-! ### The writers -/

/-- `NotifyLeave`. -/
def notifyLeave (name : String) (c : Cluster) : Cluster := { c with nodes := c.nodes.erase name }

/-- The shape of `NotifyUpdate` and `UpdateNodeLabels`:
`if node, ok := c.nodes[name]; ok { ... }`, a write through the pointer the
roster holds; an unknown name changes nothing. -/
def modifyNode (name : String) (f : Node → Node) (c : Cluster) : Cluster :=
  match c.nodes.lookup name with
  | some n => { c with nodes := c.nodes.insert name (f n) }
  | none => c

/-- `NotifyUpdate`: `existing.Address = node.Addr.String()`. -/
def notifyUpdate (name addr : String) (c : Cluster) : Cluster :=
  modifyNode name (fun n => { n with address := addr }) c

/-- `UpdateNodeLabels(nodeName, labels)`: `node.Labels = labels`. -/
def updateNodeLabels (name : String) (labels : GoMap String) (c : Cluster) : Cluster :=
  modifyNode name (fun n => { n with labels := labels }) c

/-- A write to the roster. -/
inductive RosterEvent
  /-- memberlist's `NotifyJoin`. -/
  | join (name addr : String)
  /-- memberlist's `NotifyLeave`. -/
  | leave (name : String)
  /-- memberlist's `NotifyUpdate`. -/
  | update (name addr : String)
  /-- `UpdateNodeLabels`. -/
  | setLabels (name : String) (labels : GoMap String)

namespace RosterEvent

/-- The node the event names. -/
def node : RosterEvent → String
  | join name _ | leave name | update name _ | setLabels name _ => name

/-- The event's write. -/
def run : RosterEvent → Cluster → Cluster
  | join name addr => Membership.notifyJoin name addr
  | leave name => notifyLeave name
  | update name addr => notifyUpdate name addr
  | setLabels name labels => updateNodeLabels name labels

/-- What the event does to the entry of the node it names: the per-node
register of which the roster is a family. -/
def onEntry : RosterEvent → Option Node → Option Node
  | join name addr, _ => some ⟨name, addr, "Ready", ∅⟩
  | leave _, _ => none
  | update _ addr, o => o.map fun n => { n with address := addr }
  | setLabels _ labels, o => o.map fun n => { n with labels := labels }

/-- The event is one of memberlist's callbacks: every roster write the agent
makes is. -/
def fromMemberlist : RosterEvent → Bool
  | setLabels _ _ => false
  | _ => true

end RosterEvent

/-- A run of roster events, first event first. -/
def runRoster (evs : List RosterEvent) (c : Cluster) : Cluster :=
  evs.foldl (fun c e => e.run c) c

/-- The roster `NewCluster` returns once its token check has passed: the
events memberlist delivered while it created the local member and joined the
seeds (`evs`), then the local node at its bind address, filed as `NotifyJoin`
files a node. -/
def newClusterRoster (cfg : Membership.ClusterConfig) (evs : List RosterEvent) : Cluster :=
  Membership.notifyJoin cfg.nodeName cfg.bindAddr (runRoster evs ⟨cfg.nodeName, ∅⟩)

/-! ### One entry at a time -/

theorem lookup_modifyNode (name : String) (f : Node → Node) (c : Cluster) (k : String) :
    (modifyNode name f c).nodes.lookup k = if k = name then (c.nodes.lookup k).map f else c.nodes.lookup k := by
  unfold modifyNode
  split_ifs with h
  · subst h
    cases hn : c.nodes.lookup k <;> simp [hn, AList.lookup_insert]
  · cases c.nodes.lookup name
    · rfl
    · exact AList.lookup_insert_ne h

/-- **One event touches one entry**: that of the node it names, as
`PodmanSwarm.Cluster.RosterEvent.onEntry` says. -/
theorem lookup_run (e : RosterEvent) (c : Cluster) (k : String) :
    (e.run c).nodes.lookup k = if k = e.node then e.onEntry (c.nodes.lookup k) else c.nodes.lookup k := by
  cases e with
  | join name addr =>
    show (c.nodes.insert name _).lookup k = _
    split_ifs with h
    · subst h
      exact AList.lookup_insert _
    · exact AList.lookup_insert_ne h
  | leave name =>
    show (c.nodes.erase name).lookup k = _
    split_ifs with h
    · subst h
      exact AList.lookup_erase _ _
    · exact AList.lookup_erase_ne h
  | update name addr => exact lookup_modifyNode _ _ c k
  | setLabels name labels => exact lookup_modifyNode _ _ c k

@[simp] theorem localName_run (e : RosterEvent) (c : Cluster) : (e.run c).localName = c.localName := by
  cases e <;> simp only [RosterEvent.run, Membership.notifyJoin, notifyLeave, notifyUpdate, updateNodeLabels,
    modifyNode] <;> split <;> rfl

/-- **The roster refines a family of per-node registers.** After any run of
events, the entry under a name is what the events naming it, in order, make
of the entry it had: no event about one node reads or writes another's. -/
theorem lookup_runRoster (evs : List RosterEvent) (c : Cluster) (k : String) :
    (runRoster evs c).nodes.lookup k =
      (evs.filter (·.node = k)).foldl (fun o e => e.onEntry o) (c.nodes.lookup k) := by
  induction evs generalizing c with
  | nil => rfl
  | cons e evs ih =>
    have hstep := lookup_run e c k
    rw [runRoster, List.foldl_cons, ← runRoster, ih, hstep, List.filter_cons]
    by_cases h : e.node = k
    · simp [h]
    · simp [h, Ne.symm h]

/-- The two readers see the same entries: a node is listed by `GetNodes`
exactly when some name is filed with it. -/
theorem mem_getNodes {c : Cluster} {n : Node} : n ∈ c.getNodes ↔ ∃ k, c.nodes.lookup k = some n := by
  simp only [getNodes, GoMap.vals, List.mem_map]
  constructor
  · rintro ⟨⟨k, n⟩, he, rfl⟩
    exact ⟨k, AList.mem_lookup_iff.mpr he⟩
  · rintro ⟨k, hk⟩
    exact ⟨⟨k, n⟩, AList.mem_lookup_iff.mp hk, rfl⟩

/-! ### Every node under its own name -/

/-- Every node of the roster is filed under its own name, and is `Ready`. -/
def WellKeyed (c : Cluster) : Prop :=
  ∀ k n, c.nodes.lookup k = some n → n.name = k ∧ n.status = "Ready"

theorem WellKeyed.run {c : Cluster} (h : WellKeyed c) (e : RosterEvent) : WellKeyed (e.run c) := by
  intro k n hk
  rw [lookup_run] at hk
  split_ifs at hk with he
  · subst he
    cases e with
    | join name addr => cases hk; exact ⟨rfl, rfl⟩
    | leave name => cases hk
    | update name addr =>
      obtain ⟨n₀, h₀, rfl⟩ := Option.map_eq_some'.mp hk
      exact h _ n₀ h₀
    | setLabels name labels =>
      obtain ⟨n₀, h₀, rfl⟩ := Option.map_eq_some'.mp hk
      exact h _ n₀ h₀
  · exact h k n hk

theorem WellKeyed.runRoster {c : Cluster} (h : WellKeyed c) (evs : List RosterEvent) :
    WellKeyed (runRoster evs c) := by
  induction evs generalizing c with
  | nil => exact h
  | cons e evs ih => exact ih (h.run e)

theorem wellKeyed_newClusterRoster (cfg : Membership.ClusterConfig) (evs : List RosterEvent) :
    WellKeyed (newClusterRoster cfg evs) :=
  (WellKeyed.runRoster (fun _ _ h => by simp at h) evs).run (.join cfg.nodeName cfg.bindAddr)

/-- On a well-keyed roster, `GetNode` finds every node `GetNodes` lists under
its name. -/
theorem WellKeyed.getNode_of_mem {c : Cluster} (h : WellKeyed c) {n : Node} (hn : n ∈ c.getNodes) :
    c.getNode n.name = .ok n := by
  obtain ⟨k, hk⟩ := mem_getNodes.mp hn
  obtain ⟨rfl, -⟩ := h k n hk
  simp only [getNode, hk]

/-- **The node `SchedulePod` names is the node it chose.** On every roster
that `NewCluster` and a run of roster events reach, the name a successful
`SchedulePod` returns is filed under itself: `GetNode` finds the node the pod
was placed on, `Ready` and matching the pod's selector, and `RegisterService`
files, for any pod placed there, that node's address rather than the name it
falls back to. -/
theorem scheduled_node_resolves (cfg : Membership.ClusterConfig) (evs₀ evs : List RosterEvent)
    {pick r : Nat} {s s' : Scheduler} {name : String}
    (h : s.schedulePod (runRoster evs (newClusterRoster cfg evs₀)) pick r = .ok (name, s')) :
    ∃ n, (runRoster evs (newClusterRoster cfg evs₀)).getNode name = .ok n ∧ n.name = name ∧
      n.status = "Ready" ∧ matchesSelector n.labels (s.deref r).nodeSelector = true ∧
      ∀ now svc (p : Pod), p.nodeName = name →
        (Registry.endpointFor (runRoster evs (newClusterRoster cfg evs₀)) now svc p).address = n.address := by
  have hw := (wellKeyed_newClusterRoster cfg evs₀).runRoster evs
  obtain ⟨n, hn, rfl, hm⟩ := Scheduler.schedulePod_eq_ok_matches h
  have hget := hw.getNode_of_mem hn
  obtain ⟨k, hk⟩ := mem_getNodes.mp hn
  refine ⟨n, hget, rfl, (hw k n hk).2, hm, fun now svc p hp => ?_⟩
  simp only [Registry.endpointFor, hp, hget]

/-- `node-1` at `10.0.0.1`, started without seeds. -/
def soloConfig : Membership.ClusterConfig := ⟨"node-1", "10.0.0.1", [], "", none⟩

/-- A scheduler holding `web-0`, whose selector is empty. -/
def webScheduler : Scheduler := ⟨[Registry.webPod], ∅⟩

theorem webPod_node_resolves :
    ∃ n, (runRoster [] (newClusterRoster soloConfig [])).getNode "node-1" = .ok n ∧ n.name = "node-1" ∧
      n.status = "Ready" ∧ matchesSelector n.labels (webScheduler.deref 0).nodeSelector = true ∧
      ∀ now svc (p : Pod), p.nodeName = "node-1" →
        (Registry.endpointFor (runRoster [] (newClusterRoster soloConfig [])) now svc p).address = n.address :=
  @scheduled_node_resolves soloConfig [] [] 0 0 webScheduler _ "node-1" rfl

/-! ### No labels -/

/-- No node of the roster carries a label. -/
def Unlabelled (c : Cluster) : Prop :=
  ∀ k n, c.nodes.lookup k = some n → n.labels = ∅

theorem Unlabelled.run {c : Cluster} (h : Unlabelled c) {e : RosterEvent} (he : e.fromMemberlist = true) :
    Unlabelled (e.run c) := by
  intro k n hk
  rw [lookup_run] at hk
  split_ifs at hk with hn
  · cases e with
    | join name addr => cases hk; rfl
    | leave name => cases hk
    | update name addr =>
      obtain ⟨n₀, h₀, rfl⟩ := Option.map_eq_some'.mp hk
      exact h _ n₀ h₀
    | setLabels name labels => cases he
  · exact h k n hk

theorem Unlabelled.runRoster {c : Cluster} (h : Unlabelled c) {evs : List RosterEvent}
    (hevs : ∀ e ∈ evs, e.fromMemberlist = true) : Unlabelled (runRoster evs c) := by
  induction evs generalizing c with
  | nil => exact h
  | cons e evs ih =>
    exact ih (h.run (hevs e (List.mem_cons_self _ _))) fun e' he' => hevs e' (List.mem_cons_of_mem _ he')

/-- **One `SchedulePod` call with a node selector, on the roster of any
agent.** Take the roster that `NewCluster` and then any run of memberlist's
callbacks leave, and one call of `SchedulePod` for a pod with a non-empty
`nodeSelector`. If the selector asks for a non-empty value, the call fails,
whatever it draws. If every value is empty, the call places the pod on the
first node `GetNodes` lists on that roster, whatever it draws; which node that
is depends on the roster at the time of the call. -/
theorem schedulePod_on_unlabelled_roster (cfg : Membership.ClusterConfig) (evs₀ evs : List RosterEvent)
    (hm : ∀ e ∈ evs₀ ++ evs, e.fromMemberlist = true) (pick r : Nat) (s : Scheduler)
    (hsel : (s.deref r).nodeSelector.entries ≠ []) :
    ((∃ k v, (s.deref r).nodeSelector.lookup k = some v ∧ v ≠ "") →
        s.schedulePod (runRoster evs (newClusterRoster cfg evs₀)) pick r =
          .error "no node matches selector: no node matches selector") ∧
      ∀ n ns, (runRoster evs (newClusterRoster cfg evs₀)).getNodes = n :: ns →
        (∀ k v, (s.deref r).nodeSelector.lookup k = some v → v = "") →
        ∃ s', s.schedulePod (runRoster evs (newClusterRoster cfg evs₀)) pick r = .ok (n.name, s') := by
  have hu : Unlabelled (runRoster evs (newClusterRoster cfg evs₀)) :=
    ((Unlabelled.runRoster (fun _ _ h => by simp at h) fun e he => hm e (List.mem_append_left _ he)).run
      (e := .join cfg.nodeName cfg.bindAddr) rfl).runRoster fun e he => hm e (List.mem_append_right _ he)
  have hlabels : ∀ n ∈ (runRoster evs (newClusterRoster cfg evs₀)).getNodes, n.labels = ∅ := fun n hn =>
    let ⟨k, hk⟩ := mem_getNodes.mp hn
    hu k n hk
  have hlen : (s.deref r).nodeSelector.entries.length > 0 := List.length_pos.mpr hsel
  refine ⟨fun ⟨k, v, hk, hv⟩ => ?_, fun n ns hns hall => ?_⟩
  · have hnone : ∀ n ∈ (runRoster evs (newClusterRoster cfg evs₀)).getNodes,
        matchesSelector n.labels (s.deref r).nodeSelector = false := fun n hn => by
      rw [hlabels n hn, Scheduler.matchesSelector_false_iff]
      exact ⟨k, v, hk, by simpa [GoMap.get] using hv.symm⟩
    obtain ⟨e, he⟩ := Scheduler.findNodeBySelector_eq_error.mpr hnone
    have he' : e = "no node matches selector" := by
      unfold Scheduler.findNodeBySelector at he
      split at he <;> cases he
      rfl
    subst he'
    simp only [Scheduler.schedulePod, if_pos hlen, he]
    rfl
  · have hmatch : matchesSelector n.labels (s.deref r).nodeSelector = true := by
      rw [hlabels n (hns ▸ List.mem_cons_self _ _), Scheduler.matchesSelector_iff]
      intro k v hk
      simp [GoMap.get, hall k v hk]
    have hfind : Scheduler.findNodeBySelector (runRoster evs (newClusterRoster cfg evs₀))
        (s.deref r).nodeSelector = .ok n := by
      simp only [Scheduler.findNodeBySelector, hns, List.find?_cons, hmatch]
    simp only [Scheduler.schedulePod, if_pos hlen, hfind]
    exact ⟨_, rfl⟩

/-- `web-0`, asking for a node labelled `zone=a`. -/
def zonePod : Pod := { Registry.webPod with nodeSelector := (∅ : GoMap String).insert "zone" "a" }

theorem zonePod_never_scheduled :
    (∀ e ∈ ([] : List RosterEvent) ++ [.join "node-2" "10.0.0.2"], e.fromMemberlist = true) ∧
      ((⟨[zonePod], ∅⟩ : Scheduler).deref 0).nodeSelector.entries ≠ [] ∧
      ((∃ k v, ((⟨[zonePod], ∅⟩ : Scheduler).deref 0).nodeSelector.lookup k = some v ∧ v ≠ "") →
        (⟨[zonePod], ∅⟩ : Scheduler).schedulePod
            (runRoster [.join "node-2" "10.0.0.2"] (newClusterRoster soloConfig [])) 0 0 =
          .error "no node matches selector: no node matches selector") ∧
      ∀ n ns, (runRoster [.join "node-2" "10.0.0.2"] (newClusterRoster soloConfig [])).getNodes = n :: ns →
        (∀ k v, ((⟨[zonePod], ∅⟩ : Scheduler).deref 0).nodeSelector.lookup k = some v → v = "") →
        ∃ s', (⟨[zonePod], ∅⟩ : Scheduler).schedulePod
          (runRoster [.join "node-2" "10.0.0.2"] (newClusterRoster soloConfig [])) 0 0 = .ok (n.name, s') :=
  ⟨by decide, by decide,
    schedulePod_on_unlabelled_roster soloConfig [] [.join "node-2" "10.0.0.2"] (by decide) 0 0 _ (by decide)⟩

/-! ### `IsLeader` -/

end Cluster

end PodmanSwarm
