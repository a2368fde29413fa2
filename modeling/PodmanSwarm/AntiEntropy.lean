import PodmanSwarm.Storage

/-!
# Anti-entropy across the cluster

Every node runs a `Storage`. Nodes mutate their own store, broadcast snapshots
(`BroadcastState`, every 30 s) and merge the snapshots they receive
(`HandleStateSyncMessage` → `MergeState`). This module puts any number of
nodes together: `PodmanSwarm.AntiEntropy.Step` is one event of the cluster – a
local save or delete on some node, a broadcast, or the delivery of any snapshot
ever broadcast, to any node, at any later time. Deliveries may be lost,
repeated and reordered, and any write of `state.json` may fail. The wall
clocks of the nodes agree and never run backwards.

## What merging guarantees

The spec's sentence "`state_sync` merges are last-writer-wins per entity" does
not hold: `MergeState` compares the *snapshots'* `LastModified`, so a node
whose last write was to some other key wins every key it carries, including
keys it wrote long before the receiver did
(`PodmanSwarm.AntiEntropy.merge_can_install_older_entry`). What holds is the
snapshot-level rule: a merge replaces an entry only with a snapshot that was
modified strictly after that entry was last saved
(`PodmanSwarm.AntiEntropy.merge_replaces_only_older_entries`).

To say *when an entry was saved* the model carries ghost state: each node
records, beside its three overwrite maps, the time at which each entry was
last saved, and a snapshot carries its sender's record. Merges copy save times
exactly as `MergeState` copies the entries they belong to.
-/

namespace PodmanSwarm

namespace AntiEntropy

/-- The three maps that `MergeState` overwrites key by key. -/
inductive Table
  | deployments
  | services
  | ingresses
  deriving DecidableEq, Repr

/-- The snapshot `c` holds an entry under `k` in the map `T`. -/
def Has (c : ClusterState) : Table → String → Prop
  | .deployments, k => k ∈ c.deployments
  | .services, k => k ∈ c.services
  | .ingresses, k => k ∈ c.ingresses

instance (c : ClusterState) (T : Table) (k : String) : Decidable (Has c T k) :=
  match T with
  | .deployments => inferInstanceAs (Decidable (k ∈ c.deployments))
  | .services => inferInstanceAs (Decidable (k ∈ c.services))
  | .ingresses => inferInstanceAs (Decidable (k ∈ c.ingresses))

/-- An entry of one of the three overwrite maps. -/
inductive Entry
  | deployment (d : Option Deployment)
  | service (v : Option Service)
  | ingress (i : Option Ingress)
  deriving DecidableEq

/-- The entry the snapshot `c` holds under `k` in the map `T`. -/
def entry (c : ClusterState) : Table → String → Option Entry
  | .deployments, k => (c.deployments.lookup k).map .deployment
  | .services, k => (c.services.lookup k).map .service
  | .ingresses, k => (c.ingresses.lookup k).map .ingress

/-- A local mutation of one of the three maps. -/
inductive LocalOp
  | saveDeployment (d : Deployment)
  | saveService (v : Service)
  | saveIngress (i : Ingress)
  | deleteDeployment (ns name : String)
  | deleteService (ns name : String)
  | deleteIngress (ns name : String)

namespace LocalOp

/-- What the operation does to the store, at wall-clock time `now`, with
`persist` meeting `w`. -/
def run (w : Storage.WriteResult) (now : Time) : LocalOp → Storage → Storage
  | saveDeployment d => Storage.saveDeployment w now d
  | saveService v => Storage.saveService w now v
  | saveIngress i => Storage.saveIngress w now i
  | deleteDeployment ns name => Storage.deleteDeployment w now ns name
  | deleteService ns name => Storage.deleteService w now ns name
  | deleteIngress ns name => Storage.deleteIngress w now ns name

/-- The map the operation writes. -/
def table : LocalOp → Table
  | saveDeployment _ | deleteDeployment _ _ => .deployments
  | saveService _ | deleteService _ _ => .services
  | saveIngress _ | deleteIngress _ _ => .ingresses

/-- The key the operation writes. -/
def key : LocalOp → String
  | saveDeployment d => objectKey d.ns d.name
  | saveService v => objectKey v.ns v.name
  | saveIngress i => objectKey i.ns i.name
  | deleteDeployment ns name | deleteService ns name | deleteIngress ns name => objectKey ns name

/-- Whether the operation saves (rather than deletes). -/
def saves : LocalOp → Bool
  | saveDeployment _ | saveService _ | saveIngress _ => true
  | _ => false

@[simp] theorem run_lastModified (w : Storage.WriteResult) (now : Time) (op : LocalOp) (s : Storage) :
    (op.run w now s).lastModified = now := by
  cases op <;> exact Storage.mutate_lastModified _ _ _ _

/-- **What a local operation does to the keys**: it adds or removes its own key
in its own map, and nothing else. -/
theorem has_run (w : Storage.WriteResult) (now : Time) (op : LocalOp) (s : Storage) (T : Table) (k : String) :
    Has (op.run w now s).getState T k ↔
      if T = op.table ∧ k = op.key then op.saves = true else Has s.getState T k := by
  cases op <;> cases T <;>
    simp [run, table, key, saves, Has, Storage.saveDeployment, Storage.saveService,
      Storage.saveIngress, Storage.deleteDeployment, Storage.deleteService,
      Storage.deleteIngress, Storage.mutate, Storage.getState_persist, AList.mem_insert,
      AList.mem_erase] <;> tauto

end LocalOp

/-- A node: its store, and the ghost record of when each entry of its three
overwrite maps was last saved. -/
structure Replica where
  store : Storage
  savedAt : Table → GoMap Time

/-- A `state_sync` message: the sender's snapshot, with the sender's ghost save
times. -/
structure Snapshot where
  state : ClusterState
  savedAt : Table → GoMap Time

/-- The whole cluster: every node (nodes are numbered; a node that never acts
keeps its initial store), every snapshot broadcast so far, and the clock. -/
structure World where
  replicas : Nat → Replica
  sent : List Snapshot
  clock : Time

namespace Replica

/-- A local operation at time `now`, with its ghost save time. -/
def apply (w : Storage.WriteResult) (now : Time) (op : LocalOp) (r : Replica) : Replica where
  store := op.run w now r.store
  savedAt := Function.update r.savedAt op.table
    (if op.saves then (r.savedAt op.table).insert op.key now else (r.savedAt op.table).erase op.key)

/-- `BroadcastState`: the snapshot `GetState` returns, with the ghost record. -/
def snapshot (r : Replica) : Snapshot := ⟨r.store.getState, r.savedAt⟩

/-- The ghost side of a merge: save times travel with the entries `MergeState`
copies. -/
def mergeSavedAt (m : Snapshot) (r : Replica) : Table → GoMap Time :=
  if r.store.lastModified < m.state.lastModified then
    fun T => GoMap.copyInto (m.savedAt T) (r.savedAt T)
  else r.savedAt

end Replica

namespace World

/-- The cluster before anything happened: every store is what `NewStorage`
makes of an empty data directory. -/
def init : World where
  replicas := fun _ => ⟨Storage.newStorage .absent, fun _ => ∅⟩
  sent := []
  clock := 0

end World

/-- One event of the cluster. -/
inductive Step : World → World → Prop
  /-- Node `i` saves or deletes at time `t`; its `persist` meets `d`. -/
  | write (w : World) (i : Nat) (op : LocalOp) (d : Storage.WriteResult) (t : Time) (ht : w.clock ≤ t) :
      Step w { w with
        replicas := Function.update w.replicas i ((w.replicas i).apply d t op)
        clock := t }
  /-- Node `i` broadcasts its snapshot. -/
  | broadcast (w : World) (i : Nat) :
      Step w { w with sent := (w.replicas i).snapshot :: w.sent }
  /-- A snapshot broadcast earlier reaches node `j` at time `t`, which merges it;
  its `persist` meets `d`. -/
  | deliver (w : World) (j : Nat) (m : Snapshot) (hm : m ∈ w.sent) (d : Storage.WriteResult) (t : Time)
      (ht : w.clock ≤ t) (s' : Storage) (hs : (w.replicas j).store.mergeState d t m.state = .ok s') :
      Step w { w with
        replicas := Function.update w.replicas j ⟨s', (w.replicas j).mergeSavedAt m⟩
        clock := t }

/-- The states the cluster can reach. -/
inductive Reachable : World → Prop
  | init : Reachable World.init
  | step {w w' : World} : Reachable w → Step w w' → Reachable w'

/-! ### The invariant -/

/-- A snapshot is *stamped* when its ghost record has a save time for exactly
the entries it holds, none of them after its `LastModified`. -/
structure Snapshot.Stamped (m : Snapshot) : Prop where
  keys : ∀ T k, Has m.state T k ↔ k ∈ m.savedAt T
  le : ∀ T k t, (m.savedAt T).lookup k = some t → t ≤ m.state.lastModified

/-- **The invariant of anti-entropy**: every node and every snapshot in flight is
stamped, and no `LastModified` is ahead of the clock. -/
structure Inv (w : World) : Prop where
  replica : ∀ i, (w.replicas i).snapshot.Stamped
  replica_le : ∀ i, (w.replicas i).store.lastModified ≤ w.clock
  sent : ∀ m ∈ w.sent, m.Stamped
  sent_le : ∀ m ∈ w.sent, m.state.lastModified ≤ w.clock

theorem mem_apply_savedAt (d : Storage.WriteResult) (t : Time) (op : LocalOp) (r : Replica) (T : Table)
    (k : String) :
    k ∈ (r.apply d t op).savedAt T ↔
      if T = op.table ∧ k = op.key then op.saves = true else k ∈ r.savedAt T := by
  by_cases hT : T = op.table
  · subst hT
    cases hsv : op.saves <;> by_cases hk : k = op.key <;>
      simp [Replica.apply, AList.mem_insert, AList.mem_erase, hk, hsv]
  · simp [Replica.apply, Function.update_noteq hT, hT]

theorem lookup_apply_savedAt (d : Storage.WriteResult) (t : Time) (op : LocalOp) (r : Replica) (T : Table)
    (k : String) :
    ((r.apply d t op).savedAt T).lookup k =
      if T = op.table ∧ k = op.key then (if op.saves then some t else none)
      else (r.savedAt T).lookup k := by
  by_cases hT : T = op.table
  · subst hT
    by_cases hk : k = op.key
    · subst hk
      cases hsv : op.saves <;> simp [Replica.apply, hsv, AList.lookup_insert, AList.lookup_erase]
    · cases hsv : op.saves <;>
        simp [Replica.apply, hsv, hk, AList.lookup_insert_ne hk, AList.lookup_erase_ne hk]
  · simp [Replica.apply, Function.update_noteq hT, hT]

/-- A local operation keeps a node stamped. -/
theorem Snapshot.Stamped.apply {r : Replica} (h : r.snapshot.Stamped) (d : Storage.WriteResult) {t : Time}
    (ht : r.store.lastModified ≤ t) (op : LocalOp) : (r.apply d t op).snapshot.Stamped where
  keys T k := by
    show Has (op.run d t r.store).getState T k ↔ k ∈ (r.apply d t op).savedAt T
    rw [LocalOp.has_run, mem_apply_savedAt]
    split_ifs
    · rfl
    · exact h.keys T k
  le T k t' hk := by
    change ((r.apply d t op).savedAt T).lookup k = some t' at hk
    show t' ≤ (op.run d t r.store).lastModified
    rw [lookup_apply_savedAt] at hk
    rw [LocalOp.run_lastModified]
    split_ifs at hk
    · exact (Option.some.inj hk).ge
    · exact (h.le T k t' hk).trans ht

theorem mergeState_eq_of_lt {d : Storage.WriteResult} {now : Time} {c : ClusterState} {s s' : Storage}
    (h : s.mergeState d now c = .ok s') (hlt : s.lastModified < c.lastModified) :
    ∃ pods, s' = Storage.persist d { s with
      deployments := GoMap.copyInto c.deployments s.deployments
      services := GoMap.copyInto c.services s.services
      ingresses := GoMap.copyInto c.ingresses s.ingresses
      pods := pods
      lastModified := now } := by
  rw [Storage.mergeState, if_pos hlt] at h
  rcases hp : Storage.mergePods c.pods s.pods with e | pods
  · rw [hp] at h
    cases h
  · rw [hp] at h
    exact ⟨pods, (Except.ok.inj h).symm⟩

/-- A merge keeps the receiving node stamped. -/
theorem Snapshot.Stamped.merge {r : Replica} {m : Snapshot} (hr : r.snapshot.Stamped) (hm : m.Stamped)
    {d : Storage.WriteResult} {t : Time} (hrt : r.store.lastModified ≤ t) (hmt : m.state.lastModified ≤ t)
    {s' : Storage} (hs : r.store.mergeState d t m.state = .ok s') :
    (⟨s', r.mergeSavedAt m⟩ : Replica).snapshot.Stamped := by
  by_cases hlt : r.store.lastModified < m.state.lastModified
  · obtain ⟨pods, rfl⟩ := mergeState_eq_of_lt hs hlt
    refine ⟨fun T k => ?_, fun T k t' hk => ?_⟩
    · have := hm.keys T k
      have := hr.keys T k
      cases T <;> simp_all [Replica.snapshot, Replica.mergeSavedAt, Has, Storage.getState,
        Storage.getState_persist, GoMap.mem_copyInto]
    · simp only [Replica.snapshot, Replica.mergeSavedAt, if_pos hlt, GoMap.lookup_copyInto] at hk
      simp only [Replica.snapshot, Storage.getState_lastModified, Storage.lastModified_persist]
      rcases hk' : (m.savedAt T).lookup k with _ | t''
      · rw [hk', Option.none_or] at hk
        exact (hr.le T k t' hk).trans hrt
      · rw [hk'] at hk
        obtain rfl : t'' = t' := Option.some.inj hk
        exact (hm.le T k t'' hk').trans hmt
  · rw [Storage.mergeState_of_le (not_lt.mp hlt)] at hs
    cases hs
    simpa [Replica.mergeSavedAt, hlt] using hr

theorem inv_init : Inv World.init where
  replica _ := ⟨fun T k => by cases T <;> simp [Has, Replica.snapshot, Storage.getState,
    World.init, Storage.newStorage, AList.not_mem_empty], fun T k t h => by simp [World.init, Replica.snapshot] at h⟩
  replica_le _ := le_rfl
  sent _ h := by simp [World.init] at h
  sent_le _ h := by simp [World.init] at h

/-- **Every event keeps the invariant.** -/
theorem Inv.step {w w' : World} (hi : Inv w) (hs : Step w w') : Inv w' := by
  cases hs with
  | write i op d t ht =>
    refine ⟨fun i' => ?_, fun i' => ?_, hi.sent, fun m hm => (hi.sent_le m hm).trans ht⟩
    · by_cases h : i' = i
      · subst h
        simpa using (hi.replica i').apply d ((hi.replica_le i').trans ht) op
      · simpa [Function.update_noteq h] using hi.replica i'
    · by_cases h : i' = i
      · subst h
        simp [Replica.apply]
      · simpa [Function.update_noteq h] using (hi.replica_le i').trans ht
  | broadcast i =>
    refine ⟨hi.replica, hi.replica_le, fun m hm => ?_, fun m hm => ?_⟩
    · rcases List.mem_cons.mp hm with rfl | hm
      · exact hi.replica i
      · exact hi.sent m hm
    · rcases List.mem_cons.mp hm with rfl | hm
      · exact hi.replica_le i
      · exact hi.sent_le m hm
  | deliver j m hm d t ht s' hs =>
    refine ⟨fun i' => ?_, fun i' => ?_, hi.sent, fun m hm => (hi.sent_le m hm).trans ht⟩
    · by_cases h : i' = j
      · subst h
        simpa using (hi.replica i').merge (hi.sent m hm) ((hi.replica_le i').trans ht)
          ((hi.sent_le m hm).trans ht) hs
      · simpa [Function.update_noteq h] using hi.replica i'
    · by_cases h : i' = j
      · subst h
        simp only [Function.update_same]
        by_cases hlt : (w.replicas i').store.lastModified < m.state.lastModified
        · obtain ⟨pods, rfl⟩ := mergeState_eq_of_lt hs hlt
          exact (Storage.lastModified_persist _ _).le
        · rw [Storage.mergeState_of_le (not_lt.mp hlt)] at hs
          cases hs
          exact (hi.replica_le i').trans ht
      · simpa [Function.update_noteq h] using (hi.replica_le i').trans ht

theorem Reachable.inv {w : World} (h : Reachable w) : Inv w := by
  induction h with
  | init => exact inv_init
  | step _ hs ih => exact ih.step hs

/-! ### Last writer wins, snapshot by snapshot -/

/-- **Merges replace only entries older than the snapshot.** In every reachable
state of the cluster, every entry a node holds in its deployment, service or
ingress map has a last save time `g`, and merging any snapshot `c` at any time
changes that entry only if `c` was modified strictly after `g`. -/
theorem merge_replaces_only_older_entries {w : World} (hw : Reachable w) (j : Nat) (T : Table)
    (k : String) (hk : Has (w.replicas j).store.getState T k) :
    ∃ g, ((w.replicas j).savedAt T).lookup k = some g ∧
      ∀ (c : ClusterState) d t s', (w.replicas j).store.mergeState d t c = .ok s' →
        entry s'.getState T k ≠ entry (w.replicas j).store.getState T k →
        g < c.lastModified := by
  have hi := hw.inv
  obtain ⟨g, hg⟩ := Option.isSome_iff_exists.mp
    (AList.lookup_isSome.mpr (((hi.replica j).keys T k).mp hk))
  refine ⟨g, hg, fun c d t s' hs hne => lt_of_not_le fun hle => hne ?_⟩
  have hlm : c.lastModified ≤ (w.replicas j).store.lastModified :=
    hle.trans ((hi.replica j).le T k g hg)
  rw [Storage.mergeState_of_le hlm] at hs
  cases hs
  rfl

/-! ### A merge that brings back an older write

Node 0 saves `default/web`, node 1 saves its own `default/web` later, then
node 0 saves an unrelated deployment. Node 0's snapshot is now the newer one,
and node 1's merge of it puts node 0's older `default/web` back. -/

/-- A deployment `default/web` with `r` replicas. -/
def webAt (r : Int) : Deployment := ⟨"web", "default", r, r, [], ⟨∅, ∅⟩⟩

/-- The run: node 0 writes at time 1 and 3, node 1 at time 2, node 0 broadcasts. -/
def revertRun : World :=
  let w1 : World := { World.init with
    replicas := Function.update World.init.replicas 0
      ((World.init.replicas 0).apply .ok 1 (.saveDeployment (webAt 1))), clock := 1 }
  let w2 : World := { w1 with
    replicas := Function.update w1.replicas 1 ((w1.replicas 1).apply .ok 2 (.saveDeployment (webAt 2))),
    clock := 2 }
  let w3 : World := { w2 with
    replicas := Function.update w2.replicas 0
      ((w2.replicas 0).apply .ok 3 (.saveDeployment ⟨"db", "default", 1, 1, [], ⟨∅, ∅⟩⟩)),
    clock := 3 }
  { w3 with sent := (w3.replicas 0).snapshot :: w3.sent }

theorem revertRun_reachable : Reachable revertRun :=
  .step (.step (.step (.step .init (.write _ 0 _ _ 1 (by decide))) (.write _ 1 _ _ 2 (by decide)))
    (.write _ 0 _ _ 3 (by decide))) (.broadcast _ 0)

/-- Node 1's `default/web`, saved at time 2, can only be replaced by a snapshot
modified after time 2. -/
theorem revertRun_web_saved_at_two :
    ((revertRun.replicas 1).savedAt .deployments).lookup "default/web" = some 2 ∧
    ∃ g, ((revertRun.replicas 1).savedAt .deployments).lookup "default/web" = some g ∧
      ∀ (c : ClusterState) d t s', (revertRun.replicas 1).store.mergeState d t c = .ok s' →
        entry s'.getState .deployments "default/web" ≠
          entry (revertRun.replicas 1).store.getState .deployments "default/web" →
        g < c.lastModified :=
  ⟨by decide, merge_replaces_only_older_entries revertRun_reachable 1 .deployments "default/web"
    (by decide)⟩

/-- **Merging is not last-writer-wins per entity.** A reachable state, a snapshot
in flight and a node whose merge of it replaces its entry saved at time 2 with
one saved at time 1. -/
theorem merge_can_install_older_entry :
    ¬ ∀ w, Reachable w → ∀ m ∈ w.sent, ∀ j T k g g' d t s',
      ((w.replicas j).savedAt T).lookup k = some g → (m.savedAt T).lookup k = some g' →
      (w.replicas j).store.mergeState d t m.state = .ok s' →
      entry s'.getState T k ≠ entry (w.replicas j).store.getState T k → g ≤ g' := by
  intro h
  have := h revertRun revertRun_reachable _ (List.mem_cons_self _ _) 1 .deployments
    "default/web" 2 1 .ok 4 _ rfl rfl rfl (by decide)
  exact absurd this (by decide)

end AntiEntropy

end PodmanSwarm
