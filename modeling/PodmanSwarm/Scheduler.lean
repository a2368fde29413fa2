import PodmanSwarm.Types

/-!
# The scheduler (`internal/scheduler`)

`scheduler.Scheduler` keeps one table, `pods`, from a pod ID to the pod. The
pods themselves are heap objects that the API, the deployment records and the
scheduler all point to, and each of them writes to them: `SchedulePod` sets
`NodeName`, `UpdatePodState` sets `State`, and the API rewrites `ID` once the
runtime has created the container. The model makes the sharing explicit: the
agent's pods live in `PodmanSwarm.Scheduler.heap`, a `*types.Pod` is a position
in it, and the table maps an ID to a position.

Placement is random. `SchedulePod` draws `rand.Intn(len(nodes))` over the
roster in the order `GetNodes` lists it; the model takes the draw as an
argument `pick`, and `pick % len(nodes)` ranges over exactly the indices the
draw ranges over, so a statement for every `pick` is a statement for every
outcome of the draw.

The fact the workload modules rest on is the scheduler's **keying**: the table
files a pod under the ID the pod has *when it is scheduled*
(`PodmanSwarm.Scheduler.schedulePod_eq_ok`), and `UpdatePodState` and
`RemovePod` find it under that key only.
-/

namespace PodmanSwarm

/-- `api.matchesSelector`: every key of the selector carries the same value in
the labels, a missing label reading as `""`. `findNodeBySelector` makes the
same test against a node's labels. -/
def matchesSelector (labels selector : GoMap String) : Bool :=
  selector.entries.all fun e => labels.get e.1 "" == e.2

/-- The part of `cluster.Cluster` the modelled code reads: the local node's
name and the roster, keyed by node name. -/
structure Cluster where
  localName : String
  nodes : GoMap Node

namespace Cluster

/-- `GetNodes`. -/
def getNodes (c : Cluster) : List Node := c.nodes.vals

/-- `GetNode`. -/
def getNode (c : Cluster) (name : String) : Except String Node :=
  match c.nodes.lookup name with
  | some n => .ok n
  | none => .error ("node " ++ name ++ " not found")

end Cluster

/-- `scheduler.Scheduler`, with the heap its pointers point into. -/
structure Scheduler where
  /-- The agent's pods; a `*types.Pod` is a position in this list. -/
  heap : List Pod
  /-- `pods`: pod ID to pointer. -/
  pods : GoMap Nat

namespace Scheduler

/-- `*p`. Every pointer the agent holds was returned by
`PodmanSwarm.Scheduler.alloc`, so the default is never read. -/
def deref (s : Scheduler) (r : Nat) : Pod := s.heap.getD r default

/-- `&types.Pod{...}`: a new pod on the heap, and its pointer. -/
def alloc (p : Pod) (s : Scheduler) : Nat × Scheduler :=
  (s.heap.length, { s with heap := s.heap ++ [p] })

/-- A write through the pointer `r`. -/
def write (r : Nat) (f : Pod → Pod) (s : Scheduler) : Scheduler :=
  { s with heap := s.heap.modify f r }

/-- `findNodeBySelector`: the first node of the roster whose labels match. -/
def findNodeBySelector (c : Cluster) (selector : GoMap String) : Except String Node :=
  match c.getNodes.find? fun n => matchesSelector n.labels selector with
  | some n => .ok n
  | none => .error "no node matches selector"

/-- `SchedulePod(pod)`, where `pick` is the value `rand.Intn(len(nodes))`
draws. The pod is filed under the ID it has now. -/
def schedulePod (c : Cluster) (pick : Nat) (r : Nat) (s : Scheduler) :
    Except String (String × Scheduler) :=
  let pod := s.deref r
  let place (n : Node) : String × Scheduler :=
    (n.name, { s.write r (fun p => { p with nodeName := n.name }) with pods := s.pods.insert pod.id r })
  if pod.nodeSelector.entries.length > 0 then
    match findNodeBySelector c pod.nodeSelector with
    | .ok n => .ok (place n)
    | .error e => .error ("no node matches selector: " ++ e)
  else
    match c.getNodes with
    | [] => .error "no nodes available"
    | n :: ns => .ok (place ((n :: ns).get ⟨pick % (ns.length + 1), Nat.mod_lt _ ns.length.succ_pos⟩))

/-- `GetPod`. -/
def getPod (id : String) (s : Scheduler) : Except String Pod :=
  match s.pods.lookup id with
  | some r => .ok (s.deref r)
  | none => .error ("pod " ++ id ++ " not found")

/-- `RemovePod`. -/
def removePod (id : String) (s : Scheduler) : Scheduler := { s with pods := s.pods.erase id }

/-- `GetAllPods`. -/
def getAllPods (s : Scheduler) : List Pod := s.pods.vals.map s.deref

/-- `UpdatePodState`. -/
def updatePodState (id : String) (state : PodState) (s : Scheduler) : Except String Scheduler :=
  match s.pods.lookup id with
  | some r => .ok (s.write r fun p => { p with state := state })
  | none => .error ("pod " ++ id ++ " not found")

/-! ### The heap -/

@[simp] theorem alloc_fst (p : Pod) (s : Scheduler) : (s.alloc p).1 = s.heap.length := rfl

@[simp] theorem alloc_pods (p : Pod) (s : Scheduler) : (s.alloc p).2.pods = s.pods := rfl

@[simp] theorem write_pods (r : Nat) (f : Pod → Pod) (s : Scheduler) :
    (s.write r f).pods = s.pods := rfl

@[simp] theorem removePod_heap (id : String) (s : Scheduler) : (s.removePod id).heap = s.heap := rfl

@[simp] theorem length_alloc (p : Pod) (s : Scheduler) :
    (s.alloc p).2.heap.length = s.heap.length + 1 := by
  simp [alloc]

@[simp] theorem length_write (r : Nat) (f : Pod → Pod) (s : Scheduler) :
    (s.write r f).heap.length = s.heap.length := by
  simp [write]

theorem deref_alloc_self (p : Pod) (s : Scheduler) : (s.alloc p).2.deref s.heap.length = p := by
  simp [alloc, deref, List.getD_eq_getElem?_getD]

theorem deref_alloc_of_lt (p : Pod) (s : Scheduler) {r : Nat} (h : r < s.heap.length) :
    (s.alloc p).2.deref r = s.deref r := by
  simp [alloc, deref, List.getD_eq_getElem?_getD, List.getElem?_append_left h]

theorem deref_write_self (f : Pod → Pod) (s : Scheduler) {r : Nat} (h : r < s.heap.length) :
    (s.write r f).deref r = f (s.deref r) := by
  simp [write, deref, List.getD_eq_getElem?_getD, List.getElem?_eq_getElem h]

theorem deref_write_ne (f : Pod → Pod) (s : Scheduler) {r r' : Nat} (h : r ≠ r') :
    (s.write r f).deref r' = s.deref r' := by
  simp only [write, deref, List.getD_eq_getElem?_getD, List.getElem?_modify, if_neg h]
  cases s.heap[r']? <;> rfl

/-! ### Scheduling -/

/-- **What `matchesSelector` tests**: every key of the selector reads its
value in the labels, a missing label reading as `""`. -/
theorem matchesSelector_iff {labels selector : GoMap String} :
    matchesSelector labels selector = true ↔ ∀ k v, selector.lookup k = some v → labels.get k "" = v := by
  simp only [matchesSelector, List.all_eq_true, beq_iff_eq]
  constructor
  · exact fun h k v hk => h ⟨k, v⟩ (AList.mem_lookup_iff.mp hk)
  · exact fun h e he => h e.1 e.2 (AList.mem_lookup_iff.mpr he)

theorem findNodeBySelector_eq_error {c : Cluster} {selector : GoMap String} :
    (∃ e, findNodeBySelector c selector = .error e) ↔ ∀ n ∈ c.getNodes, matchesSelector n.labels selector = false := by
  unfold findNodeBySelector
  split
  · next n hn =>
    simp only [reduceCtorEq, exists_false, false_iff, not_forall, Bool.not_eq_false]
    exact ⟨n, List.mem_of_find?_eq_some hn, by simpa using List.find?_some hn⟩
  · next hn => exact iff_of_true ⟨_, rfl⟩ (by simpa using List.find?_eq_none.mp hn)

theorem findNodeBySelector_eq_ok {c : Cluster} {selector : GoMap String} {n : Node}
    (h : findNodeBySelector c selector = .ok n) :
    n ∈ c.getNodes ∧ matchesSelector n.labels selector := by
  unfold findNodeBySelector at h
  split at h
  · next n' hn =>
    cases h
    exact ⟨List.mem_of_find?_eq_some hn, by simpa using List.find?_some hn⟩
  · cases h

/-- **What `SchedulePod` does when it succeeds**: it picks a node of the
roster, writes its name into the pod, and files the pod under the ID it has. -/
theorem schedulePod_eq_ok {c : Cluster} {pick r : Nat} {s s' : Scheduler} {name : String}
    (h : s.schedulePod c pick r = .ok (name, s')) :
    (∃ n ∈ c.getNodes, n.name = name) ∧
      s' = { s.write r (fun p => { p with nodeName := name }) with
        pods := s.pods.insert (s.deref r).id r } := by
  simp only [schedulePod] at h
  split_ifs at h
  · split at h
    · next n hn =>
      cases h
      exact ⟨⟨n, (findNodeBySelector_eq_ok hn).1, rfl⟩, rfl⟩
    · cases h
  · split at h
    · cases h
    · next n ns hns =>
      cases h
      rw [hns]
      exact ⟨⟨_, List.get_mem _ _ _, rfl⟩, rfl⟩

theorem matchesSelector_false_iff {labels selector : GoMap String} :
    matchesSelector labels selector = false ↔ ∃ k v, selector.lookup k = some v ∧ labels.get k "" ≠ v := by
  rw [← Bool.not_eq_true, matchesSelector_iff]
  push_neg
  rfl

/-- Whatever node `SchedulePod` places a pod on matches the pod's selector;
an empty selector matches every node. -/
theorem schedulePod_eq_ok_matches {c : Cluster} {pick r : Nat} {s s' : Scheduler} {name : String}
    (h : s.schedulePod c pick r = .ok (name, s')) :
    ∃ n ∈ c.getNodes, n.name = name ∧ matchesSelector n.labels (s.deref r).nodeSelector := by
  simp only [schedulePod] at h
  split_ifs at h with hsel
  · split at h
    · next n hn =>
      cases h
      exact ⟨n, (findNodeBySelector_eq_ok hn).1, rfl, (findNodeBySelector_eq_ok hn).2⟩
    · cases h
  · have hnil : (s.deref r).nodeSelector.entries = [] := List.length_eq_zero.mp (by omega)
    split at h
    · cases h
    · next n ns hns =>
      cases h
      rw [hns]
      exact ⟨_, List.get_mem _ _ _, rfl, by simp [matchesSelector, hnil]⟩

/-- **`SchedulePod` has two outcomes.** Either it places the pod on a node of
the roster whose labels read every key of the selector as the selector's value
– a missing label reading as `""`, and any node matching an empty selector –
writes the node's name into the pod and files the pod under its ID; or it
fails, exactly when the roster is empty or the selector is non-empty and no
node matches it. A failure returns before any write: it hands back no
scheduler, and the caller keeps the one it had. -/
theorem schedulePod_outcomes (c : Cluster) (pick r : Nat) (s : Scheduler) :
    (∀ name s', s.schedulePod c pick r = .ok (name, s') →
      (∃ n ∈ c.getNodes, n.name = name ∧
        ∀ k v, (s.deref r).nodeSelector.lookup k = some v → n.labels.get k "" = v) ∧
      s' = { s.write r (fun p => { p with nodeName := name }) with pods := s.pods.insert (s.deref r).id r }) ∧
    ((∃ e, s.schedulePod c pick r = .error e) ↔
      c.getNodes = [] ∨ ((s.deref r).nodeSelector.entries ≠ [] ∧
        ∀ n ∈ c.getNodes, ∃ k v, (s.deref r).nodeSelector.lookup k = some v ∧ n.labels.get k "" ≠ v)) := by
  refine ⟨fun name s' h => ?_, ?_⟩
  · obtain ⟨n, hn, hname, hm⟩ := schedulePod_eq_ok_matches h
    exact ⟨⟨n, hn, hname, matchesSelector_iff.mp hm⟩, (schedulePod_eq_ok h).2⟩
  · simp only [schedulePod]
    split_ifs with hsel
    · have hne : (s.deref r).nodeSelector.entries ≠ [] := List.ne_nil_of_length_pos hsel
      simp only [← matchesSelector_false_iff]
      split
      · next n hn =>
        refine iff_of_false (fun ⟨_, he⟩ => nomatch he) ?_
        have ⟨hmem, hm⟩ := findNodeBySelector_eq_ok hn
        rintro (hnil | ⟨-, hall⟩)
        · rw [hnil] at hmem; cases hmem
        · rw [hall n hmem] at hm; cases hm
      · next e he =>
        have hall := findNodeBySelector_eq_error.mp ⟨e, he⟩
        exact iff_of_true ⟨_, rfl⟩ (.inr ⟨hne, hall⟩)
    · have hnil : (s.deref r).nodeSelector.entries = [] := List.length_eq_zero.mp (by omega)
      split
      · next hn => exact iff_of_true ⟨_, rfl⟩ (.inl hn)
      · next n ns hns =>
        refine iff_of_false (fun ⟨_, he⟩ => nomatch he) ?_
        rintro (hn | ⟨hne, -⟩)
        · rw [hns] at hn; cases hn
        · exact hne hnil

/-- A roster of one node, `node-1`, with no labels. -/
def unlabelledRoster : Cluster :=
  ⟨"node-1", (∅ : GoMap Node).insert "node-1" ⟨"node-1", "10.0.0.1", "ready", ∅⟩⟩

/-- One pod, at pointer `0`, whose selector asks for the label `zone` with the
empty value. -/
def emptyZonePod : Scheduler :=
  ⟨[{ (default : Pod) with id := "p1", name := "web-0", nodeSelector := (∅ : GoMap String).insert "zone" "" }], ∅⟩

/-- **A selector value `""` matches a node without the label.** The pod asks
for `zone: ""`; the only node has no `zone` label at all, and `SchedulePod`
places the pod on it. -/
theorem empty_label_value_matches_unlabelled_node :
    unlabelledRoster.getNodes.map (fun n => n.labels.lookup "zone") = [none] ∧
      (emptyZonePod.deref 0).nodeSelector.lookup "zone" = some "" ∧
      (emptyZonePod.schedulePod unlabelledRoster 0 0).map Prod.fst = .ok "node-1" :=
  ⟨rfl, rfl, rfl⟩

end Scheduler

end PodmanSwarm
