import PodmanSwarm.Types

/-!
# The store (`internal/storage`)

`storage.Storage` owns the declared state: four maps of records, the time of
the last mutation, and the file `state.json` in the data directory. Every
mutator changes one map, stamps `lastModified` with the wall clock and persists
the whole snapshot (`PodmanSwarm.Storage.mutate`); readers return what the maps
hold, nil pointers included.

`persist` can fail: `os.WriteFile` of `state.json.tmp` or `os.Rename` over
`state.json` returns an error (`PodmanSwarm.Storage.WriteResult`). The maps
were changed before and are not rolled back, so the store then answers from
records that `state.json` does not hold. `persist`'s error is what every
mutator returns; its callers only log it (`RecoverDeployments`) or drop it
(the message handler), so the model keeps the file and not the message.

`MergeState`, the receiving half of anti-entropy, is the interesting function.
It compares **whole snapshots**: when the incoming `LastModified` is strictly
after the local one, every deployment, service and ingress of the snapshot
overwrites the local entry at its key (`PodmanSwarm.GoMap.copyInto`), a pod
overwrites only an entry it does not find or one with an older `CreatedAt`
(`PodmanSwarm.Storage.mergePods`), and `lastModified` becomes the local clock.
Otherwise nothing happens. Comparing two `CreatedAt` fields dereferences both
pods, so a nil pod on either side panics (`PodmanSwarm.Panic`).

The section at the end reads a merge off lookups, key by key
(`PodmanSwarm.Storage.lookup_mergePods`): that is the form in which the
protocol modules use it.
-/

namespace PodmanSwarm

/-- `storage.ClusterState`: the unit of persistence and of anti-entropy. -/
structure ClusterState where
  deployments : GoMap (Option Deployment)
  services : GoMap (Option Service)
  ingresses : GoMap (Option Ingress)
  pods : GoMap (Option Pod)
  lastModified : Time
  version : Int
  deriving DecidableEq

/-- What `state.json` in the data directory holds. -/
inductive StateFile
  | absent
  /-- Present but unreadable, or not the JSON of a `ClusterState`. -/
  | corrupt
  | written (state : ClusterState)
  deriving DecidableEq

/-- `storage.Storage`. -/
structure Storage where
  deployments : GoMap (Option Deployment)
  services : GoMap (Option Service)
  ingresses : GoMap (Option Ingress)
  pods : GoMap (Option Pod)
  lastModified : Time
  stateFile : StateFile

namespace Storage

/-- `GetState`. -/
def getState (s : Storage) : ClusterState :=
  ⟨s.deployments, s.services, s.ingresses, s.pods, s.lastModified, 1⟩

/-- What the data directory answers `persist`: `os.WriteFile` and
`os.Rename` both succeed, or one of them fails. -/
inductive WriteResult
  | ok
  | failed
  deriving DecidableEq, Repr

/-- `persist`: the snapshot is written to `state.json.tmp`, which is renamed
over `state.json`; when either call fails, `state.json` is left as it was. -/
def persist (w : WriteResult) (s : Storage) : Storage :=
  match w with
  | .ok => { s with stateFile := .written s.getState }
  | .failed => s

/-- The shape of every mutator: change the maps by `f`, set
`s.lastModified = time.Now()`, persist. -/
def mutate (w : WriteResult) (now : Time) (f : Storage → Storage) (s : Storage) : Storage :=
  persist w { f s with lastModified := now }

/-- `NewStorage`, which ends with `Load`: the maps of a readable `state.json`,
or empty maps and the zero time (`0` here; every clock reading is later) when
the file is missing or unreadable. -/
def newStorage (file : StateFile) : Storage :=
  match file with
  | .written c => ⟨c.deployments, c.services, c.ingresses, c.pods, c.lastModified, file⟩
  | _ => ⟨∅, ∅, ∅, ∅, 0, file⟩

/-! ### Saving and deleting -/

/-- `SaveDeployment`. -/
def saveDeployment (w : WriteResult) (now : Time) (d : Deployment) (s : Storage) : Storage :=
  s.mutate w now fun s => { s with deployments := s.deployments.insert (objectKey d.ns d.name) d }

/-- `SaveService`. -/
def saveService (w : WriteResult) (now : Time) (v : Service) (s : Storage) : Storage :=
  s.mutate w now fun s => { s with services := s.services.insert (objectKey v.ns v.name) v }

/-- `SaveIngress`. -/
def saveIngress (w : WriteResult) (now : Time) (i : Ingress) (s : Storage) : Storage :=
  s.mutate w now fun s => { s with ingresses := s.ingresses.insert (objectKey i.ns i.name) i }

/-- `SavePod`. -/
def savePod (w : WriteResult) (now : Time) (p : Pod) (s : Storage) : Storage :=
  s.mutate w now fun s => { s with pods := s.pods.insert (objectKey p.ns p.name) p }

/-- `DeleteDeployment`. -/
def deleteDeployment (w : WriteResult) (now : Time) (ns name : String) (s : Storage) : Storage :=
  s.mutate w now fun s => { s with deployments := s.deployments.erase (objectKey ns name) }

/-- `DeleteService`. -/
def deleteService (w : WriteResult) (now : Time) (ns name : String) (s : Storage) : Storage :=
  s.mutate w now fun s => { s with services := s.services.erase (objectKey ns name) }

/-- `DeleteIngress`. -/
def deleteIngress (w : WriteResult) (now : Time) (ns name : String) (s : Storage) : Storage :=
  s.mutate w now fun s => { s with ingresses := s.ingresses.erase (objectKey ns name) }

/-- `DeletePod`. -/
def deletePod (w : WriteResult) (now : Time) (ns name : String) (s : Storage) : Storage :=
  s.mutate w now fun s => { s with pods := s.pods.erase (objectKey ns name) }

/-! ### Reading -/

/-- The four getters: the pointer filed under `namespace/name`, or the error
`"<kind> not found: <namespace>/<name>"`. -/
def getRecord {α : Type} (kind : String) (m : GoMap (Option α)) (ns name : String) :
    Except String (Option α) :=
  match m.lookup (objectKey ns name) with
  | some x => .ok x
  | none => .error (kind ++ " not found: " ++ ns ++ "/" ++ name)

/-- `GetDeployment`. -/
def getDeployment (ns name : String) (s : Storage) : Except String (Option Deployment) :=
  getRecord "deployment" s.deployments ns name

/-- `GetService`. -/
def getService (ns name : String) (s : Storage) : Except String (Option Service) :=
  getRecord "service" s.services ns name

/-- `GetIngress`. -/
def getIngress (ns name : String) (s : Storage) : Except String (Option Ingress) :=
  getRecord "ingress" s.ingresses ns name

/-- `GetPod`. -/
def getPod (ns name : String) (s : Storage) : Except String (Option Pod) :=
  getRecord "pod" s.pods ns name

/-- `ListDeployments`. -/
def listDeployments (s : Storage) : List (Option Deployment) := s.deployments.vals

/-- `ListServices`. -/
def listServices (s : Storage) : List (Option Service) := s.services.vals

/-- `ListIngresses`. -/
def listIngresses (s : Storage) : List (Option Ingress) := s.ingresses.vals

/-! ### Merging a snapshot -/

/-- One pass of the pod loop of `MergeState`: file `pod` under `key` when the
key is new, or when both pods are there and `pod` was created strictly later.
Reading `CreatedAt` off a nil pod panics. -/
def mergePod (m : GoMap (Option Pod)) (key : String) (pod : Option Pod) :
    Except Panic (GoMap (Option Pod)) :=
  match m.lookup key with
  | none => .ok (m.insert key pod)
  | some existing =>
    match pod, existing with
    | some p, some q => .ok (if q.createdAt < p.createdAt then m.insert key pod else m)
    | _, _ => .error .nilDereference

/-- The pod loop of `MergeState`. -/
def mergePods (incoming dst : GoMap (Option Pod)) : Except Panic (GoMap (Option Pod)) :=
  incoming.entries.foldlM (fun m e => mergePod m e.1 e.2) dst

/-- `MergeState`. -/
def mergeState (w : WriteResult) (now : Time) (incoming : ClusterState) (s : Storage) :
    Except Panic Storage :=
  if s.lastModified < incoming.lastModified then do
    let pods ← mergePods incoming.pods s.pods
    return persist w { s with
      deployments := GoMap.copyInto incoming.deployments s.deployments
      services := GoMap.copyInto incoming.services s.services
      ingresses := GoMap.copyInto incoming.ingresses s.ingresses
      pods := pods
      lastModified := now }
  else .ok s

@[simp] theorem getState_lastModified (s : Storage) : s.getState.lastModified = s.lastModified :=
  rfl

@[simp] theorem getState_deployments (s : Storage) : s.getState.deployments = s.deployments := rfl

@[simp] theorem getState_services (s : Storage) : s.getState.services = s.services := rfl

@[simp] theorem getState_ingresses (s : Storage) : s.getState.ingresses = s.ingresses := rfl

@[simp] theorem getState_pods (s : Storage) : s.getState.pods = s.pods := rfl

/-- `persist` writes the file and nothing else. -/
theorem persist_eq (w : WriteResult) (s : Storage) : persist w s = { s with stateFile := (persist w s).stateFile } := by
  cases w <;> rfl

@[simp] theorem deployments_persist (w : WriteResult) (s : Storage) :
    (persist w s).deployments = s.deployments := by rw [persist_eq]

@[simp] theorem services_persist (w : WriteResult) (s : Storage) : (persist w s).services = s.services := by
  rw [persist_eq]

@[simp] theorem ingresses_persist (w : WriteResult) (s : Storage) : (persist w s).ingresses = s.ingresses := by
  rw [persist_eq]

@[simp] theorem pods_persist (w : WriteResult) (s : Storage) : (persist w s).pods = s.pods := by rw [persist_eq]

@[simp] theorem lastModified_persist (w : WriteResult) (s : Storage) :
    (persist w s).lastModified = s.lastModified := by rw [persist_eq]

@[simp] theorem getState_persist (w : WriteResult) (s : Storage) : (persist w s).getState = s.getState := by
  rw [persist_eq]
  rfl

@[simp] theorem mutate_lastModified (w : WriteResult) (now : Time) (f : Storage → Storage) (s : Storage) :
    (s.mutate w now f).lastModified = now := by
  cases w <;> rfl

theorem mergeState_of_le {w : WriteResult} {now : Time} {t : ClusterState} {s : Storage}
    (h : t.lastModified ≤ s.lastModified) : s.mergeState w now t = .ok s := by
  simp [mergeState, not_lt.mpr h]

/-- A newer snapshot whose pods merge: the three maps copied in, the pods
replaced, the stamp moved to `now`. -/
theorem mergeState_ok_of_lt {w : WriteResult} {now : Time} {t : ClusterState} {s : Storage}
    {pods : GoMap (Option Pod)} (hlt : s.lastModified < t.lastModified) (hp : mergePods t.pods s.pods = .ok pods) :
    s.mergeState w now t = .ok (persist w { s with
      deployments := GoMap.copyInto t.deployments s.deployments
      services := GoMap.copyInto t.services s.services
      ingresses := GoMap.copyInto t.ingresses s.ingresses
      pods := pods
      lastModified := now }) := by
  rw [mergeState, if_pos hlt, hp]
  rfl

/-! ### A merge, key by key -/

/-- No nil pod pointer in a map. -/
def NoNilPods (m : GoMap (Option Pod)) : Prop := ∀ k, m.lookup k ≠ some none

/-- The pod a key ends up with when the snapshot brings `p` and the store holds
`q`: the snapshot's, if strictly younger. -/
def newerPod (p q : Pod) : Pod := if q.createdAt < p.createdAt then p else q

/-- The entry a key ends up with in the pod loop, given what the snapshot and the
store hold under it. -/
def pickPod : Option (Option Pod) → Option (Option Pod) → Option (Option Pod)
  | some (some p), some (some q) => some (some (newerPod p q))
  | some x, none => some x
  | none, y => y
  | some _, some y => some y

/-- The pod loop keeps what it already chose: merging the same entry again
changes nothing. -/
theorem pickPod_pickPod (x y : Option (Option Pod)) : pickPod x (pickPod x y) = pickPod x y := by
  rcases x with _ | _ | p <;> rcases y with _ | _ | q <;> (try rfl) <;>
    simp only [pickPod, newerPod] <;> split_ifs <;> rfl

theorem noNilPods_insert {m : GoMap (Option Pod)} (hm : NoNilPods m) (key : String) (p : Pod) :
    NoNilPods (m.insert key (some p)) := by
  intro k
  by_cases hk : k = key
  · subst hk
    simp [AList.lookup_insert]
  · rw [AList.lookup_insert_ne hk]
    exact hm k

/-- One pass of the pod loop on a non-nil pod, read key by key. -/
theorem mergePod_spec {m : GoMap (Option Pod)} (hm : NoNilPods m) (key : String) (p : Pod) :
    ∃ m', mergePod m key (some p) = .ok m' ∧ NoNilPods m' ∧
      ∀ k, m'.lookup k = if k = key then pickPod (some (some p)) (m.lookup key) else m.lookup k := by
  have hins : ∀ k, (m.insert key (some p)).lookup k =
      if k = key then some (some p) else m.lookup k := fun k => by
    split_ifs with hk
    · subst hk
      exact AList.lookup_insert m
    · exact AList.lookup_insert_ne hk
  rcases hq : m.lookup key with _ | _ | q
  · refine ⟨_, by simp [mergePod, hq], noNilPods_insert hm key p, fun k => ?_⟩
    rw [hins]
    rfl
  · exact absurd hq (hm key)
  · refine ⟨if q.createdAt < p.createdAt then m.insert key (some p) else m,
      by simp [mergePod, hq], by split_ifs <;> simp [hm, noNilPods_insert], fun k => ?_⟩
    by_cases hk : k = key
    · subst hk
      simp only [if_true, pickPod, newerPod]
      split_ifs <;> simp_all [AList.lookup_insert]
    · simp only [hk, if_false]
      split_ifs
      · exact AList.lookup_insert_ne hk
      · rfl

theorem foldlM_mergePod_spec (l : List (Sigma fun _ : String => Option Pod)) (hl : l.NodupKeys)
    (hnil : ∀ e ∈ l, e.2 ≠ none) (dst : GoMap (Option Pod)) (hdst : NoNilPods dst) :
    ∃ m', l.foldlM (fun m e => mergePod m e.1 e.2) dst = .ok m' ∧ NoNilPods m' ∧
      ∀ k, m'.lookup k = pickPod (l.dlookup k) (dst.lookup k) := by
  induction l generalizing dst with
  | nil => exact ⟨dst, rfl, hdst, fun k => rfl⟩
  | cons e l ih =>
    obtain ⟨key, _ | p⟩ := e
    · exact absurd rfl (hnil _ (List.mem_cons_self _ _))
    rw [List.nodupKeys_cons] at hl
    obtain ⟨d1, h1, hd1, hl1⟩ := mergePod_spec hdst key p
    obtain ⟨m', h2, hm', hl2⟩ := ih hl.2 (fun e he => hnil e (List.mem_cons_of_mem _ he)) d1 hd1
    refine ⟨m', by rw [List.foldlM_cons, h1]; exact h2, hm', fun k => ?_⟩
    rw [hl2, hl1]
    by_cases hk : k = key
    · subst hk
      rw [List.dlookup_eq_none.mpr hl.1, List.dlookup_cons_eq, if_pos rfl]
      rfl
    · rw [if_neg hk, List.dlookup_cons_ne _ _ hk]

/-- **The pod loop, key by key.** Between two maps without nil pods the loop
cannot panic, and each key ends up with `PodmanSwarm.Storage.pickPod` of what
the two sides hold. -/
theorem lookup_mergePods {incoming dst : GoMap (Option Pod)} (hi : NoNilPods incoming)
    (hd : NoNilPods dst) :
    ∃ m', mergePods incoming dst = .ok m' ∧ NoNilPods m' ∧
      ∀ k, m'.lookup k = pickPod (incoming.lookup k) (dst.lookup k) := by
  refine foldlM_mergePod_spec _ incoming.nodupKeys (fun e he => ?_) dst hd
  have : incoming.lookup e.1 = some e.2 := AList.mem_lookup_iff.mpr he
  exact fun h => hi e.1 (h ▸ this)

/-- **One pass of the pod loop that does not panic**, read key by key: the
key it visits ends up with `PodmanSwarm.Storage.pickPod` of the two sides,
and a non-nil pod was not compared with a nil one. -/
theorem mergePod_eq_ok {m m' : GoMap (Option Pod)} {key : String} {pod : Option Pod}
    (h : mergePod m key pod = .ok m') :
    (∀ k, m'.lookup k = if k = key then pickPod (some pod) (m.lookup key) else m.lookup k) ∧
      (pod ≠ none → m.lookup key ≠ some none) := by
  have hins : ∀ k, (m.insert key pod).lookup k = if k = key then some pod else m.lookup k := fun k => by
    split_ifs with hk
    · subst hk
      exact AList.lookup_insert m
    · exact AList.lookup_insert_ne hk
  unfold mergePod at h
  split at h
  · next hk =>
    cases h
    refine ⟨fun k => ?_, fun _ => by simp [hk]⟩
    rw [hins, hk]
    cases pod <;> rfl
  · next existing hk =>
    split at h
    · next p q =>
      cases h
      refine ⟨fun k => ?_, fun _ => by simp [hk]⟩
      split_ifs with hlt hk' hk'
      · subst hk'
        rw [AList.lookup_insert, hk]
        simp [pickPod, newerPod, hlt]
      · exact AList.lookup_insert_ne hk'
      · subst hk'
        rw [hk]
        simp [pickPod, newerPod, hlt]
      · rfl
    · cases h

/-- **The pod loop when it does not panic**, whatever the store holds: each
key ends up with `PodmanSwarm.Storage.pickPod` of the two sides, and no pod of
the snapshot met a nil pod of the store. -/
theorem foldlM_mergePod_eq_ok (l : List (Sigma fun _ : String => Option Pod)) (hl : l.NodupKeys) :
    ∀ {dst m : GoMap (Option Pod)}, l.foldlM (fun m e => mergePod m e.1 e.2) dst = .ok m →
      (∀ k, m.lookup k = pickPod (l.dlookup k) (dst.lookup k)) ∧
        ∀ e ∈ l, e.2 ≠ none → dst.lookup e.1 ≠ some none := by
  induction l with
  | nil => intro dst m h; cases h; exact ⟨fun k => rfl, fun _ he => nomatch he⟩
  | cons e l ih =>
    intro dst m h
    rw [List.nodupKeys_cons] at hl
    rw [List.foldlM_cons] at h
    cases h₁ : mergePod dst e.1 e.2 with
    | error x => rw [h₁] at h; cases h
    | ok d₁ =>
      rw [h₁] at h
      obtain ⟨hd₁, hne₁⟩ := mergePod_eq_ok h₁
      obtain ⟨hm, hne⟩ := ih hl.2 h
      -- the keys after `e` are not `e`'s, so the first pass left them alone
      have hother : ∀ e' ∈ l, d₁.lookup e'.1 = dst.lookup e'.1 := fun e' he' => by
        rw [hd₁, if_neg]
        intro heq
        exact hl.1 (heq ▸ List.mem_keys_of_mem he')
      refine ⟨fun k => ?_, ?_⟩
      · rw [hm, hd₁]
        by_cases hk : k = e.1
        · subst hk
          rw [List.dlookup_eq_none.mpr hl.1, List.dlookup_cons_eq, if_pos rfl]
          rfl
        · rw [if_neg hk, List.dlookup_cons_ne _ _ hk]
      · rintro e' (_ | ⟨_, he'⟩) hn
        · exact hne₁ hn
        · exact hother e' he' ▸ hne e' he' hn

/-- The pod loop does not panic when no pod of the snapshot is nil and the
store holds no nil pod under a key of the snapshot. -/
theorem foldlM_mergePod_ok (l : List (Sigma fun _ : String => Option Pod)) (hl : l.NodupKeys)
    (hnil : ∀ e ∈ l, e.2 ≠ none) :
    ∀ {dst : GoMap (Option Pod)}, (∀ e ∈ l, dst.lookup e.1 ≠ some none) →
      ∃ m, l.foldlM (fun m e => mergePod m e.1 e.2) dst = .ok m := by
  induction l with
  | nil => exact fun _ => ⟨_, rfl⟩
  | cons e l ih =>
    intro dst hdst
    rw [List.nodupKeys_cons] at hl
    obtain ⟨key, _ | p⟩ := e
    · exact absurd rfl (hnil _ (List.mem_cons_self _ _))
    obtain ⟨d₁, h₁⟩ : ∃ d₁, mergePod dst key (some p) = .ok d₁ := by
      have := hdst _ (List.mem_cons_self _ _)
      unfold mergePod
      rcases hq : dst.lookup key with _ | _ | q
      · exact ⟨_, rfl⟩
      · exact absurd hq this
      · exact ⟨_, rfl⟩
    have hd₁ := (mergePod_eq_ok h₁).1
    obtain ⟨m, hm⟩ := ih hl.2 (fun e he => hnil e (List.mem_cons_of_mem _ he)) (fun e' he' => by
      rw [hd₁, if_neg]
      · exact hdst e' (List.mem_cons_of_mem _ he')
      · intro heq
        have hk := List.mem_keys_of_mem he'
        rw [heq] at hk
        exact hl.1 hk)
    exact ⟨m, by rw [List.foldlM_cons, h₁]; exact hm⟩

/-- **The pod loop is idempotent.** Once the pods of a snapshot without nil
pods have been merged, merging them again cannot panic and changes no key. -/
theorem mergePods_mergePods {incoming dst m : GoMap (Option Pod)} (hi : NoNilPods incoming)
    (h : mergePods incoming dst = .ok m) :
    ∃ m', mergePods incoming m = .ok m' ∧ ∀ k, m'.lookup k = m.lookup k := by
  have hnil : ∀ e ∈ incoming.entries, e.2 ≠ none := fun e he hn =>
    hi e.1 (hn ▸ AList.mem_lookup_iff.mpr he)
  obtain ⟨hm, hne⟩ := foldlM_mergePod_eq_ok _ incoming.nodupKeys h
  obtain ⟨m', h'⟩ := @foldlM_mergePod_ok _ incoming.nodupKeys hnil m fun e he => by
    rw [hm]
    obtain ⟨key, _ | p⟩ := e
    · exact absurd rfl (hnil _ he)
    have hk : incoming.entries.dlookup key = some (some p) := AList.mem_lookup_iff.mpr he
    rw [hk]
    rcases hq : dst.lookup key with _ | _ | q
    · simp [pickPod]
    · exact absurd hq (hne _ he (by simp))
    · simp [pickPod]
  refine ⟨m', h', fun k => ?_⟩
  rw [(foldlM_mergePod_eq_ok _ incoming.nodupKeys h').1, hm]
  exact pickPod_pickPod _ _

/-! ### What a merge does to the content -/

/-- What the four maps of a snapshot hold, key by key. Iteration order aside,
this is all there is to a Go map: two stores with the same content hold
identical maps. -/
structure Content where
  deployments : String → Option (Option Deployment)
  services : String → Option (Option Service)
  ingresses : String → Option (Option Ingress)
  pods : String → Option (Option Pod)

/-- The content of a snapshot. -/
def content (c : ClusterState) : Content :=
  ⟨fun k => c.deployments.lookup k, fun k => c.services.lookup k,
    fun k => c.ingresses.lookup k, fun k => c.pods.lookup k⟩

/-- The content a merge that takes effect leaves: the snapshot's entries over
the store's, and the younger pod where both have one. -/
def Content.overlay (c s : Content) : Content :=
  ⟨fun k => (c.deployments k).or (s.deployments k), fun k => (c.services k).or (s.services k),
    fun k => (c.ingresses k).or (s.ingresses k), fun k => pickPod (c.pods k) (s.pods k)⟩

/-- **A merge that takes effect.** When the snapshot is strictly newer and
neither side holds a nil pod, `MergeState` succeeds, overlays the snapshot's
content on the store's, and stamps the store with the merge time. -/
theorem mergeState_of_lt {w : WriteResult} {now : Time} {c : ClusterState} {s : Storage}
    (hlt : s.lastModified < c.lastModified) (hc : NoNilPods c.pods) (hs : NoNilPods s.pods) :
    ∃ s', s.mergeState w now c = .ok s' ∧ content s'.getState = (content c).overlay (content s.getState) ∧
      s'.lastModified = now ∧ NoNilPods s'.pods := by
  obtain ⟨pods, hp, hnil, hlk⟩ := lookup_mergePods hc hs
  refine ⟨_, mergeState_ok_of_lt hlt hp, ?_, lastModified_persist _ _, by simpa using hnil⟩
  simp only [content, Content.overlay, getState_persist]
  simp only [getState, GoMap.lookup_copyInto, hlk]

/-! ### The overlay algebra -/

namespace Content

/-- No nil pod. -/
def NoNil (x : Content) : Prop := ∀ k, x.pods k ≠ some none

/-- Two contents agree on tied pods: where both hold a pod under a key with the
same `CreatedAt`, it is the same pod. -/
def Agree (x y : Content) : Prop :=
  ∀ k p q, x.pods k = some (some p) → y.pods k = some (some q) → p.createdAt = q.createdAt → p = q

theorem noNil_content {c : ClusterState} (h : NoNilPods c.pods) : (content c).NoNil := h

theorem agree_self (x : Content) : x.Agree x := fun _ _ _ hp hq _ =>
  Option.some.inj (Option.some.inj (hp.symm.trans hq))

theorem pickPod_self (o : Option (Option Pod)) : pickPod o o = o := by
  rcases o with _ | _ | p <;> simp [pickPod, newerPod]

/-- Merging a content into itself changes nothing. -/
theorem overlay_self (x : Content) : x.overlay x = x := by
  cases x
  simp only [overlay, Option.or_self, pickPod_self]

/-- **Merging back.** Once the follower has merged the leader's content, the
leader merging the result back gets that same result: the follower's content
only adds keys the leader lacks and pods younger than the leader's. -/
theorem overlay_absorb {l f : Content} (hl : l.NoNil) (hf : f.NoNil) (hag : l.Agree f) :
    (l.overlay f).overlay l = l.overlay f := by
  have hp : ∀ k, pickPod (pickPod (l.pods k) (f.pods k)) (l.pods k) = pickPod (l.pods k) (f.pods k) := by
    intro k
    have hk := hag k
    rcases hx : l.pods k with _ | _ | p
    · rcases f.pods k with _ | _ | q <;> rfl
    · exact absurd hx (hl k)
    rcases hy : f.pods k with _ | _ | q
    · simp [pickPod, newerPod]
    · exact absurd hy (hf k)
    · simp only [pickPod, newerPod]
      split_ifs with h1 h2 <;> first | rfl | skip
      have := hk p q hx hy (by omega)
      subst this
      rfl
  have ho : ∀ {α : Type} (a b : Option α), (a.or b).or a = a.or b := by
    intro α a b
    cases a <;> cases b <;> rfl
  simp only [overlay, mk.injEq]
  exact ⟨funext fun k => ho _ _, funext fun k => ho _ _, funext fun k => ho _ _, funext hp⟩

theorem agree_comm {x y : Content} (h : x.Agree y) : y.Agree x :=
  fun k p q hp hq he => (h k q p hq hp he.symm).symm

/-- The follower's merged content agrees with the leader's on tied pods. -/
theorem agree_overlay {l f : Content} (hag : l.Agree f) : (l.overlay f).Agree l := by
  intro k p q hp hq he
  simp only [overlay, hq] at hp
  rcases hy : f.pods k with _ | _ | r
  · simp_all [pickPod]
  · simp [pickPod, hy] at hp
  · simp only [pickPod, newerPod, hy, Option.some.injEq] at hp
    split_ifs at hp with h
    · exact hp.symm
    · subst hp
      exact (hag k q _ hq hy he.symm).symm

theorem NoNil.overlay {x y : Content} (hx : x.NoNil) (hy : y.NoNil) : (x.overlay y).NoNil := by
  intro k
  have h1 := hx k
  have h2 := hy k
  simp only [Content.overlay]
  rcases hpx : x.pods k with _ | _ | p <;> rcases hpy : y.pods k with _ | _ | q <;>
    simp_all [pickPod]

end Content

/-! ### Merging twice -/

/-- **Merging a snapshot twice is merging it once.** Take any store and any
snapshot without nil pods. Whatever the two clocks read and whether or not
either merge reaches `state.json`, a second `MergeState` of the snapshot
leaves the four maps as the first left them – including when the snapshot is
stamped later than the first merge, so that the second passes the timestamp
test again – and when the first panics, so does the pair. A snapshot stamped
as the store is, its own `GetState` among them, changes nothing. -/
theorem mergeState_idempotent (w w' : WriteResult) (now now' : Time) (t : ClusterState)
    (ht : NoNilPods t.pods) (s : Storage) :
    ((s.mergeState w now t).bind (mergeState w' now' t)).map (fun s' => content s'.getState) =
        (s.mergeState w now t).map (fun s' => content s'.getState) ∧
      ∀ c : ClusterState, c.lastModified = s.lastModified → s.mergeState w now c = .ok s := by
  refine ⟨?_, fun c hc => mergeState_of_le hc.le⟩
  by_cases hlt : s.lastModified < t.lastModified
  · cases hp : mergePods t.pods s.pods with
    | error e => simp only [mergeState, if_pos hlt, hp]; rfl
    | ok pods =>
      rw [mergeState_ok_of_lt hlt hp, Except.bind]
      by_cases hlt' : now < t.lastModified
      · -- the snapshot is newer than the first merge: the second one takes effect too
        obtain ⟨pods', hp', hsame⟩ := mergePods_mergePods ht (by simpa using hp)
        rw [mergeState_ok_of_lt (by simpa using hlt') (by simpa using hp')]
        simp only [Except.map, content, getState_persist]
        simp only [getState, deployments_persist, services_persist, ingresses_persist, pods_persist,
          GoMap.lookup_copyInto, hsame, ← Option.or_assoc, Option.or_self]
      · rw [mergeState_of_le (by simpa using not_lt.mp hlt')]
  · rw [mergeState_of_le (not_lt.mp hlt), Except.bind, mergeState_of_le (not_lt.mp hlt)]

/-- A snapshot stamped `10` holding one pod, `default/web-0`. -/
def podSnapshot : ClusterState :=
  ⟨∅, ∅, ∅, (∅ : GoMap (Option Pod)).insert "default/web-0"
    (some { (default : Pod) with name := "web-0", ns := "default", createdAt := 5 }), 10, 1⟩

theorem pod_snapshot_merged_twice :
    NoNilPods podSnapshot.pods ∧
      ((((newStorage .absent).mergeState .ok 1 podSnapshot).bind (mergeState .failed 2 podSnapshot)).map
          (fun s' => content s'.getState) =
        ((newStorage .absent).mergeState .ok 1 podSnapshot).map (fun s' => content s'.getState) ∧
      ∀ c : ClusterState, c.lastModified = (newStorage .absent).lastModified →
        (newStorage .absent).mergeState .ok 1 c = .ok (newStorage .absent)) :=
  have h₀ : NoNilPods (∅ : GoMap (Option Pod)) := fun _ h => nomatch h
  have ht : NoNilPods podSnapshot.pods := noNilPods_insert h₀ _ _
  ⟨ht, mergeState_idempotent .ok .failed 1 2 podSnapshot ht (newStorage .absent)⟩

end Storage

end PodmanSwarm
