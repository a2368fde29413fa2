import PodmanSwarm.Storage
import PodmanSwarm.Strings

/-!
# The store as a key-value table

The store keeps four tables – deployments, services, ingresses, pods – and
files every record under the string `namespace/name`
(`PodmanSwarm.objectKey`). This file runs any sequence of `Save` and
`Delete` calls and says what each getter returns after it.

The store answers by key, not by pair: `GetX(ns, name)` returns what the last
operation *on the key* `ns/name` of that table left, whatever pair that
operation named (`PodmanSwarm.Storage.get_run`). Two pairs share a key only
when a namespace contains `/` (`PodmanSwarm.objectKey_inj`), and nothing
between the manifest decoder and the store rejects one: `("a/b", "c")` and
`("a", "b/c")` are one record. Where no namespace contains `/`, the store is
the table the pairs describe
(`PodmanSwarm.Storage.get_returns_last_write`).

Every save and delete, and every merge that takes effect, ends by writing the
whole snapshot to `state.json`, and that write can fail after the maps were
changed. So `NewStorage` on the file a run leaves rebuilds the store as it
stood at some earlier point of the run, and the store the run reached when no
write failed (`PodmanSwarm.Storage.restart_restores_store`). The first write
that succeeds replaces a corrupt `state.json`
(`PodmanSwarm.Storage.corrupt_state_file_overwritten`).
-/

namespace PodmanSwarm

/-- **Keys are injective on namespaces without a `/`.** -/
theorem objectKey_inj {ns name ns' name' : String} (hns : '/' ∉ ns.data) (hns' : '/' ∉ ns'.data) :
    objectKey ns name = objectKey ns' name' ↔ ns = ns' ∧ name = name' := by
  refine ⟨fun h => ?_, fun ⟨h₁, h₂⟩ => h₁ ▸ h₂ ▸ rfl⟩
  have hd : ns.data ++ '/' :: name.data = ns'.data ++ '/' :: name'.data := by
    simpa [objectKey] using congrArg String.data h
  rcases Strings.append_cons_eq_append_cons hns hd with ⟨h₁, h₂⟩ | ⟨y, hy, -⟩
  · exact ⟨String.ext h₁.symm, String.ext h₂.symm⟩
  · exact absurd (hy ▸ List.mem_append_right _ (List.mem_cons_self _ _)) hns'

namespace Storage

/-! ### Operations -/

/-- The four tables of the store. -/
inductive Kind
  | deployment
  | service
  | ingress
  | pod
  deriving DecidableEq, Repr

/-- The word the getters of a table use in their error. -/
def Kind.word : Kind → String
  | .deployment => "deployment"
  | .service => "service"
  | .ingress => "ingress"
  | .pod => "pod"

/-- A record of one of the four tables. -/
inductive Record
  | deployment (d : Deployment)
  | service (v : Service)
  | ingress (i : Ingress)
  | pod (p : Pod)

/-- The table a record goes to. -/
def Record.kind : Record → Kind
  | .deployment _ => .deployment
  | .service _ => .service
  | .ingress _ => .ingress
  | .pod _ => .pod

/-- The key `namespace/name` a record is saved under. -/
def Record.key : Record → String
  | .deployment d => objectKey d.ns d.name
  | .service v => objectKey v.ns v.name
  | .ingress i => objectKey i.ns i.name
  | .pod p => objectKey p.ns p.name

/-- The namespace of a record. -/
def Record.ns : Record → String
  | .deployment d => d.ns
  | .service v => v.ns
  | .ingress i => i.ns
  | .pod p => p.ns

/-- The name of a record. -/
def Record.name : Record → String
  | .deployment d => d.name
  | .service v => v.name
  | .ingress i => i.name
  | .pod p => p.name

theorem Record.key_eq (r : Record) : r.key = objectKey r.ns r.name := by cases r <;> rfl

/-- A call of `SaveX` or `DeleteX`, at time `now`, whose `persist` meets
`w`. -/
inductive Op
  | save (now : Time) (w : WriteResult) (r : Record)
  | delete (now : Time) (w : WriteResult) (k : Kind) (ns name : String)

/-- The call itself. -/
def Op.apply : Op → Storage → Storage
  | .save now w (.deployment d) => saveDeployment w now d
  | .save now w (.service v) => saveService w now v
  | .save now w (.ingress i) => saveIngress w now i
  | .save now w (.pod p) => savePod w now p
  | .delete now w .deployment ns name => deleteDeployment w now ns name
  | .delete now w .service ns name => deleteService w now ns name
  | .delete now w .ingress ns name => deleteIngress w now ns name
  | .delete now w .pod ns name => deletePod w now ns name

/-- What the call's `persist` meets. -/
def Op.write : Op → WriteResult
  | .save _ w _ => w
  | .delete _ w .. => w

/-- The operations one after the other. -/
def run (ops : List Op) (s : Storage) : Storage := ops.foldl (fun s op => op.apply s) s

/-- `GetX(ns, name)` for the table `k`. -/
def get (k : Kind) (ns name : String) (s : Storage) : Except String (Option Record) :=
  match k with
  | .deployment => (getDeployment ns name s).map (·.map .deployment)
  | .service => (getService ns name s).map (·.map .service)
  | .ingress => (getIngress ns name s).map (·.map .ingress)
  | .pod => (getPod ns name s).map (·.map .pod)

/-- The table an operation writes to. -/
def Op.kind : Op → Kind
  | .save _ _ r => r.kind
  | .delete _ _ k _ _ => k

/-- The key an operation writes to. -/
def Op.key : Op → String
  | .save _ _ r => r.key
  | .delete _ _ _ ns name => objectKey ns name

/-- The namespace an operation names. -/
def Op.ns : Op → String
  | .save _ _ r => r.ns
  | .delete _ _ _ ns _ => ns

/-- The name an operation names. -/
def Op.name : Op → String
  | .save _ _ r => r.name
  | .delete _ _ _ _ name => name

/-- What `GetX(ns, name)` returns right after the operation, when it hits. -/
def Op.result (k : Kind) (ns name : String) : Op → Except String (Option Record)
  | .save _ _ r => .ok (some r)
  | .delete .. => .error (k.word ++ " not found: " ++ ns ++ "/" ++ name)

/-! ### One operation -/

theorem getRecord_insert {α : Type} (kind : String) (m : GoMap (Option α)) (key : String) (x : α)
    (ns name : String) :
    getRecord kind (m.insert key (some x)) ns name =
      if key = objectKey ns name then .ok (some x) else getRecord kind m ns name := by
  unfold getRecord
  split_ifs with h
  · rw [h, AList.lookup_insert]
  · rw [AList.lookup_insert_ne (Ne.symm h)]

theorem getRecord_erase {α : Type} (kind : String) (m : GoMap (Option α)) (key : String)
    (ns name : String) :
    getRecord kind (m.erase key) ns name =
      if key = objectKey ns name then .error (kind ++ " not found: " ++ ns ++ "/" ++ name)
      else getRecord kind m ns name := by
  unfold getRecord
  split_ifs with h
  · rw [h, AList.lookup_erase]
  · rw [AList.lookup_erase_ne (Ne.symm h)]

/-- **One operation.** `GetX(ns, name)` after an operation is what the
operation leaves when it writes to table `k` under the key `ns/name`, and
what it was before otherwise. -/
theorem get_apply (k : Kind) (ns name : String) (op : Op) (s : Storage) :
    get k ns name (op.apply s) =
      if op.kind = k ∧ op.key = objectKey ns name then op.result k ns name else get k ns name s := by
  rcases op with ⟨now, w, r⟩ | ⟨now, w, k', ns', name'⟩
  · cases r <;> cases k <;>
      simp [Op.apply, get, Op.kind, Op.key, Op.result, Record.kind, Record.key, saveDeployment,
        saveService, saveIngress, savePod, mutate, getDeployment, getService, getIngress,
        getPod, getRecord_insert] <;> split_ifs <;> rfl
  · cases k' <;> cases k <;>
      simp [Op.apply, get, Op.kind, Op.key, Op.result, Kind.word, deleteDeployment, deleteService,
        deleteIngress, deletePod, mutate, getDeployment, getService, getIngress, getPod,
        getRecord_erase] <;> split_ifs <;> rfl

/-! ### Every sequence -/

theorem run_append_singleton (ops : List Op) (op : Op) (s : Storage) :
    run (ops ++ [op]) s = op.apply (run ops s) := by
  simp only [run, List.foldl_append, List.foldl_cons, List.foldl_nil]

/-- The last of `ops` that writes to table `k` under the key `key`. -/
def lastAt (k : Kind) (key : String) (ops : List Op) : Option Op :=
  ops.reverse.find? fun op => op.kind = k ∧ op.key = key

theorem lastAt_append_singleton (k : Kind) (key : String) (ops : List Op) (op : Op) :
    lastAt k key (ops ++ [op]) = if op.kind = k ∧ op.key = key then some op else lastAt k key ops := by
  by_cases h : op.kind = k ∧ op.key = key <;> simp [lastAt, h]

/-- **Every sequence of operations.** `GetX(ns, name)` returns what the last
operation on table `k` under the key `ns/name` left – the record it saved, or
the not-found error – and, when there is none, what the store held before. -/
theorem get_run (k : Kind) (ns name : String) (ops : List Op) (s : Storage) :
    get k ns name (run ops s) =
      match lastAt k (objectKey ns name) ops with
      | some op => op.result k ns name
      | none => get k ns name s := by
  induction ops using List.reverseRecOn with
  | nil => rfl
  | append_singleton ops op ih =>
    rw [run_append_singleton, get_apply, lastAt_append_singleton]
    split_ifs
    · rfl
    · exact ih

/-- The last of `ops` that names the pair `(ns, name)` of table `k`. -/
def lastOn (k : Kind) (ns name : String) (ops : List Op) : Option Op :=
  ops.reverse.find? fun op => op.kind = k ∧ op.ns = ns ∧ op.name = name

theorem lastOn_append_singleton (k : Kind) (ns name : String) (ops : List Op) (op : Op) :
    lastOn k ns name (ops ++ [op]) =
      if op.kind = k ∧ op.ns = ns ∧ op.name = name then some op else lastOn k ns name ops := by
  by_cases h : op.kind = k ∧ op.ns = ns ∧ op.name = name <;> simp [lastOn, h]

theorem Op.key_eq (op : Op) : op.key = objectKey op.ns op.name := by
  cases op
  · exact Record.key_eq _
  · rfl

theorem lastAt_eq_lastOn {k : Kind} {ns name : String} (hns : '/' ∉ ns.data) :
    ∀ {ops : List Op}, (∀ op ∈ ops, '/' ∉ op.ns.data) →
      lastAt k (objectKey ns name) ops = lastOn k ns name ops := by
  intro ops
  induction ops using List.reverseRecOn with
  | nil => intro; rfl
  | append_singleton ops op ih =>
    intro hops
    have hop : op.key = objectKey ns name ↔ op.ns = ns ∧ op.name = name := by
      rw [Op.key_eq, objectKey_inj (hops op (by simp)) hns]
    rw [lastAt_append_singleton, lastOn_append_singleton, ih fun o ho => hops o (List.mem_append_left _ ho)]
    simp only [hop]

/-- **The store is a table of keys, and of pairs when no namespace contains
`/`.** After any sequence of saves and deletes, `GetX(ns, name)` returns what
the last operation on table `k` under the key `ns/name` left, and what the
store held before when there is none. When neither `ns` nor the namespace of
any operation contains `/`, that is the record last saved with exactly that
namespace and name, unless a `DeleteX(ns, name)` came later, in which case it
is not found. Whether the writes of `state.json` succeed changes nothing. -/
theorem get_returns_last_write (k : Kind) (ns name : String) (ops : List Op) (s : Storage) :
    get k ns name (run ops s) =
        (match lastAt k (objectKey ns name) ops with
        | some op => op.result k ns name
        | none => get k ns name s) ∧
      ('/' ∉ ns.data → (∀ op ∈ ops, '/' ∉ op.ns.data) →
        get k ns name (run ops s) =
          match lastOn k ns name ops with
          | some op => op.result k ns name
          | none => get k ns name s) :=
  ⟨get_run k ns name ops s, fun hns hops => by rw [get_run, lastAt_eq_lastOn hns hops]⟩

/-! ### Two pairs, one record -/

/-- The deployment `default/web`. -/
def webRecord : Record := .deployment ⟨"web", "default", 1, 1, [], ⟨∅, ∅⟩⟩

theorem web_saved_then_read :
    get .deployment "default" "web" (run [.save 1 .ok webRecord] (newStorage .absent)) =
        (match lastAt .deployment (objectKey "default" "web") [.save 1 .ok webRecord] with
        | some op => op.result .deployment "default" "web"
        | none => get .deployment "default" "web" (newStorage .absent)) ∧
      ('/' ∉ "default".data → (∀ op ∈ [Op.save 1 .ok webRecord], '/' ∉ op.ns.data) →
        get .deployment "default" "web" (run [.save 1 .ok webRecord] (newStorage .absent)) =
          match lastOn .deployment "default" "web" [.save 1 .ok webRecord] with
          | some op => op.result .deployment "default" "web"
          | none => get .deployment "default" "web" (newStorage .absent)) :=
  get_returns_last_write _ _ _ _ _

/-- The deployment `c` in the namespace `a/b`. -/
def slashRecord : Record := .deployment ⟨"c", "a/b", 1, 1, [], ⟨∅, ∅⟩⟩

/-- **Two pairs share a key.** Saving deployment `c` in namespace `a/b` makes
`GetDeployment("a", "b/c")` return it, though no operation named that pair. -/
theorem slash_namespaces_share_a_record :
    lastOn .deployment "a" "b/c" [.save 1 .ok slashRecord] = none ∧
      get .deployment "a" "b/c" (run [.save 1 .ok slashRecord] (newStorage .absent)) = .ok (some slashRecord) :=
  ⟨rfl, rfl⟩

/-! ### The state file -/

/-- `state.json` holds the store's own snapshot. -/
def Persisted (s : Storage) : Prop := s.stateFile = .written s.getState

/-- A save or delete whose write succeeds leaves the store persisted. -/
theorem persisted_apply {op : Op} (hw : op.write = .ok) (s : Storage) : Persisted (op.apply s) := by
  rcases op with ⟨now, w, r⟩ | ⟨now, w, k, ns, name⟩ <;> cases hw
  · cases r <;> rfl
  · cases k <;> rfl

/-- A save or delete whose write fails leaves `state.json` as it was. -/
theorem stateFile_apply_of_failed {op : Op} (hw : op.write = .failed) (s : Storage) :
    (op.apply s).stateFile = s.stateFile := by
  rcases op with ⟨now, w, r⟩ | ⟨now, w, k, ns, name⟩ <;> cases hw
  · cases r <;> rfl
  · cases k <;> rfl

theorem op_write_cases (op : Op) : op.write = .ok ∨ op.write = .failed := by
  cases h : op.write <;> simp

/-- A merge that takes effect persists when its write succeeds, and leaves
`state.json` as it was when the write fails. -/
theorem stateFile_mergeState {w : WriteResult} {now : Time} {t : ClusterState} {s s' : Storage}
    (hlt : s.lastModified < t.lastModified) (h : s.mergeState w now t = .ok s') :
    (w = .ok → Persisted s') ∧ (w = .failed → s'.stateFile = s.stateFile) := by
  rw [mergeState, if_pos hlt] at h
  cases hp : mergePods t.pods s.pods with
  | error e => rw [hp] at h; cases h
  | ok pods =>
    rw [hp] at h
    cases h
    exact ⟨fun hw => by subst hw; rfl, fun hw => by subst hw; rfl⟩

/-- **A corrupt `state.json` does not survive the first write that succeeds.**
A store whose `Load` failed on a corrupt or unreadable file starts empty and
keeps the file. After any sequence of saves and deletes the file is still
the corrupt one exactly when every write of the sequence failed; a save or
delete whose write succeeds replaces it with the store's own snapshot, and so
does a `MergeState` of any newer snapshot. -/
theorem corrupt_state_file_overwritten (ops : List Op) :
    (newStorage .corrupt).stateFile = .corrupt ∧
      ((run ops (newStorage .corrupt)).stateFile = .corrupt ↔ ∀ op ∈ ops, op.write = .failed) ∧
      (∀ op : Op, op.write = .ok → Persisted (run (ops ++ [op]) (newStorage .corrupt))) ∧
      ∃ s', (newStorage .corrupt).mergeState .ok 2 (run [.save 1 .ok webRecord] (newStorage .absent)).getState =
        .ok s' ∧ Persisted s' := by
  refine ⟨rfl, ?_, fun op hw => by rw [run_append_singleton]; exact persisted_apply hw _, ?_⟩
  · induction ops using List.reverseRecOn with
    | nil => exact iff_of_true rfl nofun
    | append_singleton ops op ih =>
      rw [run_append_singleton, List.forall_mem_append, List.forall_mem_singleton]
      rcases op_write_cases op with hw | hw
      · rw [persisted_apply hw, hw]
        simp
      · rw [stateFile_apply_of_failed hw, ih, hw]
        simp
  · obtain ⟨s', hs'⟩ : ∃ s', (newStorage .corrupt).mergeState .ok 2
        (run [.save 1 .ok webRecord] (newStorage .absent)).getState = .ok s' := ⟨_, rfl⟩
    exact ⟨s', hs', (stateFile_mergeState (by decide) hs').1 rfl⟩

/-! ### Restarting -/

/-- A write to the store: a save or a delete, or a `MergeState` of a snapshot
a peer sent, whose `persist` meets `w`. -/
inductive StoreEvent
  | op (o : Op)
  | merge (now : Time) (w : WriteResult) (t : ClusterState)

/-- The event; only a merge can panic. -/
def StoreEvent.run : StoreEvent → Storage → Except Panic Storage
  | .op o, s => .ok (o.apply s)
  | .merge now w t, s => s.mergeState w now t

/-- What the event's `persist` meets. -/
def StoreEvent.write : StoreEvent → WriteResult
  | .op o => o.write
  | .merge _ w _ => w

/-- The events one after the other; a panic ends the run. -/
def runEvents : List StoreEvent → Storage → Except Panic Storage
  | [], s => .ok s
  | e :: es, s => (e.run s).bind (runEvents es)

/-- **What one event does to `state.json`**: it leaves the file as it was, or
writes the store it leaves; when its write succeeds, it changes nothing or
persists. -/
theorem StoreEvent.run_cases {e : StoreEvent} {s s' : Storage} (h : e.run s = .ok s') :
    (s'.stateFile = s.stateFile ∨ Persisted s') ∧ (e.write = .ok → s' = s ∨ Persisted s') := by
  cases e with
  | op o =>
    cases h
    rcases op_write_cases o with hw | hw
    · exact ⟨.inr (persisted_apply hw s), fun _ => .inr (persisted_apply hw s)⟩
    · refine ⟨.inl (stateFile_apply_of_failed hw s), fun hw' => ?_⟩
      rw [StoreEvent.write, hw] at hw'
      cases hw'
  | merge now w t =>
    by_cases hlt : s.lastModified < t.lastModified
    · obtain ⟨hok, hfail⟩ := stateFile_mergeState hlt h
      cases w
      · exact ⟨.inr (hok rfl), fun _ => .inr (hok rfl)⟩
      · exact ⟨.inl (hfail rfl), fun hw => nomatch hw⟩
    · rw [StoreEvent.run, mergeState_of_le (not_lt.mp hlt)] at h
      cases h
      exact ⟨.inl rfl, fun _ => .inl rfl⟩

theorem runEvents_cons_ok {e : StoreEvent} {es : List StoreEvent} {s s₁ : Storage} (h : e.run s = .ok s₁) :
    runEvents (e :: es) s = runEvents es s₁ := by
  rw [runEvents, h]
  rfl

/-- **The file holds an earlier store of the run.** After a run that does not
panic, `state.json` is the file the run started from, or the snapshot of the
store right after some prefix of the run. -/
theorem runEvents_stateFile : ∀ (evs : List StoreEvent) {s s' : Storage}, runEvents evs s = .ok s' →
    ∃ pre, pre <+: evs ∧ ∃ s₀, runEvents pre s = .ok s₀ ∧ s'.stateFile = s₀.stateFile ∧
      (pre = [] ∨ Persisted s₀)
  | [], s, s', h => by cases h; exact ⟨[], List.prefix_refl _, s, rfl, rfl, .inl rfl⟩
  | e :: es, s, s', h => by
    cases he : e.run s with
    | error p => rw [runEvents, he] at h; cases h
    | ok s₁ =>
      rw [runEvents_cons_ok he] at h
      obtain ⟨pre, hpre, s₀, h₀, hf, hp⟩ := runEvents_stateFile es h
      rcases hp with rfl | hp
      · cases h₀
        rcases (StoreEvent.run_cases he).1 with hf₁ | hp₁
        · exact ⟨[], List.nil_prefix, s, rfl, hf.trans hf₁, .inl rfl⟩
        · exact ⟨[e], List.cons_prefix_cons.mpr ⟨rfl, List.nil_prefix⟩, s₁, by rw [runEvents_cons_ok he]; rfl,
            hf, .inr hp₁⟩
      · exact ⟨e :: pre, List.cons_prefix_cons.mpr ⟨rfl, hpre⟩, s₀, by rw [runEvents_cons_ok he]; exact h₀, hf,
          .inr hp⟩

/-- When no write fails, a run leaves the store it started from or a
persisted one. -/
theorem runEvents_cases : ∀ (evs : List StoreEvent), (∀ e ∈ evs, e.write = .ok) → ∀ {s s' : Storage},
    runEvents evs s = .ok s' → s' = s ∨ Persisted s'
  | [], _, s, s', h => by cases h; exact .inl rfl
  | e :: es, hw, s, s', h => by
    cases he : e.run s with
    | error p => rw [runEvents, he] at h; cases h
    | ok s₁ =>
      rw [runEvents_cons_ok he] at h
      rcases runEvents_cases es (fun e' hm => hw e' (List.mem_cons_of_mem _ hm)) h with rfl | hp
      · exact (StoreEvent.run_cases he).2 (hw e (List.mem_cons_self _ _))
      · exact .inr hp

/-- What `NewStorage` on a file rebuilds of the store that wrote it. -/
theorem getState_newStorage_of_persisted {s : Storage} (h : Persisted s) :
    (newStorage s.stateFile).getState = s.getState := by
  rw [h]
  rfl

/-- **A restart finds a store the run went through.** From whatever
`state.json` a store is started on – missing, unreadable or written – after
any run of saves, deletes and state-sync merges that does not panic,
`NewStorage` on the `state.json` the run left rebuilds the four maps and the
`lastModified` of the store at some point of the run: the start, or right
after an event whose write succeeded. What the later events changed is lost.
When no write of the run fails, it is the store the run reached. -/
theorem restart_restores_store (file : StateFile) (evs : List StoreEvent) {s' : Storage}
    (h : runEvents evs (newStorage file) = .ok s') :
    (∃ pre, pre <+: evs ∧ ∃ s₀, runEvents pre (newStorage file) = .ok s₀ ∧
      (newStorage s'.stateFile).getState = s₀.getState) ∧
      ((∀ e ∈ evs, e.write = .ok) → (newStorage s'.stateFile).getState = s'.getState) := by
  have hstart : (newStorage (newStorage file).stateFile).getState = (newStorage file).getState := by
    cases file <;> rfl
  refine ⟨?_, fun hw => ?_⟩
  · obtain ⟨pre, hpre, s₀, h₀, hf, hp⟩ := runEvents_stateFile evs h
    refine ⟨pre, hpre, s₀, h₀, ?_⟩
    rw [hf]
    rcases hp with rfl | hp
    · cases h₀
      exact hstart
    · exact getState_newStorage_of_persisted hp
  · rcases runEvents_cases evs hw h with rfl | hp
    · exact hstart
    · exact getState_newStorage_of_persisted hp

/-- A save of `default/web` that reaches the disk, then a save of
`default/db` whose write fails: the restart finds `default/web` and not
`default/db`. -/
theorem web_saved_survives_restart :
    runEvents [.op (.save 1 .ok webRecord), .op (.save 2 .failed (.deployment ⟨"db", "default", 1, 1, [], ⟨∅, ∅⟩⟩))]
        (newStorage .absent) =
      .ok (run [.save 1 .ok webRecord, .save 2 .failed (.deployment ⟨"db", "default", 1, 1, [], ⟨∅, ∅⟩⟩)]
        (newStorage .absent)) ∧
    ((∃ pre, pre <+: [.op (.save 1 .ok webRecord),
        .op (.save 2 .failed (.deployment ⟨"db", "default", 1, 1, [], ⟨∅, ∅⟩⟩))] ∧
      ∃ s₀, runEvents pre (newStorage .absent) = .ok s₀ ∧
        (newStorage (run [.save 1 .ok webRecord, .save 2 .failed (.deployment ⟨"db", "default", 1, 1, [], ⟨∅, ∅⟩⟩)]
          (newStorage .absent)).stateFile).getState = s₀.getState) ∧
      ((∀ e ∈ [StoreEvent.op (.save 1 .ok webRecord),
          .op (.save 2 .failed (.deployment ⟨"db", "default", 1, 1, [], ⟨∅, ∅⟩⟩))], e.write = .ok) →
        (newStorage (run [.save 1 .ok webRecord, .save 2 .failed (.deployment ⟨"db", "default", 1, 1, [], ⟨∅, ∅⟩⟩)]
          (newStorage .absent)).stateFile).getState =
          (run [.save 1 .ok webRecord, .save 2 .failed (.deployment ⟨"db", "default", 1, 1, [], ⟨∅, ∅⟩⟩)]
            (newStorage .absent)).getState)) ∧
    get .deployment "default" "db" (newStorage (run [.save 1 .ok webRecord,
        .save 2 .failed (.deployment ⟨"db", "default", 1, 1, [], ⟨∅, ∅⟩⟩)] (newStorage .absent)).stateFile) =
      .error "deployment not found: default/db" :=
  ⟨rfl, restart_restores_store .absent _ rfl, rfl⟩

end Storage

end PodmanSwarm
