import PodmanSwarm.Messages

/-!
# The registry over whole runs

Four pieces of code write the registry: `RegisterService` and
`DeregisterService`, which the API calls; `HandleServiceUpdate`, which replays
whatever a peer sends; and the health sweep. Each reduces to
`PodmanSwarm.Registry.putEndpoint`, `PodmanSwarm.Registry.dropEndpoint`,
`PodmanSwarm.Registry.healthSweep` or no write at all, and each of these keeps
two facts
(`PodmanSwarm.Registry.Inv`):

* every endpoint is filed under the service key and endpoint ID its own
  fields give – a replayed registration computes both from the fields of the
  endpoint it files, as `RegisterService` does, and the sweep only clears
  `Healthy`;
* no service key keeps an empty table: a replayed deregistration deletes the
  key with its last endpoint, `DeregisterService` panics before its delete,
  and the sweep deletes nothing.

So on every registry a node reaches, `GetServiceEndpoints` answers "not found"
exactly when nothing is filed under the service's key, and an empty list
means that every endpoint filed for it is stale
(`PodmanSwarm.Registry.getServiceEndpoints_of_runOps`). The API's
`GetServiceEndpoints` handler turns the first into a 404 and the second into a
200 with no endpoint.
-/

namespace PodmanSwarm

namespace Registry

/-- A write to the registry, as the agent makes it. -/
inductive RegistryOp
  /-- `RegisterService(svc, pod)` at time `now`, against the roster `c`. -/
  | register (c : Cluster) (now : Time) (svc : Service) (pod : Pod)
  /-- `DeregisterService(svc, pod)`. -/
  | deregister (svc : Service) (pod : Pod)
  /-- `HandleServiceUpdate` of any message, at time `now`. -/
  | replay (now : Time) (m : Option Json)
  /-- One tick of `healthCheck`. -/
  | sweep (now : Time)

/-- The write, and the registry it leaves. `RegisterService` panics after
filing and `DeregisterService` before deleting; the API handler that calls
them recovers, and the node goes on with what was written. A replayed message
that panics ends the run: `HandleServiceUpdate` runs on the gossip goroutine,
with no recover. -/
def RegistryOp.run : RegistryOp → Registry → Except Panic Registry
  | .register c now svc pod, reg => .ok (registerService c now svc pod reg).1
  | .deregister svc pod, reg => .ok (deregisterService svc pod reg).1
  | .replay now m, reg => Messages.handleServiceUpdate now m reg
  | .sweep now, reg => .ok (healthSweep now reg)

/-- A run of writes, first write first; a panic ends it. -/
def runOps : List RegistryOp → Registry → Except Panic Registry
  | [], reg => .ok reg
  | op :: ops, reg => (op.run reg).bind (runOps ops)

/-- What holds of every registry a node reaches. -/
structure Inv (reg : Registry) : Prop where
  /-- Every endpoint is filed under the key and ID its own fields give. -/
  filed : ∀ k i e, reg.find k i = some e →
    k = serviceKey e.serviceName e.ns ∧ i = endpointID e.ns e.serviceName e.podID
  /-- No service key keeps an empty table. -/
  nonempty : ∀ k eps, reg.lookup k = some eps → eps.entries ≠ []

/-! ### The three primitives -/

theorem Inv.empty : Inv ∅ where
  filed _ _ _ h := by simp [find] at h
  nonempty _ _ h := by simp at h

/-- Filing an endpoint under its own key and ID. -/
theorem Inv.putEndpoint {reg : Registry} (h : Inv reg) (ep : ServiceEndpoint) :
    Inv (putEndpoint (serviceKey ep.serviceName ep.ns) (endpointID ep.ns ep.serviceName ep.podID) ep reg) where
  filed k i e he := by
    rw [find_putEndpoint] at he
    split_ifs at he with hki
    · cases he
      exact hki
    · exact h.filed k i e he
  nonempty k eps hk := by
    unfold Registry.putEndpoint at hk
    by_cases hkk : k = serviceKey ep.serviceName ep.ns
    · subst hkk
      rw [AList.lookup_insert, Option.some.injEq] at hk
      subst hk
      rw [AList.insert_entries]
      exact List.cons_ne_nil _ _
    · rw [AList.lookup_insert_ne hkk] at hk
      exact h.nonempty k eps hk

theorem Inv.dropEndpoint {reg : Registry} (h : Inv reg) (key id : String) : Inv (dropEndpoint key id reg) where
  filed k i e he := by
    rw [find_dropEndpoint] at he
    split_ifs at he
    exact h.filed k i e he
  nonempty k eps hk := by
    unfold Registry.dropEndpoint at hk
    split at hk
    · split_ifs at hk with he
      · by_cases hkk : k = key
        · subst hkk
          rw [AList.lookup_erase] at hk
          cases hk
        · rw [AList.lookup_erase_ne hkk] at hk
          exact h.nonempty k eps hk
      · by_cases hkk : k = key
        · subst hkk
          rw [AList.lookup_insert, Option.some.injEq] at hk
          exact hk ▸ he
        · rw [AList.lookup_insert_ne hkk] at hk
          exact h.nonempty k eps hk
    · exact h.nonempty k eps hk

theorem Inv.healthSweep {reg : Registry} (h : Inv reg) (now : Time) : Inv (healthSweep now reg) where
  filed k i e he := by
    rw [find_healthSweep, Option.map_eq_some'] at he
    obtain ⟨e₀, h₀, rfl⟩ := he
    unfold ServiceEndpoint.sweep
    split_ifs <;> exact h.filed k i e₀ h₀
  nonempty k eps hk := by
    rw [Registry.healthSweep, GoMap.lookup_mapVals, Option.map_eq_some'] at hk
    obtain ⟨eps₀, h₀, rfl⟩ := hk
    simpa [GoMap.mapVals] using h.nonempty k eps₀ h₀

/-! ### The four writers -/

/-- Peeling one step off a computation in `Except` that succeeded. -/
theorem except_bind_eq_ok {ε α β : Type} {x : Except ε α} {f : α → Except ε β} {b : β}
    (h : x >>= f = .ok b) : ∃ a, x = .ok a ∧ f a = .ok b := by
  cases x with
  | error e => cases h
  | ok a => exact ⟨a, rfl, h⟩

/-- A replayed message keeps the invariant, whatever it holds. -/
theorem Inv.handleServiceUpdate {reg reg' : Registry} (h : Inv reg) {now : Time} {m : Option Json}
    (hm : Messages.handleServiceUpdate now m reg = .ok reg') : Inv reg' := by
  unfold Messages.handleServiceUpdate at hm
  split at hm
  · cases hm
    exact h
  split at hm
  · iterate 9 obtain ⟨_, -, hm⟩ := except_bind_eq_ok hm
    dsimp only at hm
    split at hm <;> cases hm
    · exact h.putEndpoint ⟨_, _, _, _, _, _, _, _, now⟩
    · exact h.dropEndpoint _ _
    · exact h
  · cases hm
    exact h

theorem Inv.run {reg reg' : Registry} (h : Inv reg) {op : RegistryOp} (hop : op.run reg = .ok reg') :
    Inv reg' := by
  cases op with
  | register c now svc pod =>
    cases hop
    exact h.putEndpoint (endpointFor c now svc pod)
  | deregister svc pod =>
    cases hop
    rw [deregisterService_eq]
    exact h
  | replay now m => exact h.handleServiceUpdate hop
  | sweep now =>
    cases hop
    exact h.healthSweep now

theorem Inv.runOps {reg reg' : Registry} (h : Inv reg) {ops : List RegistryOp} (hops : runOps ops reg = .ok reg') :
    Inv reg' := by
  induction ops generalizing reg with
  | nil =>
    cases hops
    exact h
  | cons op ops ih =>
    obtain ⟨reg₁, h₁, h₂⟩ := except_bind_eq_ok hops
    exact ih (h.run h₁) h₂

/-! ### What the readers answer -/

/-- **"Not found" means nothing is filed.** On every registry a run of the
agent's writes reaches from the empty one, `GetServiceEndpoints(name, ns)`
fails exactly when no endpoint is filed under the service's key. Otherwise it
lists fresh endpoints, each carrying fields whose key is that key, and it
lists none exactly when every endpoint filed under the key is stale. -/
theorem getServiceEndpoints_of_runOps (ops : List RegistryOp) {reg : Registry} (h : runOps ops ∅ = .ok reg)
    (name ns : String) (now : Time) :
    ((∃ err, getServiceEndpoints name ns now reg = .error err) ↔ ∀ i, reg.find (serviceKey name ns) i = none) ∧
      ∀ l, getServiceEndpoints name ns now reg = .ok l →
        (∀ e ∈ l, serviceKey e.serviceName e.ns = serviceKey name ns ∧ e.fresh now = true) ∧
        (l = [] ↔ ∀ i e, reg.find (serviceKey name ns) i = some e → e.fresh now = false) := by
  have hi := Inv.empty.runOps h
  refine ⟨?_, fun l hl => ⟨fun e he => ?_, ?_⟩⟩
  · simp only [getServiceEndpoints, find]
    cases hk : reg.lookup (serviceKey name ns) with
    | none => simp
    | some eps =>
      simp only [Option.some_bind, reduceCtorEq, exists_false, false_iff, not_forall]
      obtain ⟨⟨i, e⟩, he⟩ := List.exists_mem_of_ne_nil _ (hi.nonempty _ eps hk)
      exact ⟨i, by rw [AList.mem_lookup_iff.mpr he]; exact Option.some_ne_none e⟩
  · obtain ⟨⟨i, hf⟩, hfr⟩ := (mem_getServiceEndpoints hl e).mp he
    exact ⟨(hi.filed _ i e hf).1.symm, hfr⟩
  · rw [List.eq_nil_iff_forall_not_mem]
    refine ⟨fun hn i e hf => ?_, fun hs e he => ?_⟩
    · by_contra hfr
      exact hn e ((mem_getServiceEndpoints hl e).mpr ⟨⟨i, hf⟩, by simpa using hfr⟩)
    · obtain ⟨⟨i, hf⟩, hfr⟩ := (mem_getServiceEndpoints hl e).mp he
      rw [hs i e hf] at hfr
      cases hfr

/-- The registry after `RegisterService` of `web-0` for `default/web` at time 0. -/
def webRegistry : Registry := (registerService ⟨"node-1", ∅⟩ 0 webService webPod ∅).1

theorem webRegistry_endpoints :
    ((∃ err, getServiceEndpoints "web" "default" 0 webRegistry = .error err) ↔
        ∀ i, webRegistry.find (serviceKey "web" "default") i = none) ∧
      ∀ l, getServiceEndpoints "web" "default" 0 webRegistry = .ok l →
        (∀ e ∈ l, serviceKey e.serviceName e.ns = serviceKey "web" "default" ∧ e.fresh 0 = true) ∧
        (l = [] ↔ ∀ i e, webRegistry.find (serviceKey "web" "default") i = some e → e.fresh 0 = false) :=
  getServiceEndpoints_of_runOps [.register ⟨"node-1", ∅⟩ 0 webService webPod] rfl "web" "default" 0

end Registry

end PodmanSwarm
