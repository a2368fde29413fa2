import PodmanSwarm.Scheduler
import PodmanSwarm.Gossip

/-!
# Service discovery (`internal/discovery`)

The registry is a two-level map: a service key `name.namespace` to the
service's endpoints, each filed under the endpoint ID
`namespace-name-podID`. Five pieces of code touch it: `RegisterService` and
`DeregisterService`, called by the API; `HandleServiceUpdate`, which replays
what other nodes broadcast (`PodmanSwarm.Messages`); the health sweep
`healthCheck`, every 10 s; and the readers `GetServiceEndpoints`,
`GetServiceAddresses` and `ListServices`, which return only *fresh* endpoints:
healthy, and seen within the last 30 s.

All writers reduce to three primitive effects on one endpoint:
`PodmanSwarm.Registry.putEndpoint`, `PodmanSwarm.Registry.dropEndpoint`, and
the sweep. `PodmanSwarm.Registry.find` reads one endpoint, and each primitive
gets its `find` lemma, so that what a run does to one endpoint follows from
what each step does to it.

## The broadcast

`RegisterService` files its endpoint and then broadcasts it;
`DeregisterService` broadcasts before it deletes. The broadcast panics
(`PodmanSwarm.Gossip.broadcastOutcome_eq`), so a registration leaves its
endpoint filed and panics, and a deregistration of a filed endpoint panics
with the endpoint still filed (`PodmanSwarm.Registry.registerService_eq`,
`PodmanSwarm.Registry.deregisterService_eq`). In an API handler `gin.Recovery`
turns the panic into a 500 and the registry keeps what was done before it.

## Freshness

Only a `put` sets `LastSeen`, and only a registration – local or replayed –
puts. The sweep marks endpoints unhealthy and never refreshes one, and the
30 s state-sync tick, which should keep local endpoints fresh, panics in its
own goroutine and ends the agent. So an endpoint that is not registered again
is never refreshed: a run that reaches the sync tick ends the node, and in a
run that does not, the endpoint is filtered out of every reader from 30 s
after its registration on (`PodmanSwarm.Registry.endpoint_expires`).

## The readers

`ListServices` reads each key as `GetServiceEndpoints` does, dropping the
keys left with no fresh endpoint, and `GetServiceAddresses` formats the same
endpoints. Each ranges over the map on its own, in an order of its own, so
they agree on the endpoints they list and not on the order
(`PodmanSwarm.Registry.readers_agree`).
-/

namespace PodmanSwarm

/-- `discovery.ServiceEndpoint`. -/
structure ServiceEndpoint where
  serviceName : String
  /-- `Namespace`. -/
  ns : String
  podID : String
  podName : String
  nodeName : String
  address : String
  port : Int
  healthy : Bool
  lastSeen : Time
  deriving DecidableEq

namespace ServiceEndpoint

/-- The readers' test: `endpoint.Healthy && time.Since(endpoint.LastSeen) < 30*time.Second`. -/
def fresh (now : Time) (e : ServiceEndpoint) : Bool :=
  e.healthy && decide (now - e.lastSeen < 30 * second)

/-- The sweep's step: `if now.Sub(endpoint.LastSeen) > 30*time.Second { endpoint.Healthy = false }`. -/
def sweep (now : Time) (e : ServiceEndpoint) : ServiceEndpoint :=
  if now - e.lastSeen > 30 * second then { e with healthy := false } else e

@[simp] theorem lastSeen_sweep (now : Time) (e : ServiceEndpoint) :
    (e.sweep now).lastSeen = e.lastSeen := by
  unfold sweep; split_ifs <;> rfl

end ServiceEndpoint

/-- `ServiceRegistry.services`: service key to endpoint ID to endpoint. -/
abbrev Registry := GoMap (GoMap ServiceEndpoint)

/-- `serviceKey`. -/
def serviceKey (serviceName ns : String) : String := serviceName ++ "." ++ ns

/-- `endpointID`. -/
def endpointID (ns serviceName podID : String) : String := ns ++ "-" ++ serviceName ++ "-" ++ podID

namespace Registry

/-- The endpoint filed under `key` and `id`. -/
def find (reg : Registry) (key id : String) : Option ServiceEndpoint :=
  (reg.lookup key).bind (·.lookup id)

/-- `if services[key] == nil { services[key] = make(...) }; services[key][id] = ep`. -/
def putEndpoint (key id : String) (ep : ServiceEndpoint) (reg : Registry) : Registry :=
  reg.insert key ((reg.get key ∅).insert id ep)

/-- `if endpoints, ok := services[key]; ok { delete(endpoints, id); if len(endpoints) == 0 { delete(services, key) } }`. -/
def dropEndpoint (key id : String) (reg : Registry) : Registry :=
  match reg.lookup key with
  | some eps => if (eps.erase id).entries = [] then reg.erase key else reg.insert key (eps.erase id)
  | none => reg

/-- One tick of `healthCheck`, at time `now`. -/
def healthSweep (now : Time) (reg : Registry) : Registry :=
  reg.mapVals (GoMap.mapVals (ServiceEndpoint.sweep now))

/-- The endpoint `RegisterService` files for `pod` at time `now`: its address
is the node's roster address, or the node name when the roster lacks it. -/
def endpointFor (c : Cluster) (now : Time) (svc : Service) (pod : Pod) : ServiceEndpoint where
  serviceName := svc.name
  ns := svc.ns
  podID := pod.id
  podName := pod.name
  nodeName := pod.nodeName
  address := match c.getNode pod.nodeName with
    | .ok n => n.address
    | .error _ => pod.nodeName
  port := svc.ports.headD 0
  healthy := true
  lastSeen := now

/-- `RegisterService`: the endpoint is filed under the lock, then
`broadcastServiceUpdate` hands it to `Cluster.Broadcast`. The registry after
the call, and how the call ends. -/
def registerService (c : Cluster) (now : Time) (svc : Service) (pod : Pod) (reg : Registry) :
    Registry × Except Panic Unit :=
  (putEndpoint (serviceKey svc.name svc.ns) (endpointID svc.ns svc.name pod.id) (endpointFor c now svc pod) reg,
    Gossip.clusterBroadcast)

/-- `DeregisterService`: unlike the replayed deregistration, it first checks
that the endpoint exists; it broadcasts before it deletes. -/
def deregisterService (svc : Service) (pod : Pod) (reg : Registry) : Registry × Except Panic Unit :=
  let key := serviceKey svc.name svc.ns
  let id := endpointID svc.ns svc.name pod.id
  if (reg.find key id).isSome then
    match Gossip.clusterBroadcast with
    | .ok () => (dropEndpoint key id reg, .ok ())
    | .error p => (reg, .error p)
  else (reg, .ok ())

/-- **`RegisterService` files the endpoint, then panics.** -/
theorem registerService_eq (c : Cluster) (now : Time) (svc : Service) (pod : Pod) (reg : Registry) :
    registerService c now svc pod reg =
      (putEndpoint (serviceKey svc.name svc.ns) (endpointID svc.ns svc.name pod.id) (endpointFor c now svc pod) reg,
        .error .nilDereference) := rfl

/-- **`DeregisterService` never deletes**: it panics when the endpoint is
filed, before the delete, and does nothing otherwise. -/
theorem deregisterService_eq (svc : Service) (pod : Pod) (reg : Registry) :
    deregisterService svc pod reg =
      (reg, if (reg.find (serviceKey svc.name svc.ns) (endpointID svc.ns svc.name pod.id)).isSome
        then .error .nilDereference else .ok ()) := by
  unfold deregisterService
  dsimp only
  split_ifs <;> rfl

/-- `GetServiceEndpoints` at time `now`. -/
def getServiceEndpoints (serviceName ns : String) (now : Time) (reg : Registry) :
    Except String (List ServiceEndpoint) :=
  let key := serviceKey serviceName ns
  match reg.lookup key with
  | some eps => .ok (eps.vals.filter (·.fresh now))
  | none => .error ("service " ++ key ++ " not found")

/-- `GetServiceAddresses` at time `now`. -/
def getServiceAddresses (serviceName ns : String) (now : Time) (reg : Registry) :
    Except String (List String) :=
  let key := serviceKey serviceName ns
  match reg.lookup key with
  | some eps =>
    let addresses := (eps.vals.filter (·.fresh now)).map fun e => e.address ++ ":" ++ toString e.port
    if addresses = [] then .error ("no healthy instances for service " ++ key) else .ok addresses
  | none => .error ("service " ++ key ++ " not found")

/-- `ListServices` at time `now`: per service key, its fresh endpoints; a key
with none is left out. -/
def listServices (now : Time) (reg : Registry) : GoMap (List ServiceEndpoint) :=
  reg.entries.foldl (fun result e =>
    let healthyEndpoints := e.2.vals.filter (·.fresh now)
    if healthyEndpoints.length > 0 then result.insert e.1 healthyEndpoints else result) ∅

/-! ### One endpoint at a time -/

theorem find_putEndpoint (key id : String) (ep : ServiceEndpoint) (reg : Registry) (k i : String) :
    (putEndpoint key id ep reg).find k i = if k = key ∧ i = id then some ep else reg.find k i := by
  unfold putEndpoint find
  by_cases hk : k = key
  · subst hk
    by_cases hi : i = id
    · subst hi
      simp [AList.lookup_insert]
    · simp only [AList.lookup_insert, Option.some_bind, AList.lookup_insert_ne hi, hi, and_false,
        if_false, GoMap.get]
      cases reg.lookup k <;> rfl
  · simp [hk, AList.lookup_insert_ne hk]

theorem lookup_erase_ite (eps : GoMap ServiceEndpoint) (id i : String) :
    (eps.erase id).lookup i = if i = id then none else eps.lookup i := by
  split_ifs with h
  · subst h
    exact AList.lookup_erase _ _
  · exact AList.lookup_erase_ne h

theorem find_dropEndpoint (key id : String) (reg : Registry) (k i : String) :
    (dropEndpoint key id reg).find k i = if k = key ∧ i = id then none else reg.find k i := by
  unfold dropEndpoint find
  cases h : reg.lookup key with
  | none =>
    by_cases hk : k = key
    · subst hk
      simp [h]
    · simp [hk]
  | some eps =>
    have hl := lookup_erase_ite eps id i
    by_cases hk : k = key
    · subst hk
      by_cases he : (eps.erase id).entries = []
      · have hnone : (eps.erase id).lookup i = none := by simp [AList.lookup, he]
        by_cases hi : i = id <;> simp_all [AList.lookup_erase]
      · by_cases hi : i = id <;> simp_all [AList.lookup_insert]
    · rw [if_neg fun h => hk h.1]
      dsimp only
      split_ifs <;> simp [AList.lookup_insert_ne hk, AList.lookup_erase_ne hk]

@[simp] theorem find_healthSweep (now : Time) (reg : Registry) (k i : String) :
    (healthSweep now reg).find k i = (reg.find k i).map (ServiceEndpoint.sweep now) := by
  simp only [find, healthSweep, GoMap.lookup_mapVals]
  cases reg.lookup k <;> simp

theorem mem_getServiceEndpoints {name ns : String} {now : Time} {reg : Registry}
    {l : List ServiceEndpoint} (h : getServiceEndpoints name ns now reg = .ok l) (e : ServiceEndpoint) :
    e ∈ l ↔ (∃ id, reg.find (serviceKey name ns) id = some e) ∧ e.fresh now := by
  dsimp only [getServiceEndpoints] at h
  split at h
  · next eps heps =>
    cases h
    simp only [List.mem_filter, GoMap.vals, List.mem_map, find, heps, Option.some_bind]
    constructor
    · rintro ⟨⟨⟨i, e'⟩, hm, rfl⟩, hf⟩
      exact ⟨⟨i, AList.mem_lookup_iff.mpr hm⟩, hf⟩
    · rintro ⟨⟨i, hi⟩, hf⟩
      exact ⟨⟨⟨i, e⟩, AList.mem_lookup_iff.mp hi, rfl⟩, hf⟩
  · cases h

/-! ### The three readers agree -/

/-- `ListServices` reads each key as `GetServiceEndpoints` does. -/
theorem lookup_listServices (now : Time) (reg : Registry) (k : String) :
    (listServices now reg).lookup k = (reg.lookup k).bind fun eps =>
      if eps.vals.filter (·.fresh now) = [] then none else some (eps.vals.filter (·.fresh now)) := by
  have key : ∀ (l : List (Sigma fun _ : String => GoMap ServiceEndpoint)), l.NodupKeys →
      ∀ m : GoMap (List ServiceEndpoint), (l.foldl (fun result e =>
        let healthyEndpoints := e.2.vals.filter (·.fresh now)
        if healthyEndpoints.length > 0 then result.insert e.1 healthyEndpoints else result) m).lookup k =
      ((l.dlookup k).bind fun eps =>
        if eps.vals.filter (·.fresh now) = [] then none else some (eps.vals.filter (·.fresh now))).or
        (m.lookup k) := by
    intro l hl
    induction l with
    | nil => intro m; rfl
    | cons e l ih =>
      intro m
      rw [List.nodupKeys_cons] at hl
      rw [List.foldl_cons, ih hl.2]
      by_cases hk : k = e.1
      · subst hk
        rw [List.dlookup_eq_none.mpr hl.1, List.dlookup_cons_eq, Option.some_bind]
        dsimp only
        by_cases hf : e.2.vals.filter (·.fresh now) = []
        · rw [if_neg (by rw [hf]; decide), if_pos hf]
          rfl
        · rw [if_pos (List.length_pos.mpr hf), if_neg hf, AList.lookup_insert]
          rfl
      · rw [List.dlookup_cons_ne _ _ hk]
        dsimp only
        split_ifs <;> simp [AList.lookup_insert_ne hk]
  rw [listServices, key _ reg.nodupKeys, AList.lookup_empty, Option.or_none]
  rfl

/-- **The three readers agree on what they list.** `ListServices` lists a
service's key exactly when `GetServiceEndpoints` returns a non-empty list for
it, and then lists the same endpoints; `GetServiceAddresses` succeeds exactly
then, with the addresses of those endpoints. Each reader ranges over the map
in an order of its own, so only the members are compared. -/
theorem readers_agree (name ns : String) (now : Time) (reg : Registry) :
    ((∃ l', (listServices now reg).lookup (serviceKey name ns) = some l') ↔
      ∃ l, getServiceEndpoints name ns now reg = .ok l ∧ l ≠ []) ∧
    (∀ l' l, (listServices now reg).lookup (serviceKey name ns) = some l' →
      getServiceEndpoints name ns now reg = .ok l → ∀ e, e ∈ l' ↔ e ∈ l) ∧
    ((∃ addresses, getServiceAddresses name ns now reg = .ok addresses) ↔
      ∃ l, getServiceEndpoints name ns now reg = .ok l ∧ l ≠ []) ∧
    (∀ addresses l, getServiceAddresses name ns now reg = .ok addresses →
      getServiceEndpoints name ns now reg = .ok l →
        ∀ a, a ∈ addresses ↔ ∃ e ∈ l, a = e.address ++ ":" ++ toString e.port) := by
  rw [lookup_listServices]
  simp only [getServiceEndpoints, getServiceAddresses]
  cases reg.lookup (serviceKey name ns) with
  | none => simp
  | some eps =>
    rw [Option.some_bind]
    by_cases hf : eps.vals.filter (·.fresh now) = []
    · simp [hf]
    · have hm : (eps.vals.filter (·.fresh now)).map (fun e => e.address ++ ":" ++ toString e.port) ≠ [] :=
        fun h => hf (List.map_eq_nil_iff.mp h)
      simp only [if_neg hf, if_neg hm, Option.some.injEq, Except.ok.injEq]
      refine ⟨iff_of_true ⟨_, rfl⟩ ⟨_, rfl, hf⟩, ?_, iff_of_true ⟨_, rfl⟩ ⟨_, rfl, hf⟩, ?_⟩
      · rintro l' l rfl rfl e
        rfl
      · rintro addresses l rfl rfl a
        simp only [List.mem_map, eq_comm]

/-! ### What a step can do to one endpoint -/

/-- What a step of the node can do to the registry: the three primitive
writes, and a tick of `StartPeriodicSync`'s 30 s ticker. -/
inductive RegistryStep
  | put (key id : String) (ep : ServiceEndpoint)
  | drop (key id : String)
  | sweep (now : Time)
  /-- `BroadcastState(clusterInstance.Broadcast, …)`: the snapshot of the
  store goes to `Cluster.Broadcast`, in the ticker's goroutine. -/
  | syncTick

namespace RegistryStep

/-- The effect of a step, or `none` once a panic in a goroutine has ended
the agent. -/
def run : RegistryStep → Registry → Option Registry
  | put key id ep, reg => some (putEndpoint key id ep reg)
  | drop key id, reg => some (dropEndpoint key id reg)
  | sweep now, reg => some (healthSweep now reg)
  | syncTick, reg =>
    match Gossip.clusterBroadcast with
    | .ok () => some reg
    | .error _ => none

/-- The step does not file a new endpoint under `key` and `id`. -/
def Keeps (key id : String) : RegistryStep → Prop
  | put k i _ => ¬(k = key ∧ i = id)
  | _ => True

instance (key id : String) (st : RegistryStep) : Decidable (st.Keeps key id) :=
  match st with
  | put k i _ => inferInstanceAs (Decidable ¬(k = key ∧ i = id))
  | drop _ _ => inferInstanceAs (Decidable True)
  | sweep _ => inferInstanceAs (Decidable True)
  | syncTick => inferInstanceAs (Decidable True)

/-- The endpoint under `key` and `id`, if there is one, was last seen at `t`. -/
def SeenAt (key id : String) (t : Time) (reg : Registry) : Prop :=
  ∀ e, reg.find key id = some e → e.lastSeen = t

/-- **No step but a registration refreshes an endpoint**: a step that does not
register it again leaves it gone, or seen when it was. -/
theorem seenAt_run {key id : String} {t : Time} {st : RegistryStep} (hst : st.Keeps key id)
    {reg reg' : Registry} (h : SeenAt key id t reg) (hr : st.run reg = some reg') : SeenAt key id t reg' := by
  intro e he
  cases st with
  | put k i ep =>
    cases hr
    have : ¬(key = k ∧ id = i) := fun h' => hst ⟨h'.1.symm, h'.2.symm⟩
    rw [find_putEndpoint, if_neg this] at he
    exact h e he
  | drop k i =>
    cases hr
    rw [find_dropEndpoint] at he
    split_ifs at he
    exact h e he
  | sweep now =>
    cases hr
    rw [find_healthSweep, Option.map_eq_some'] at he
    obtain ⟨e₀, h₀, rfl⟩ := he
    rw [ServiceEndpoint.lastSeen_sweep]
    exact h e₀ h₀
  | syncTick => cases hr

end RegistryStep

/-- A run of steps, first step first; it stops when the agent ends. -/
def runSteps : List RegistryStep → Registry → Option Registry
  | [], reg => some reg
  | st :: steps, reg => (st.run reg).bind (runSteps steps)

/-- A run that reaches the sync tick ends the agent. -/
theorem runSteps_of_syncTick_mem : ∀ {steps : List RegistryStep} (reg : Registry),
    RegistryStep.syncTick ∈ steps → runSteps steps reg = none
  | st :: steps, reg, hm => by
    rcases List.mem_cons.mp hm with rfl | hm
    · rfl
    · rw [runSteps]
      cases st.run reg with
      | none => rfl
      | some r => exact runSteps_of_syncTick_mem r hm

theorem seenAt_runSteps {key id : String} {t : Time} : ∀ (steps : List RegistryStep),
    (∀ st ∈ steps, st.Keeps key id) → ∀ {reg reg' : Registry}, RegistryStep.SeenAt key id t reg →
      runSteps steps reg = some reg' → RegistryStep.SeenAt key id t reg'
  | [], _, _, _, h, hr => by cases hr; exact h
  | st :: steps, hs, reg, reg', h, hr => by
    rw [runSteps] at hr
    cases hst : st.run reg with
    | none => rw [hst] at hr; cases hr
    | some r =>
      rw [hst] at hr
      exact seenAt_runSteps steps (fun st' hm => hs st' (List.mem_cons_of_mem _ hm))
        (RegistryStep.seenAt_run (hs st (List.mem_cons_self _ _)) h hst) hr

/-- **Nothing keeps an endpoint fresh.** Take an endpoint of the service
`name.ns` and any run of the node's steps – local and replayed registrations
of other endpoints, deregistrations, health sweeps, ticks of the state sync –
that does not register it again. A run that reaches the sync tick ends the
agent: `BroadcastState` panics in the ticker's goroutine. Wherever a run
without it ends, the endpoint is either gone or still carries the `LastSeen`
it had, and from 30 s after that time on `GetServiceEndpoints` leaves it
out. -/
theorem endpoint_expires {reg : Registry} {name ns id : String} {e : ServiceEndpoint}
    (he : reg.find (serviceKey name ns) id = some e) (steps : List RegistryStep)
    (hs : ∀ st ∈ steps, st.Keeps (serviceKey name ns) id) :
    (RegistryStep.syncTick ∈ steps → runSteps steps reg = none) ∧
      ∀ reg', runSteps steps reg = some reg' → ∀ e', reg'.find (serviceKey name ns) id = some e' →
        e'.lastSeen = e.lastSeen ∧ ∀ now l, e.lastSeen + 30 * second ≤ now →
          getServiceEndpoints name ns now reg' = .ok l → e' ∉ l := by
  refine ⟨runSteps_of_syncTick_mem reg, fun reg' hr e' he' => ?_⟩
  have hseen : e'.lastSeen = e.lastSeen :=
    seenAt_runSteps steps hs (fun e₀ h₀ => by rw [he] at h₀; cases h₀; rfl) hr e' he'
  refine ⟨hseen, fun now l hnow hl hm => ?_⟩
  have hf := ((mem_getServiceEndpoints hl e').mp hm).2
  simp only [ServiceEndpoint.fresh, Bool.and_eq_true, decide_eq_true_eq] at hf
  rw [hseen] at hf
  exact Int.not_lt.mpr (Int.le_sub_left_of_add_le hnow) hf.2

/-- The service `default/web` on port 80. -/
def webService : Service := ⟨"web", "default", ∅, [80]⟩

/-- A pod `web-0` of `default/web`, placed on `node-1`. -/
def webPod : Pod := ⟨"p1", "web-0", "default", "node-1", .running, ∅, ∅, 0⟩

/-- The registry after `RegisterService` of `webPod` one second after the
node started. -/
def webRegisteredAtOne : Registry := (registerService ⟨"node-1", ∅⟩ second webService webPod ∅).1

/-- The endpoint of `webPod`, registered at 1 s and swept at 10 s and 20 s:
the sync tick at 30 s ends the agent, and in a run whose third step is a
sweep instead, the endpoint is left out of every reader from 31 s on. -/
theorem webPod_endpoint_expires :
    runSteps [.sweep (10 * second), .sweep (20 * second), .syncTick] webRegisteredAtOne = none ∧
      ∀ reg', runSteps [.sweep (10 * second), .sweep (20 * second), .sweep (30 * second)] webRegisteredAtOne =
          some reg' → ∀ e', reg'.find (serviceKey "web" "default") "default-web-p1" = some e' →
          e'.lastSeen = second ∧ ∀ now l, second + 30 * second ≤ now →
            getServiceEndpoints "web" "default" now reg' = .ok l → e' ∉ l :=
  ⟨(@endpoint_expires webRegisteredAtOne "web" "default" "default-web-p1"
      (endpointFor ⟨"node-1", ∅⟩ second webService webPod) (by rfl) _ (by decide)).1 (by simp),
    (@endpoint_expires webRegisteredAtOne "web" "default" "default-web-p1"
      (endpointFor ⟨"node-1", ∅⟩ second webService webPod) (by rfl)
      [.sweep (10 * second), .sweep (20 * second), .sweep (30 * second)] (by decide)).2⟩

end Registry

end PodmanSwarm
