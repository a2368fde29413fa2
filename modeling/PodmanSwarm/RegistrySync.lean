import PodmanSwarm.Messages
import PodmanSwarm.SyncRounds
import PodmanSwarm.Workload

/-!
# Two registries and the messages between them

`RegisterService` and `DeregisterService` change the local registry and
broadcast one `service_update` message each; a peer's message handler replays it
into its own registry. That is the only path from one node's registry to
another's. The periodic state sync exchanges a `ClusterState` – deployments,
services, ingresses and pods, no registry – so it cannot put back an update
that was lost or overtaken.

This module runs two agents side by side, `true` and `false`, with the
`service_update` messages in flight between them: any message may be delivered
at any time, in any order, or lost, and the stores may run state-sync rounds
(`PodmanSwarm.SyncRounds.runRound`) at any point. It gives `Cluster.Broadcast`
a transport that reaches the peer, so that what the registries would do with
the messages can be asked. The agent's own `Broadcast` panics and sends
nothing (`PodmanSwarm.Gossip.broadcastOutcome_eq`): every message is lost,
which is one of the runs considered here.

* **Delivery is `HandleServiceUpdate`.** Whatever the storage half of the
  handler does, the registry a delivered message leaves is the one
  `HandleServiceUpdate` computes (`PodmanSwarm.RegistrySync.registry_handleMessage`),
  and a message whose `type` is not `service_update` leaves it alone.
* **Quiet events keep the registries.** A sync round changes no registry; once
  no message is in flight, losses, deliveries and sync rounds leave both
  registries as they are, over any run of them
  (`PodmanSwarm.RegistrySync.runNet_quiet`).
* **A lost registration stays lost.** Node `true` registers `default/web`'s
  pod and the message to node `false` is lost; after a full sync round, and
  after any run of further rounds, losses and deliveries, the owner holds the
  endpoint and its peer does not
  (`PodmanSwarm.RegistrySync.lost_register_never_restored`).
-/

namespace PodmanSwarm

namespace RegistrySync

open Messages

/-- The two agents and the `service_update` messages sent and not yet
delivered or lost, each with the node it is for. -/
structure Net where
  node : Bool → Agent
  inFlight : List (Bool × Json)

/-- What can happen next. -/
inductive NetEvent
  /-- `RegisterService` on node `i` at time `now`. -/
  | register (i : Bool) (now : Time) (svc : Service) (pod : Pod)
  /-- `DeregisterService` on node `i` at time `now`. -/
  | deregister (i : Bool) (now : Time) (svc : Service) (pod : Pod)
  /-- The message at position `n` in flight reaches its node at time `now`. -/
  | deliver (n : Nat) (now : Time)
  /-- The message at position `n` in flight is lost. -/
  | lose (n : Nat)
  /-- A state-sync round between the two stores. -/
  | sync (r : List (SyncRounds.RoundEvent × Time))

/-- Whether an event is a registry update at its owner. -/
def NetEvent.isUpdate : NetEvent → Bool
  | .register .. | .deregister .. => true
  | .deliver .. | .lose _ | .sync _ => false

section Run

variable (decode : Option Json → Option StateSyncMessage) (disk : Time → Storage.WriteResult)

/-- One event. A registration files its endpoint, a deregistration drops the
endpoint it found and does nothing when there is none; each sends its
message, stamped with the Unix second, to the other node. A delivered message
goes through the handler `main` registers, and `persist` meets `disk now`. -/
def NetEvent.run : NetEvent → Net → Except Panic Net
  | .register i now svc pod, net =>
    let a := net.node i
    .ok ⟨Function.update net.node i
        { a with registry := (Registry.registerService a.cluster now svc pod a.registry).1 },
      net.inFlight ++
        [(!i, serviceUpdateMessage (Registry.endpointFor a.cluster now svc pod) "register" (now / second))]⟩
  | .deregister i now svc pod, net =>
    let a := net.node i
    match a.registry.find (serviceKey svc.name svc.ns) (endpointID svc.ns svc.name pod.id) with
    | some ep =>
      let reg := Registry.dropEndpoint (serviceKey svc.name svc.ns) (endpointID svc.ns svc.name pod.id) a.registry
      .ok ⟨Function.update net.node i { a with registry := reg },
        net.inFlight ++ [(!i, serviceUpdateMessage ep "deregister" (now / second))]⟩
    | none => .ok net
  | .deliver n now, net =>
    match net.inFlight[n]? with
    | some (j, m) =>
      match handleMessage decode (disk now) now (some m) (net.node j) with
      | .ok a => .ok ⟨Function.update net.node j a, net.inFlight.eraseIdx n⟩
      | .error e => .error e
    | none => .ok net
  | .lose n, net => .ok { net with inFlight := net.inFlight.eraseIdx n }
  | .sync r, net =>
    match SyncRounds.runRound disk r (net.node true).storage (net.node false).storage with
    | .ok (sa, sb) => .ok { net with node := fun i => { net.node i with storage := cond i sa sb } }
    | .error e => .error e

/-- Events in the order they happen. -/
def runNet : List NetEvent → Net → Except Panic Net
  | [], net => .ok net
  | e :: es, net =>
    match e.run decode disk net with
    | .ok net' => runNet es net'
    | .error x => .error x

/-! ### What a delivery does to the registry -/

/-- **The registry a delivered message leaves is `HandleServiceUpdate`'s.**
The storage half of the handler runs after it and does not touch the
registry. -/
theorem registry_handleMessage {w : Storage.WriteResult} {now : Time} {m : Option Json} {a a' : Agent}
    (h : handleMessage decode w now m a = .ok a') : handleServiceUpdate now m a.registry = .ok a'.registry := by
  unfold handleMessage at h
  cases hu : handleServiceUpdate now m a.registry with
  | error e => rw [hu] at h; cases h
  | ok reg =>
    rw [hu] at h
    cases hs : handleStateSyncMessage decode w now m a.storage with
    | error e => rw [hs] at h; cases h
    | ok s => rw [hs] at h; cases h; rfl

/-- **A message that is not a `service_update` leaves the registry alone**;
`state_sync` and `state_request` messages are such messages. -/
theorem registry_handleMessage_of_not_update {w : Storage.WriteResult} {now : Time} {m : Option Json}
    {a a' : Agent} (hm : ∀ fs, decodeMap m = some fs → field fs "type" ≠ some (.str "service_update"))
    (h : handleMessage decode w now m a = .ok a') : a'.registry = a.registry := by
  have := (registry_handleMessage decode h).symm.trans (handleServiceUpdate_of_not_update hm now a.registry)
  exact Except.ok.inj this

/-! ### Quiet events -/

/-- **A sync round changes no registry** and no message in flight. -/
theorem run_sync {r : List (SyncRounds.RoundEvent × Time)} {net net' : Net}
    (h : (NetEvent.sync r).run decode disk net = .ok net') :
    net'.inFlight = net.inFlight ∧ ∀ i, (net'.node i).registry = (net.node i).registry := by
  simp only [NetEvent.run] at h
  split at h
  · cases h; exact ⟨rfl, fun _ => rfl⟩
  · cases h

/-- **With nothing in flight, a quiet event keeps both registries** and
leaves nothing in flight. -/
theorem run_quiet {e : NetEvent} (he : e.isUpdate = false) {net net' : Net} (hf : net.inFlight = [])
    (h : e.run decode disk net = .ok net') :
    net'.inFlight = [] ∧ ∀ i, (net'.node i).registry = (net.node i).registry := by
  cases e with
  | register | deregister => cases he
  | deliver n now =>
    simp only [NetEvent.run, hf, List.getElem?_nil] at h
    cases h; exact ⟨hf, fun _ => rfl⟩
  | lose n =>
    cases h; exact ⟨by simp only [hf, List.eraseIdx_nil], fun _ => rfl⟩
  | sync r =>
    obtain ⟨hf', hr⟩ := run_sync decode disk h
    exact ⟨hf'.trans hf, hr⟩

/-- **Quiet runs keep both registries.** From a state with nothing in flight,
any run of losses, deliveries and sync rounds that completes leaves each
node's registry as it was. -/
theorem runNet_quiet (es : List NetEvent) (hes : ∀ e ∈ es, e.isUpdate = false) {net net' : Net}
    (hf : net.inFlight = []) (h : runNet decode disk es net = .ok net') :
    net'.inFlight = [] ∧ ∀ i, (net'.node i).registry = (net.node i).registry := by
  induction es generalizing net with
  | nil => cases h; exact ⟨hf, fun _ => rfl⟩
  | cons e es ih =>
    simp only [runNet] at h
    split at h
    · next net₁ h₁ =>
      obtain ⟨hf₁, hr₁⟩ := run_quiet decode disk (hes e (List.mem_cons_self _ _)) hf h₁
      obtain ⟨hf', hr'⟩ := ih (fun e he => hes e (List.mem_cons_of_mem _ he)) hf₁ h
      exact ⟨hf', fun i => (hr' i).trans (hr₁ i)⟩
    · cases h

end Run

/-! ### A lost registration -/

/-- `node-1` and `node-2`, each knowing both, with empty stores and
registries and nothing in flight. -/
def twoAgents : Net :=
  ⟨fun i => Agent.start (cond i Agent.twoNodes { Agent.twoNodes with localName := "node-2" }) .absent false, []⟩

/-- The key and ID `RegisterService` files `default/web`'s pod under. -/
def webKey : String := serviceKey Agent.webSvc.name Agent.webSvc.ns

/-- The endpoint ID of `default/web`'s pod. -/
def webID : String := endpointID Agent.webSvc.ns Agent.webSvc.name Registry.webPod.id

/-- **A lost registration is never restored.** Node `true` registers
`default/web`'s pod at one second and its message to node `false` is lost;
then a full sync round runs. Whatever the state-sync decoder and whatever
the disk answers, the run completes, and after it, and after any further run
of sync rounds, losses and deliveries that completes, the owner holds the
endpoint and its peer does not. -/
theorem lost_register_never_restored (decode : Option Json → Option StateSyncMessage)
    (disk : Time → Storage.WriteResult) :
    SyncRounds.ValidRound ((SyncRounds.plainRound (2 * second)).map Prod.fst) ∧
      ∃ net, runNet decode disk [.register true second Agent.webSvc Registry.webPod, .lose 0,
          .sync (SyncRounds.plainRound (2 * second))] twoAgents = .ok net ∧
        ∀ es net', (∀ e ∈ es, e.isUpdate = false) → runNet decode disk es net = .ok net' →
          ((net'.node true).registry.find webKey webID).isSome ∧
            (net'.node false).registry.find webKey webID = none := by
  refine ⟨by decide, _, rfl, fun es net' hes h => ?_⟩
  obtain ⟨-, hr⟩ := runNet_quiet decode disk es hes rfl h
  rw [hr true, hr false]
  exact ⟨rfl, rfl⟩

end RegistrySync

end PodmanSwarm
