import PodmanSwarm.Api

/-!
# The cluster message handler

Every message a peer sends reaches the closure `main` registers with the
cluster, which hands the bytes to `Discovery.HandleServiceUpdate` and then to
`Storage.HandleStateSyncMessage`, ignoring what either returns. The handler
runs on the gossip library's goroutine, with nothing to recover a panic: a
panic in it ends the agent.

`HandleServiceUpdate` decodes the message into a `map[string]interface{}` and,
once `type` is `service_update`, reads every field through an unchecked type
assertion `update["f"].(string)`. A message with the right `type` and a
missing or mistyped field therefore panics
(`PodmanSwarm.Messages.malformed_service_update_panics`). The messages peers
broadcast are well formed, and replaying one files the endpoint the sender
filed, seen now (`PodmanSwarm.Messages.handleServiceUpdate_register`).

`HandleStateSyncMessage` hands the decoded `state` to `MergeState`, which
copies JSON `null` records in as nil pointers; a nil pod panics the next
merge that meets it, and a nil deployment panics `RecoverDeployments`.

A message is modelled as the JSON value the bytes decode to, or `none` when
they are not JSON. Decoding `state` into a `ClusterState` is the JSON
library's work, and is a parameter.
-/

namespace PodmanSwarm

/-- A JSON value as `encoding/json` decodes it into an `interface{}`. Numbers,
which Go decodes as `float64`, are integers here: the handler only converts
the port to `int32`. -/
inductive Json
  | null
  | bool (b : Bool)
  | num (n : Int)
  | str (s : String)
  | arr (xs : List Json)
  | obj (fields : List (String × Json))
  deriving Repr

namespace Messages

/-- `update[k]` on the decoded map: the last occurrence of the key wins, as
when `encoding/json` fills a map. -/
def field (fields : List (String × Json)) (k : String) : Option Json :=
  (fields.reverse.find? (·.1 == k)).map (·.2)

/-- `json.Unmarshal(message, &update)` into a `map[string]interface{}`: an
object gives its fields, `null` a nil map, anything else an error. -/
def decodeMap : Option Json → Option (List (String × Json))
  | some (.obj fields) => some fields
  | some .null => some []
  | _ => none

/-- `v.(string)`; a nil or non-string interface panics. -/
def asString : Option Json → Except Panic String
  | some (.str s) => .ok s
  | _ => .error .interfaceConversion

/-- `v.(float64)`. -/
def asNumber : Option Json → Except Panic Int
  | some (.num n) => .ok n
  | _ => .error .interfaceConversion

/-- `v.(bool)`. -/
def asBool : Option Json → Except Panic Bool
  | some (.bool b) => .ok b
  | _ => .error .interfaceConversion

/-- `HandleServiceUpdate` at time `now`. An undecodable message or another
`type` changes nothing; otherwise every field is asserted before `action` is
looked at. -/
def handleServiceUpdate (now : Time) (m : Option Json) (reg : Registry) : Except Panic Registry :=
  match decodeMap m with
  | none => .ok reg
  | some update =>
    match field update "type" with
    | some (.str "service_update") => do
      let action ← asString (field update "action")
      let serviceName ← asString (field update "serviceName")
      let ns ← asString (field update "namespace")
      let podID ← asString (field update "podID")
      let podName ← asString (field update "podName")
      let nodeName ← asString (field update "nodeName")
      let address ← asString (field update "address")
      let port ← asNumber (field update "port")
      let healthy ← asBool (field update "healthy")
      let key := serviceKey serviceName ns
      let id := endpointID ns serviceName podID
      let ep : ServiceEndpoint := ⟨serviceName, ns, podID, podName, nodeName, address, port, healthy, now⟩
      match action with
      | "register" => return Registry.putEndpoint key id ep reg
      | "deregister" => return Registry.dropEndpoint key id reg
      | _ => return reg
    | _ => .ok reg

/-- The message `broadcastServiceUpdate` sends for an endpoint, sent at
Unix second `sentAt`. -/
def serviceUpdateMessage (ep : ServiceEndpoint) (action : String) (sentAt : Int) : Json :=
  .obj [("type", .str "service_update"), ("action", .str action),
    ("serviceName", .str ep.serviceName), ("namespace", .str ep.ns), ("podID", .str ep.podID),
    ("podName", .str ep.podName), ("nodeName", .str ep.nodeName), ("address", .str ep.address),
    ("port", .num ep.port), ("healthy", .bool ep.healthy), ("timestamp", .num sentAt)]

/-- A `state_sync` or `state_request` message as `HandleStateSyncMessage`
decodes it. -/
structure StateSyncMessage where
  type : String
  /-- `State *ClusterState`, nil when the message has none. -/
  state : Option ClusterState

/-- `HandleStateSyncMessage` at time `now`, where `decode` stands for
`json.Unmarshal` into a `StateSyncMessage` (`none`: it failed) and `w` is
what a merge's `persist` meets. -/
def handleStateSyncMessage (decode : Option Json → Option StateSyncMessage) (w : Storage.WriteResult)
    (now : Time) (m : Option Json) (s : Storage) : Except Panic Storage :=
  match decode m with
  | some ⟨"state_sync", some c⟩ => s.mergeState w now c
  | _ => .ok s

/-- The handler `main` registers: both decoders see every message. -/
def handleMessage (decode : Option Json → Option StateSyncMessage) (w : Storage.WriteResult) (now : Time)
    (m : Option Json) (a : Agent) : Except Panic Agent := do
  let reg ← handleServiceUpdate now m a.registry
  let s ← handleStateSyncMessage decode w now m a.storage
  return { a with registry := reg, storage := s }

/-! ### Well-formed updates -/

/-- A message that does not decode to a map whose `type` is `service_update`
leaves the registry alone. -/
theorem handleServiceUpdate_of_not_update {m : Option Json}
    (h : ∀ fs, decodeMap m = some fs → field fs "type" ≠ some (.str "service_update"))
    (now : Time) (reg : Registry) : handleServiceUpdate now m reg = .ok reg := by
  unfold handleServiceUpdate
  split
  · rfl
  · next fs hfs =>
    split
    · next hty => exact absurd hty (h fs hfs)
    · rfl

/-- **Replaying a registration** files the sender's endpoint, seen now. -/
theorem handleServiceUpdate_register (ep : ServiceEndpoint) (sentAt now : Time) (reg : Registry) :
    handleServiceUpdate now (some (serviceUpdateMessage ep "register" sentAt)) reg =
      .ok (Registry.putEndpoint (serviceKey ep.serviceName ep.ns) (endpointID ep.ns ep.serviceName ep.podID)
        { ep with lastSeen := now } reg) := rfl

/-- **Replaying a deregistration** drops the sender's endpoint. -/
theorem handleServiceUpdate_deregister (ep : ServiceEndpoint) (sentAt now : Time) (reg : Registry) :
    handleServiceUpdate now (some (serviceUpdateMessage ep "deregister" sentAt)) reg =
      .ok (Registry.dropEndpoint (serviceKey ep.serviceName ep.ns)
        (endpointID ep.ns ep.serviceName ep.podID) reg) := rfl

/-! ### Messages that end the agent -/

/-- The snapshot `{"deployments": {"default/web": null}}`, stamped at time 1. -/
def nullDeploymentState : ClusterState := ⟨(∅ : GoMap (Option Deployment)).insert "default/web" none, ∅, ∅, ∅, 1, 1⟩

/-- The snapshot `{"pods": {"default/web-0": null}}`, stamped at time 1. -/
def nullPodState : ClusterState := ⟨∅, ∅, ∅, (∅ : GoMap (Option Pod)).insert "default/web-0" none, 1, 1⟩

/-- The snapshot `{"pods": {"default/web-0": {...}}}`, stamped at time 3. -/
def webPodState : ClusterState :=
  ⟨∅, ∅, ∅, (∅ : GoMap (Option Pod)).insert "default/web-0" (some Registry.webPod), 3, 1⟩

/-- **The handler panics, and lets nil records in.** The message
`{"type":"service_update"}` panics whatever the agent holds and however the
state decoder reads it. A `state_sync` whose state holds a `null` deployment is
merged into a fresh store, after which `RecoverDeployments` panics; one that
holds a `null` pod is merged too, and the next snapshot with a pod under that
key panics `MergeState`. Whether the merges reach `state.json` changes
none of this. -/
theorem malformed_service_update_panics :
    (∀ decode w now (a : Agent),
      handleMessage decode w now (some (.obj [("type", .str "service_update")])) a =
        .error .interfaceConversion) ∧
    (∀ w, ∃ s', (Storage.newStorage .absent).mergeState w 2 nullDeploymentState = .ok s' ∧
      ∀ env c, Agent.recoverDeployments env (Agent.start c (.written s'.getState) false) =
        .error .nilDereference) ∧
    (∀ w w', ∃ s', (Storage.newStorage .absent).mergeState w 2 nullPodState = .ok s' ∧
      s'.mergeState w' 4 webPodState = .error .nilDereference) := by
  refine ⟨fun _ _ _ _ => rfl, fun w => ⟨_, rfl, fun _ _ => ?_⟩, fun w w' => ⟨_, rfl, ?_⟩⟩ <;> cases w <;> rfl

end Messages

end PodmanSwarm
