import PodmanSwarm.Locks

/-!
# Cluster messages (`internal/cluster`, `security.Encryptor`)

`Cluster.Broadcast(msg)` encrypts the message when the cluster has an
encryptor and hands it to memberlist with one call,
`SendBestEffort(nil, sendMsg)`. On the receiving side `NotifyMsg` decrypts and
passes the plaintext to the registered handler.

The two halves come apart.

* **The sending half reads no membership.** Whatever the cluster's members,
  `Broadcast` makes exactly one transport call and it names no member
  (`PodmanSwarm.Gossip.broadcast_sends`); with more than one other live
  member there are fewer calls than members to reach
  (`PodmanSwarm.Gossip.broadcast_addresses_no_member`).
* **That call panics.** memberlist's `SendBestEffort(to, msg)` starts with
  `to.Address()`, which dereferences the nil `to`; so every `Broadcast` ends
  in a nil-pointer panic, whatever the cluster, the key and the message
  (`PodmanSwarm.Gossip.broadcastOutcome_eq`). The registry's writers and the
  state-sync ticker all call it (`PodmanSwarm.Registry`).
* **The framing round-trips.** `Encrypt` sends the nonce followed by the
  sealed message; `Decrypt` splits at `NonceSize()` and opens the rest. For a
  12-byte nonce and any AEAD that opens what it sealed, `NotifyMsg` hands the
  handler exactly the message (`PodmanSwarm.Gossip.notifyMsg_encrypt`).

AES-GCM is a parameter: `aeadSeal` and `aeadOpen` stand for `aesGCM.Seal` and
`aesGCM.Open` under a key.
-/

namespace PodmanSwarm

namespace Gossip

open Locks

/-- `security.Encryptor`: the 32-byte AES key. -/
structure Encryptor where
  key : List UInt8

/-- `aesGCM.NonceSize()` for the standard GCM. -/
def nonceSize : Nat := 12

/-- The cluster as `Broadcast` and `NotifyMsg` see it. -/
structure ClusterNode where
  /-- `memberlist.LocalNode().Name`. -/
  localName : String
  /-- `memberlist.Members()`: the live members, this node included. -/
  members : List MemberNode
  /-- `c.encryptor`, nil when encryption is off. -/
  encryptor : Option Encryptor

/-- A call of `memberlist.SendBestEffort(to, msg)`; `none` stands for a nil
`to`. -/
structure Send where
  target : Option MemberNode
  payload : List UInt8

section Aead

variable (aeadSeal : List UInt8 → List UInt8 → List UInt8 → List UInt8)
  (aeadOpen : List UInt8 → List UInt8 → List UInt8 → Option (List UInt8))

/-- `Encrypt` with the nonce `nonce` read from `rand.Reader`:
`aesGCM.Seal(nonce, nonce, plaintext, nil)`, the sealed message after the
nonce. -/
def encrypt (e : Encryptor) (nonce plaintext : List UInt8) : List UInt8 :=
  nonce ++ aeadSeal e.key nonce plaintext

/-- `Decrypt`: the nonce is the first `NonceSize()` bytes. -/
def decrypt (e : Encryptor) (ciphertext : List UInt8) : Except String (List UInt8) :=
  if ciphertext.length < nonceSize then .error "ciphertext too short"
  else
    match aeadOpen e.key (ciphertext.take nonceSize) (ciphertext.drop nonceSize) with
    | some plaintext => .ok plaintext
    | none => .error "failed to decrypt"

/-- `Broadcast(msg)`: the transport calls it makes. -/
def broadcast (c : ClusterNode) (nonce msg : List UInt8) : List Send :=
  match c.encryptor with
  | some e => [⟨none, encrypt aeadSeal e nonce msg⟩]
  | none => [⟨none, msg⟩]

/-- memberlist's `SendBestEffort(to, msg)`: `to.Address()` is read first, so a
nil `to` panics; a send to a member is best effort and reports nothing. -/
def sendBestEffort (s : Send) : Except Panic Unit :=
  match s.target with
  | none => .error .nilDereference
  | some _ => .ok ()

/-- What `Broadcast(msg)` comes to once memberlist has made its sends. -/
def broadcastOutcome (c : ClusterNode) (nonce msg : List UInt8) : Except Panic Unit :=
  (broadcast aeadSeal c nonce msg).forM sendBestEffort

/-- `NotifyMsg(msg)`: what it hands the message handler, if anything; a
message that fails to decrypt is dropped. -/
def notifyMsg (c : ClusterNode) (msg : List UInt8) : Option (List UInt8) :=
  match c.encryptor with
  | none => some msg
  | some e =>
    match decrypt aeadOpen e msg with
    | .ok plaintext => some plaintext
    | .error _ => none

/-- The sends a broadcast to the cluster makes: the encrypted message to each
live member other than this node. -/
def sendsToPeers (c : ClusterNode) (payload : List UInt8) : List Send :=
  (c.members.filter fun n => n.name != c.localName).map fun n => ⟨some n, payload⟩

/-- **`Broadcast` makes one call, to no member**, whatever the cluster's
members. -/
theorem broadcast_sends (c : ClusterNode) (nonce msg : List UInt8) :
    (broadcast aeadSeal c nonce msg).length = 1 ∧ ∀ s ∈ broadcast aeadSeal c nonce msg, s.target = none := by
  unfold broadcast
  split <;> simp

/-- **Every `Broadcast` panics**, whatever the cluster, its key and the
message. -/
theorem broadcastOutcome_eq (c : ClusterNode) (nonce msg : List UInt8) :
    broadcastOutcome aeadSeal c nonce msg = .error .nilDereference := by
  unfold broadcastOutcome broadcast
  split <;> rfl

/-- **The framing round-trips.** With an AEAD that opens what it sealed, the
receiver of `Encrypt(msg)` under the same key hands its handler exactly
`msg`. -/
theorem notifyMsg_encrypt (hopen : ∀ k n m, aeadOpen k n (aeadSeal k n m) = some m) {c : ClusterNode}
    {e : Encryptor} (he : c.encryptor = some e) {nonce : List UInt8} (hn : nonce.length = nonceSize)
    (msg : List UInt8) :
    notifyMsg aeadOpen c (encrypt aeadSeal e nonce msg) = some msg := by
  have hlen : ¬ (nonce ++ aeadSeal e.key nonce msg).length < nonceSize := by simp [hn]
  have htake : (nonce ++ aeadSeal e.key nonce msg).take nonceSize = nonce := by
    rw [← hn, List.take_left]
  have hdrop : (nonce ++ aeadSeal e.key nonce msg).drop nonceSize = aeadSeal e.key nonce msg := by
    rw [← hn, List.drop_left]
  simp only [notifyMsg, he, decrypt, encrypt, hlen, if_false, htake, hdrop, hopen]

/-- **Every copy sent is read back.** Under a shared key, each send
`Broadcast` makes carries a payload the receiver's `NotifyMsg` turns back
into the message. -/
theorem broadcast_roundtrip (hopen : ∀ k n m, aeadOpen k n (aeadSeal k n m) = some m) {c r : ClusterNode}
    (hkey : r.encryptor = c.encryptor) {nonce : List UInt8} (hn : nonce.length = nonceSize)
    (msg : List UInt8) :
    ∀ s ∈ broadcast aeadSeal c nonce msg, notifyMsg aeadOpen r s.payload = some msg := by
  unfold broadcast
  split
  · next e he =>
    rintro s (_ | ⟨_, ⟨⟩⟩)
    exact notifyMsg_encrypt aeadSeal aeadOpen hopen (hkey.trans he) hn msg
  · next he =>
    rintro s (_ | ⟨_, ⟨⟩⟩)
    simp [notifyMsg, hkey, he]

end Aead

/-- `Cluster.Broadcast(data)` as every caller in the agent meets it: the
panic of `SendBestEffort(nil, …)`. It is the same for every cluster, key,
nonce and message (`PodmanSwarm.Gossip.broadcastOutcome_clusterBroadcast`), so
the callers' messages are not modelled. -/
def clusterBroadcast : Except Panic Unit := .error .nilDereference

theorem broadcastOutcome_clusterBroadcast (aeadSeal : List UInt8 → List UInt8 → List UInt8 → List UInt8)
    (c : ClusterNode) (nonce msg : List UInt8) :
    broadcastOutcome aeadSeal c nonce msg = clusterBroadcast :=
  broadcastOutcome_eq aeadSeal c nonce msg

/-- Three nodes, `a` among them, sharing one key. -/
def threeNodes : ClusterNode :=
  ⟨"a", [⟨"a", "10.0.0.1"⟩, ⟨"b", "10.0.0.2"⟩, ⟨"c", "10.0.0.3"⟩], some ⟨List.replicate 32 7⟩⟩

/-- **`Broadcast` addresses no member.** On `a` in a cluster of three, two
members should each get a copy; `Broadcast` makes one call, with a nil
target, whatever AES-GCM computes. -/
theorem broadcast_addresses_no_member (aeadSeal : List UInt8 → List UInt8 → List UInt8 → List UInt8)
    (nonce msg : List UInt8) :
    (sendsToPeers threeNodes (encrypt aeadSeal ⟨List.replicate 32 7⟩ nonce msg)).length = 2 ∧
      broadcast aeadSeal threeNodes nonce msg = [⟨none, encrypt aeadSeal ⟨List.replicate 32 7⟩ nonce msg⟩] :=
  ⟨rfl, rfl⟩

end Gossip

end PodmanSwarm
