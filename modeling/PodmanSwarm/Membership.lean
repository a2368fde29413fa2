import PodmanSwarm.Scheduler

/-!
# Joining the cluster (`internal/cluster`, `internal/security`)

A join token is 32 random bytes shown in URL-safe base64; the token manager
keeps, per token, the hex SHA-256 of the shared secret followed by the bytes.
`ValidateToken` accepts a token it holds (and not expired), a token whose
bytes hash, with the secret, to a held hash, and – while it holds no token at
all – anything that decodes.

Who calls it is what matters. `main` builds a token manager on every node and
generates a token only on a node started without seeds and without a token,
so a joiner's manager is always empty. `NewCluster` validates the joiner's
token with *that* manager, before it contacts a seed, and skips the check when
the token is empty; the seed's `NotifyJoin` files every node that reaches it
and looks at no token. So a joiner is admitted exactly when its token is empty
or decodes (`PodmanSwarm.Membership.join_admitted_iff`), whatever the seed's
manager holds (`PodmanSwarm.Membership.seed_admits_unrecognized_token`).

Base64 decoding and hex SHA-256 are parameters of the section below: no
statement depends on what they compute beyond what it says.
-/

namespace PodmanSwarm

namespace Membership

/-- `security.Token`. -/
structure Token where
  value : String
  hash : String
  createdAt : Time
  expiresAt : Option Time
  deriving DecidableEq

/-- `security.TokenManager`. -/
structure TokenManager where
  tokens : GoMap Token
  secret : List UInt8

/-- `ClusterConfig`, the fields `NewCluster` reads. -/
structure ClusterConfig where
  nodeName : String
  bindAddr : String
  joinAddrs : List String
  joinToken : String
  tokenManager : Option TokenManager

/-- `NotifyJoin`: the node is filed under its name, `Ready`, without labels. -/
def notifyJoin (name addr : String) (c : Cluster) : Cluster :=
  { c with nodes := c.nodes.insert name ⟨name, addr, "Ready", ∅⟩ }

section Crypto

variable (encode : List UInt8 → String) (decode : String → Option (List UInt8))
  (hashHex : List UInt8 → String)

/-- `NewTokenManager(secret)`; an empty secret is replaced by the random
bytes `rand`. -/
def newTokenManager (secret rand : List UInt8) : TokenManager :=
  ⟨∅, if secret = [] then rand else secret⟩

/-- `GenerateToken`, on the random bytes `bytes` at time `now`. -/
def generateToken (bytes : List UInt8) (now : Time) (tm : TokenManager) : String × TokenManager :=
  let token := encode bytes
  (token, { tm with tokens := tm.tokens.insert token ⟨token, hashHex (tm.secret ++ bytes), now, none⟩ })

/-- `ValidateToken` at time `now`; an expired token is deleted. -/
def validateToken (now : Time) (token : String) (tm : TokenManager) : Bool × TokenManager :=
  match tm.tokens.lookup token with
  | none =>
    match decode token with
    | none => (false, tm)
    | some bytes =>
      if tm.tokens.vals.any (·.hash == hashHex (tm.secret ++ bytes)) then (true, tm)
      else (tm.tokens.entries.isEmpty, tm)
  | some t =>
    match t.expiresAt with
    | some e => if now > e then (false, { tm with tokens := tm.tokens.erase token }) else (true, tm)
    | none => (true, tm)

/-- The token manager `main` builds from `EncryptionKey`, generating a token
when the node starts without seeds and without a join token. -/
def startTokenManager (key rand bytes : List UInt8) (now : Time) (joinAddrs : List String)
    (joinToken : String) : TokenManager :=
  let tm := newTokenManager key rand
  if joinAddrs = [] ∧ joinToken = "" then (generateToken encode hashHex bytes now tm).2 else tm

/-- The token check of `NewCluster`: with seeds to join, a manager and a
non-empty token, the token must pass the node's own `ValidateToken`. -/
def newClusterAccepts (now : Time) (cfg : ClusterConfig) : Bool :=
  match cfg.joinAddrs, cfg.tokenManager with
  | [], _ => true
  | _ :: _, none => true
  | _ :: _, some tm => cfg.joinToken == "" || (validateToken decode hashHex now cfg.joinToken tm).1

/-- A node started with `cfg` joins through `seed`: it fails with `invalid
join token` at its own check, or the seed's `NotifyJoin` files it. -/
def joinSeed (now : Time) (cfg : ClusterConfig) (seed : Cluster) : Except String Cluster :=
  if newClusterAccepts decode hashHex now cfg then .ok (notifyJoin cfg.nodeName cfg.bindAddr seed)
  else .error "invalid join token"

theorem validateToken_of_empty (now : Time) (token : String) (tm : TokenManager)
    (h : tm.tokens.entries = []) :
    (validateToken decode hashHex now token tm).1 = (decode token).isSome := by
  have hl : tm.tokens.lookup token = none := by simp [AList.lookup, h]
  simp only [validateToken, hl]
  cases decode token <;> simp [GoMap.vals, h]

/-- **Who is admitted.** A joiner as `main` starts it – with seeds to join, so
with an empty token manager – ends in the seed's roster exactly when its
token is empty or decodes, whatever the seed holds. -/
theorem join_admitted_iff (key rand bytes : List UInt8) (now : Time) (cfg : ClusterConfig)
    (hj : cfg.joinAddrs ≠ [])
    (htm : cfg.tokenManager =
      some (startTokenManager encode hashHex key rand bytes now cfg.joinAddrs cfg.joinToken))
    (seed : Cluster) :
    (∃ c, joinSeed decode hashHex now cfg seed = .ok c ∧
        c.nodes.lookup cfg.nodeName = some ⟨cfg.nodeName, cfg.bindAddr, "Ready", ∅⟩) ↔
      (cfg.joinToken = "" ∨ (decode cfg.joinToken).isSome) := by
  have hstart : startTokenManager encode hashHex key rand bytes now cfg.joinAddrs cfg.joinToken =
      newTokenManager key rand := by
    simp [startTokenManager, hj]
  have hacc : newClusterAccepts decode hashHex now cfg = (cfg.joinToken == "" ||
      (decode cfg.joinToken).isSome) := by
    obtain ⟨a, as, hcons⟩ := List.exists_cons_of_ne_nil hj
    rw [newClusterAccepts, htm, hstart, hcons]
    dsimp only
    rw [validateToken_of_empty decode hashHex now _ (newTokenManager key rand) rfl]
  simp only [joinSeed, hacc]
  split_ifs with h
  · simp only [Bool.or_eq_true, beq_iff_eq] at h
    exact iff_of_true ⟨_, rfl, by simp [notifyJoin, AList.lookup_insert]⟩ h
  · simp only [Bool.or_eq_true, beq_iff_eq] at h
    exact iff_of_false (by simp) h

end Crypto

/-- A node started with seed `10.0.0.1` and an empty join token. -/
def emptyTokenJoiner : ClusterConfig :=
  ⟨"joiner", "10.0.0.2", ["10.0.0.1"], "",
    some (startTokenManager (fun _ => "T") (fun _ => "") [] [9] [1] 0 ["10.0.0.1"] "")⟩

theorem emptyTokenJoiner_admitted :
    (∃ c, joinSeed (fun _ => none) (fun _ => "") 0 emptyTokenJoiner ⟨"seed", ∅⟩ = .ok c ∧
        c.nodes.lookup "joiner" = some ⟨"joiner", "10.0.0.2", "Ready", ∅⟩) ↔
      ("" = "" ∨ ((fun _ => none : String → Option (List UInt8)) "").isSome) :=
  join_admitted_iff (fun _ => "T") (fun _ => none) (fun _ => "") [] [9] [1] 0 emptyTokenJoiner
    (by decide) rfl ⟨"seed", ∅⟩

/-- **The seed admits a token it does not recognize.** The seed generated a
token; a node joins it with an empty token, which the seed's manager rejects.
The joiner skips its own check and the seed files it. -/
theorem seed_admits_unrecognized_token :
    ¬ ∀ (decode : String → Option (List UInt8)) (hashHex : List UInt8 → String) (now : Time)
      (seedTm : TokenManager) (seed : Cluster) (cfg : ClusterConfig),
      seedTm.tokens.entries ≠ [] →
      (∃ c, joinSeed decode hashHex now cfg seed = .ok c ∧ cfg.nodeName ∈ c.nodes) →
      (validateToken decode hashHex now cfg.joinToken seedTm).1 = true := by
  intro h
  have := h (fun _ => none) (fun _ => "") 0
    (generateToken (fun _ => "T") (fun _ => "") [1] 0 (newTokenManager [7] [])).2
    ⟨"seed", ∅⟩ ⟨"joiner", "10.0.0.2", ["10.0.0.1"], "", some (newTokenManager [] [9])⟩
    (by decide) ⟨_, rfl, by decide⟩
  revert this
  decide

end Membership

end PodmanSwarm
