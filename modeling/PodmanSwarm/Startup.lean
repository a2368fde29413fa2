import PodmanSwarm.Gossip
import PodmanSwarm.Strings

/-!
# Starting an agent (`cmd/agent/main.go`, `internal/config`)

`config.Load` reads each setting from its command-line flag, else from its
environment variable, else from a default, and completes two lists: the seeds
to join and the upstream DNS servers, both comma-separated, each entry
trimmed, and an upstream without a `:` given port `53`.

`main` then chooses the key every cluster message is sealed under. The key
given as `ENCRYPTION_KEY` comes first; a node that joins with a token takes
the token's bytes; and any other node – the first node of a cluster, as it is
started without seeds – falls back to the file `encryption.key` in its data
directory. The fallback is commented "generate a random key", but the bytes it
starts from, `make([]byte, 32)`, are never filled: when the file is missing
`main` writes 32 zero bytes to it and uses them, and every later start reads
them back. `NewEncryptor` keeps a 32-byte key as it is, so such a node seals
its messages under the all-zero AES key on every start
(`PodmanSwarm.Startup.default_cluster_key_is_zero`).

A key that is not 32 bytes long is replaced by its SHA-256, a parameter here.
-/

namespace PodmanSwarm

namespace Startup

open Strings

/-! ### `config.Load` -/

/-- What `config.Load` reads: `flag name` is the value given as `--name` on
the command line, if any, and `env key` is `os.Getenv(key)`. -/
structure Invocation where
  flag : String → Option String
  env : String → String

/-- `getEnv(key, defaultValue)`: the variable, unless it is unset or empty. -/
def getEnv (env : String → String) (key defaultValue : String) : String :=
  if env key ≠ "" then env key else defaultValue

/-- `flag.StringVar(&v, name, getEnv(key, defaultValue), ...)`, read after
`flag.Parse()`. -/
def stringFlag (inv : Invocation) (name key defaultValue : String) : String :=
  (inv.flag name).getD (getEnv inv.env key defaultValue)

/-- `config.Config`, the fields the startup code below reads. -/
structure Config where
  nodeName : String
  bindAddr : String
  dataDir : String
  joinAddrs : List String
  joinToken : String
  encryptionKey : String
  upstreamDNS : List String

/-- One entry of `UPSTREAM_DNS`: trimmed, with `:53` added when it contains
no `:`. -/
def withPort (addr : String) : String :=
  if contains (trimSpace addr) ":" then trimSpace addr else trimSpace addr ++ ":53"

/-- `config.Load`. -/
def load (inv : Invocation) : Config :=
  let joinStr := stringFlag inv "join" "JOIN" ""
  let upstreamDNSStr := stringFlag inv "upstream-dns" "UPSTREAM_DNS" "8.8.8.8:53,8.8.4.4:53"
  { nodeName := stringFlag inv "node-name" "NODE_NAME" "node-1"
    bindAddr := stringFlag inv "bind-addr" "BIND_ADDR" "0.0.0.0:7946"
    dataDir := stringFlag inv "data-dir" "DATA_DIR" "/var/lib/podman-swarm"
    joinAddrs := if joinStr ≠ "" then (split joinStr ',').map trimSpace else []
    joinToken := stringFlag inv "join-token" "JOIN_TOKEN" ""
    encryptionKey := stringFlag inv "encryption-key" "ENCRYPTION_KEY" ""
    upstreamDNS := if upstreamDNSStr ≠ "" then (split upstreamDNSStr ',').map withPort else [] }

/-! ### The cluster key -/

/-- `[]byte(s)`. -/
def bytesOf (s : String) : List UInt8 := s.toUTF8.toList

/-- `main`'s choice of the cluster key, on a start that finds `encryption.key`
holding `keyFile` (`none`: `os.ReadFile` fails on it), and whose write of the
file, if it makes one, succeeds when `written`: the key, and the file after
the start. -/
def encryptionKeyOf (cfg : Config) (written : Bool) (keyFile : Option (List UInt8)) :
    List UInt8 × Option (List UInt8) :=
  if cfg.encryptionKey ≠ "" then (bytesOf cfg.encryptionKey, keyFile)
  else if cfg.joinAddrs ≠ [] ∧ cfg.joinToken ≠ "" then (bytesOf cfg.joinToken, keyFile)
  else
    let encryptionKey : List UInt8 := List.replicate 32 0
    match keyFile with
    | some keyData => (if keyData.length ≥ 32 then keyData.take 32 else encryptionKey, keyFile)
    | none => (encryptionKey, if written then some encryptionKey else none)

section Hash

variable (sha256 : List UInt8 → List UInt8)

/-- `NewEncryptor(key)`: a key of any length but 32 is replaced by its
SHA-256. -/
def newEncryptor (key : List UInt8) : Gossip.Encryptor :=
  if key.length ≠ 32 then ⟨sha256 key⟩ else ⟨key⟩

/-- The encryptor `NewCluster` builds from the key `main` chose: none for an
empty key. -/
def clusterEncryptor (key : List UInt8) : Option Gossip.Encryptor :=
  if key.length > 0 then some (newEncryptor sha256 key) else none

end Hash

/-- The cluster keys of successive starts of one node with one configuration
and one data directory; `writes` says, start by start, whether a write of
`encryption.key` succeeds. -/
def startKeys (cfg : Config) : List Bool → Option (List UInt8) → List (List UInt8)
  | [], _ => []
  | w :: ws, keyFile => (encryptionKeyOf cfg w keyFile).1 :: startKeys cfg ws (encryptionKeyOf cfg w keyFile).2

/-- The key file of a node that takes its key from it: missing, shorter than
a key, or the 32 zero bytes a start wrote. -/
def ZeroOrShort (keyFile : Option (List UInt8)) : Prop :=
  ∀ d, keyFile = some d → d.length < 32 ∨ d = List.replicate 32 0

/-- A start of a node that takes its key from the file uses the zero key, and
leaves the file missing, short or zero. -/
theorem encryptionKeyOf_of_zeroOrShort {cfg : Config} (hkey : cfg.encryptionKey = "")
    (hseed : cfg.joinAddrs = [] ∨ cfg.joinToken = "") (w : Bool) {keyFile : Option (List UInt8)}
    (hf : ZeroOrShort keyFile) :
    (encryptionKeyOf cfg w keyFile).1 = List.replicate 32 0 ∧ ZeroOrShort (encryptionKeyOf cfg w keyFile).2 := by
  have hj : ¬(cfg.joinAddrs ≠ [] ∧ cfg.joinToken ≠ "") := by tauto
  simp only [encryptionKeyOf, hkey, ne_eq, not_true_eq_false, if_false, if_neg hj]
  cases keyFile with
  | some d =>
    refine ⟨?_, hf⟩
    rcases hf d rfl with hs | rfl
    · exact if_neg (by omega)
    · simp
  | none =>
    refine ⟨rfl, fun d hd => ?_⟩
    cases w
    · cases hd
    · cases hd
      exact .inr rfl

/-- **The default cluster key is 32 zero bytes.** A node started without an
encryption key, and without both seeds and a join token – the first node of a
cluster – seals every cluster message under the all-zero AES key, on its
first start and on every restart, whether or not its writes of
`encryption.key` succeed, unless that file held 32 bytes or more before the
first start. -/
theorem default_cluster_key_is_zero (sha256 : List UInt8 → List UInt8) (cfg : Config)
    (hkey : cfg.encryptionKey = "") (hseed : cfg.joinAddrs = [] ∨ cfg.joinToken = "")
    (writes : List Bool) (keyFile : Option (List UInt8)) (hfile : ∀ d, keyFile = some d → d.length < 32) :
    ∀ k ∈ startKeys cfg writes keyFile, clusterEncryptor sha256 k = some ⟨List.replicate 32 0⟩ := by
  have hzero : clusterEncryptor sha256 (List.replicate 32 0) = some ⟨List.replicate 32 0⟩ := by
    simp [clusterEncryptor, newEncryptor]
  have key : ∀ ws keyFile, ZeroOrShort keyFile → ∀ k ∈ startKeys cfg ws keyFile, k = List.replicate 32 0 := by
    intro ws
    induction ws with
    | nil => exact fun _ _ k hk => nomatch hk
    | cons w ws ih =>
      intro keyFile hf k hk
      obtain ⟨h₁, h₂⟩ := encryptionKeyOf_of_zeroOrShort hkey hseed w hf
      rcases List.mem_cons.mp hk with rfl | hk
      · exact h₁
      · exact ih _ h₂ k hk
  intro k hk
  rw [key writes keyFile (fun d hd => .inl (hfile d hd)) k hk, hzero]

/-- The node `config.Load` configures when nothing is given. -/
def defaultInvocation : Invocation := ⟨fun _ => none, fun _ => ""⟩

/-- The node `config.Load` configures when nothing is given, started three
times, its second write failing; any hash stands in for SHA-256, as no key it
meets needs one. -/
theorem default_node_key_is_zero :
    (load defaultInvocation).encryptionKey = "" ∧
      ((load defaultInvocation).joinAddrs = [] ∨ (load defaultInvocation).joinToken = "") ∧
      (∀ d, (none : Option (List UInt8)) = some d → d.length < 32) ∧
      ∀ k ∈ startKeys (load defaultInvocation) [true, false, true] none,
        clusterEncryptor id k = some ⟨List.replicate 32 0⟩ :=
  ⟨rfl, .inl rfl, (fun _ h => nomatch h),
    default_cluster_key_is_zero id _ rfl (.inl rfl) [true, false, true] none (fun _ h => nomatch h)⟩

end Startup

end PodmanSwarm
