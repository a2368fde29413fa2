import PodmanSwarm.Discovery
import PodmanSwarm.Strings

/-!
# Cluster DNS (`internal/dns`)

The agent answers DNS for its cluster zone (`cluster.local` unless
configured) and forwards everything else upstream. `handleDNS` decides which
by `isClusterDomainQuery`, which lowers the names it compares; the answers for
the zone are built per question by `handleAQuery`, `handleSRVQuery` and, for
other types, a placeholder A record `0.0.0.0`.

Both handlers first recover the service and namespace from the name by
`parseServiceName` (and `parseSRVName`), which strips the trailing dot, then
`.` followed by the zone, then `.svc.` followed by the zone. The second strip
can never fire after the first has: `name.ns.svc.cluster.local` loses
`.cluster.local` and parses as service `name.ns` in namespace `svc`. The
parser does not lower the name either, so only the lower-case zone is
stripped, and the service is looked up with the letters the query used
(`PodmanSwarm.Dns.svc_form_and_case_miss_the_service`).

Forwarding, and the whitelist it applies, are in `PodmanSwarm.DnsForward`.
-/

namespace PodmanSwarm

namespace Dns

open Strings

/-- The question types the cluster handler distinguishes. -/
inductive QType
  | a
  | srv
  | aaaa
  | other
  deriving DecidableEq

/-- `dns.Question`. -/
structure Question where
  name : String
  qtype : QType
  deriving DecidableEq

/-- A resource record of a reply. -/
inductive Record
  | a (name : String) (ttl : Nat) (address : String)
  | srv (name : String) (ttl : Nat) (priority weight : UInt16) (port : Nat) (target : String)
  | cname (name target : String)
  | other
  deriving DecidableEq

/-- A decimal number of at most three digits, without a leading zero, at most
255. -/
def isOctet (p : List Char) : Bool :=
  !p.isEmpty && p.length ≤ 3 && p.all Char.isDigit && (p.length == 1 || p.head? != some '0') &&
    p.foldl (fun n c => 10 * n + (c.toNat - '0'.toNat)) 0 ≤ 255

/-- Whether `dns.NewRR` accepts the text as the address of an A record: a
dotted quad. -/
def isIPv4 (s : String) : Bool :=
  let parts := s.data.splitOn '.'
  parts.length == 4 && parts.all isOctet

/-- `isClusterDomainQuery`: some question's name, lowered by `lower` and
without its trailing dot, is the zone or ends with `.` and the zone. -/
def isClusterDomainQuery (lower : Char → Char) (zone : String) (qs : List Question) : Bool :=
  qs.any fun q =>
    let name := toLower lower (trimSuffix q.name ".")
    hasSuffix name ("." ++ zone) || name == zone

/-- The three strips both parsers begin with. -/
def stripZone (zone name : String) : String :=
  trimSuffix (trimSuffix (trimSuffix name ".") ("." ++ zone)) (".svc." ++ zone)

/-- `parseServiceName`: the last label is the namespace, the labels before it
the service name. -/
def parseServiceName (zone name : String) : Except String (String × String) :=
  let name := stripZone zone name
  let parts := split name '.'
  if parts.length < 2 then .error ("invalid service name format: " ++ name)
  else .ok (join parts.dropLast '.', parts.getLastD "")

/-- `parseSRVName`: `_port._protocol.service.namespace`. -/
def parseSRVName (zone name : String) : Except String (String × String × String × String) :=
  let name := stripZone zone name
  match split name '.' with
  | p₀ :: p₁ :: rest@(_ :: _ :: _) =>
    if hasPrefix p₀ "_" && hasPrefix p₁ "_" then
      .ok (trimPrefix p₀ "_", trimPrefix p₁ "_", join rest.dropLast '.', rest.getLastD "")
    else .error ("invalid SRV name format: " ++ name)
  | _ => .error ("invalid SRV name format: " ++ name)

/-- The records of `handleAQuery` for the endpoints `eps`: one A record, TTL
60, per endpoint whose address `dns.NewRR` accepts. -/
def aRecords (q : Question) (eps : List ServiceEndpoint) : List Record :=
  (eps.filter fun e => isIPv4 e.address).map fun e => .a q.name 60 e.address

/-- `handleAQuery` at time `now`: nothing when the name does not parse or the
service is unknown. -/
def handleAQuery (zone : String) (now : Time) (reg : Registry) (q : Question) : List Record :=
  match parseServiceName zone q.name with
  | .error _ => []
  | .ok (serviceName, ns) =>
    match Registry.getServiceEndpoints serviceName ns now reg with
    | .error _ => []
    | .ok eps => aRecords q eps

/-- The loop of `handleSRVQuery` from the `i`-th endpoint on, at the given
priority: an SRV record per endpoint, on the first endpoint's port, and an A
record for the target in the additional section. `dns.NewRR` rejects an SRV
record whose port is not a `uint16`, and the loop then skips the endpoint,
priority step included. -/
def srvRecords (q : Question) (port : Int) (target : String) :
    Nat → UInt16 → List ServiceEndpoint → List Record × List Record
  | _, _, [] => ([], [])
  | i, priority, e :: es =>
    if 0 ≤ port ∧ port < 65536 then
      let extra := if isIPv4 e.address then [Record.a target 60 e.address] else []
      let rest := srvRecords q port target (i + 1) (if i > 0 then priority + 10 else priority) es
      (.srv q.name 60 priority 10 port.toNat target :: rest.1, extra ++ rest.2)
    else srvRecords q port target (i + 1) priority es

/-- `handleSRVQuery` at time `now`: the answer and additional records. -/
def handleSRVQuery (zone : String) (now : Time) (reg : Registry) (q : Question) :
    List Record × List Record :=
  match parseSRVName zone q.name with
  | .error _ => ([], [])
  | .ok (_, _, serviceName, ns) =>
    match Registry.getServiceEndpoints serviceName ns now reg with
    | .error _ => ([], [])
    | .ok eps =>
      srvRecords q ((eps.head?.map (·.port)).getD 0) (serviceName ++ "." ++ ns ++ "." ++ zone ++ ".")
        0 10 eps

/-- `emptyAnswer`: the placeholder for the types the zone does not serve. -/
def emptyAnswer (q : Question) : Record := .a q.name 0 "0.0.0.0"

/-- The answer and additional records `handleClusterQuery` adds for one
question. -/
def answerQuestion (zone : String) (now : Time) (reg : Registry) (q : Question) :
    List Record × List Record :=
  match q.qtype with
  | .a => (handleAQuery zone now reg q, [])
  | .srv => handleSRVQuery zone now reg q
  | .aaaa => ([emptyAnswer q], [])
  | .other => ([emptyAnswer q], [])

/-- `handleClusterQuery`: the answer and additional sections, built question by
question. -/
def handleClusterQuery (zone : String) (now : Time) (reg : Registry) (qs : List Question) :
    List Record × List Record :=
  qs.foldl (fun m q => (m.1 ++ (answerQuestion zone now reg q).1, m.2 ++ (answerQuestion zone now reg q).2))
    ([], [])

/-! ### The parser -/

/-- **Where the parser cuts.** A name parses to `(s, ns)` exactly when, once
stripped, it is `s`, a dot, and a label `ns`. -/
theorem parseServiceName_eq_ok_iff (zone name s ns : String) :
    parseServiceName zone name = .ok (s, ns) ↔
      stripZone zone name = s ++ "." ++ ns ∧ '.' ∉ ns.data := by
  have hl : (((stripZone zone name).data.splitOn '.').map String.mk).getLastD "" =
      ⟨((stripZone zone name).data.splitOn '.').getLastD []⟩ := List.getLastD_map _ _ []
  rw [String.ext_iff, String.data_append, String.data_append, List.append_assoc]
  refine Iff.trans ?_ (splitOn_dropLast_getLast_iff '.' _ s.data ns.data)
  simp only [parseServiceName, split, join, List.length_map, hl, ← List.map_dropLast, List.map_map]
  split_ifs with h
  · simp only [reduceCtorEq, false_iff]; omega
  · simp [String.ext_iff, Function.comp_def]; omega

/-- A name in the zone loses the trailing dot and the zone, and nothing more
unless it also ends with `.svc.` and the zone. -/
theorem stripZone_zone (zone x : String) (hx : hasSuffix x (".svc." ++ zone) = false) :
    stripZone zone (x ++ "." ++ zone ++ ".") = x := by
  rw [stripZone, trimSuffix_append, String.append_assoc, trimSuffix_append,
    trimSuffix_of_not_hasSuffix hx]

/-- **The plain form parses.** `s.ns.zone.`, for a label `ns`, names service
`s` in namespace `ns`. -/
theorem parseServiceName_plain (zone s ns : String) (hns : '.' ∉ ns.data)
    (hx : hasSuffix (s ++ "." ++ ns) (".svc." ++ zone) = false) :
    parseServiceName zone (s ++ "." ++ ns ++ "." ++ zone ++ ".") = .ok (s, ns) :=
  (parseServiceName_eq_ok_iff _ _ _ _).mpr ⟨stripZone_zone zone _ hx, hns⟩

/-- **The `svc` form parses wrong.** `s.ns.svc.zone.` loses only the zone, so
it names service `s.ns` in namespace `svc`. -/
theorem parseServiceName_svc_form (zone s ns : String)
    (hx : hasSuffix (s ++ "." ++ ns ++ ".svc") (".svc." ++ zone) = false) :
    parseServiceName zone (s ++ "." ++ ns ++ ".svc" ++ "." ++ zone ++ ".") =
      .ok (s ++ "." ++ ns, "svc") := by
  refine (parseServiceName_eq_ok_iff _ _ _ _).mpr ⟨?_, by decide⟩
  rw [stripZone_zone zone _ hx, String.append_assoc (s ++ "." ++ ns)]
  rfl

/-! ### The records of the zone -/

theorem handleAQuery_of_parse {zone : String} {now : Time} {reg : Registry} {q : Question}
    {s ns : String} {eps : List ServiceEndpoint} (hp : parseServiceName zone q.name = .ok (s, ns))
    (he : Registry.getServiceEndpoints s ns now reg = .ok eps) :
    handleAQuery zone now reg q = aRecords q eps := by
  unfold handleAQuery
  rw [hp]
  dsimp only
  rw [he]

/-- **The plain form resolves.** `s.ns.zone.` gets one A record per endpoint
of `ns/s` that `GetServiceEndpoints` returns, with its address. -/
theorem handleAQuery_plain {zone s ns : String} {now : Time} {reg : Registry}
    {eps : List ServiceEndpoint} (hns : '.' ∉ ns.data)
    (hx : hasSuffix (s ++ "." ++ ns) (".svc." ++ zone) = false)
    (he : Registry.getServiceEndpoints s ns now reg = .ok eps) (t : QType) :
    handleAQuery zone now reg ⟨s ++ "." ++ ns ++ "." ++ zone ++ ".", t⟩ =
      aRecords ⟨s ++ "." ++ ns ++ "." ++ zone ++ ".", t⟩ eps :=
  handleAQuery_of_parse (parseServiceName_plain zone s ns hns hx) he

theorem mem_aRecords {q : Question} {eps : List ServiceEndpoint} {r : Record} :
    r ∈ aRecords q eps ↔ ∃ e ∈ eps, isIPv4 e.address = true ∧ r = .a q.name 60 e.address := by
  simp only [aRecords, List.mem_map, List.mem_filter, and_assoc, eq_comm]

/-- Every A record `handleAQuery` answers names a live endpoint of the service
the question parses to. -/
theorem mem_handleAQuery {zone : String} {now : Time} {reg : Registry} {q : Question} {r : Record}
    (h : r ∈ handleAQuery zone now reg q) :
    ∃ s ns e, parseServiceName zone q.name = .ok (s, ns) ∧
      (∃ id, reg.find (serviceKey s ns) id = some e) ∧ e.fresh now = true ∧
      r = .a q.name 60 e.address := by
  unfold handleAQuery at h
  split at h
  · simp at h
  · next s ns hp =>
    split at h
    · simp at h
    · next eps he =>
      obtain ⟨e, he', -, rfl⟩ := mem_aRecords.mp h
      obtain ⟨hf, hfr⟩ := (Registry.mem_getServiceEndpoints he e).mp he'
      exact ⟨s, ns, e, hp, hf, hfr, rfl⟩

theorem mem_srvRecords_fst {q : Question} {port : Int} {target : String} {i : Nat} {p : UInt16}
    {eps : List ServiceEndpoint} {r : Record} (h : r ∈ (srvRecords q port target i p eps).1) :
    ∃ p' w n, r = .srv q.name 60 p' w n target := by
  induction eps generalizing i p with
  | nil => simp [srvRecords] at h
  | cons e es ih =>
    by_cases hp : 0 ≤ port ∧ port < 65536
    · rw [srvRecords, if_pos hp, List.mem_cons] at h
      exact h.elim (fun h => ⟨_, _, _, h⟩) ih
    · rw [srvRecords, if_neg hp] at h
      exact ih h

theorem mem_srvRecords_snd {q : Question} {port : Int} {target : String} {i : Nat} {p : UInt16}
    {eps : List ServiceEndpoint} {r : Record} (h : r ∈ (srvRecords q port target i p eps).2) :
    ∃ e ∈ eps, r = .a target 60 e.address := by
  induction eps generalizing i p with
  | nil => simp [srvRecords] at h
  | cons e es ih =>
    have ih' : ∀ {i p}, r ∈ (srvRecords q port target i p es).2 →
        ∃ e' ∈ e :: es, r = .a target 60 e'.address :=
      fun h => (ih h).imp fun e' ⟨he', hr⟩ => ⟨List.mem_cons_of_mem _ he', hr⟩
    by_cases hp : 0 ≤ port ∧ port < 65536
    · rw [srvRecords, if_pos hp, List.mem_append] at h
      refine h.elim (fun h => ⟨e, List.mem_cons_self _ _, ?_⟩) fun h => ih' h
      split_ifs at h
      · exact List.mem_singleton.mp h
      · simp at h
    · rw [srvRecords, if_neg hp] at h
      exact ih' h

/-- The A records of an SRV reply name live endpoints; its answers are SRV
records. -/
theorem mem_handleSRVQuery {zone : String} {now : Time} {reg : Registry} {q : Question}
    {n : String} {ttl : Nat} {addr : String} :
    Record.a n ttl addr ∉ (handleSRVQuery zone now reg q).1 ∧
      (Record.a n ttl addr ∈ (handleSRVQuery zone now reg q).2 →
        ∃ k id e, reg.find k id = some e ∧ e.fresh now = true ∧ e.address = addr) := by
  unfold handleSRVQuery
  split
  · simp
  · split
    · simp
    · next eps he =>
      refine ⟨fun h => ?_, fun h => ?_⟩
      · obtain ⟨_, _, _, h⟩ := mem_srvRecords_fst h
        cases h
      · obtain ⟨e, he', h⟩ := mem_srvRecords_snd h
        cases h
        obtain ⟨⟨id, hf⟩, hfr⟩ := (Registry.mem_getServiceEndpoints he e).mp he'
        exact ⟨_, id, e, hf, hfr, rfl⟩

/-! ### Priorities -/

theorem uint16_toNat_add (a b : UInt16) : (a + b).toNat = (a.toNat + b.toNat) % 65536 :=
  BitVec.toNat_add _ _

theorem toNat_uint16_ofNat (n : Nat) : (UInt16.ofNat n).toNat = n % 65536 := by
  simp [UInt16.toNat, UInt16.ofNat]

theorem add_ofNat_ten_mul_zero (p : UInt16) : p + UInt16.ofNat (10 * 0) = p := by
  apply UInt16.toNat.inj
  rw [uint16_toNat_add, toNat_uint16_ofNat]
  have := UInt16.toNat_lt_size p
  simp only [UInt16.size] at this
  omega

theorem add_ten_add_ofNat (p : UInt16) (j : Nat) :
    p + 10 + UInt16.ofNat (10 * j) = p + UInt16.ofNat (10 * (j + 1)) := by
  apply UInt16.toNat.inj
  rw [uint16_toNat_add, uint16_toNat_add, uint16_toNat_add, toNat_uint16_ofNat, toNat_uint16_ofNat,
    show (10 : UInt16).toNat = 10 from rfl]
  omega

/-- The A records the loop adds: one per endpoint whose address is a dotted
quad, in order. -/
def glueRecords (target : String) (eps : List ServiceEndpoint) : List Record :=
  (eps.filter fun e => isIPv4 e.address).map fun e => .a target 60 e.address

theorem glueRecords_cons (target : String) (e : ServiceEndpoint) (es : List ServiceEndpoint) :
    glueRecords target (e :: es) =
      (if isIPv4 e.address then [Record.a target 60 e.address] else []) ++ glueRecords target es := by
  unfold glueRecords
  cases h : isIPv4 e.address <;> simp [List.filter_cons, h]

/-- **The loop past its first endpoint**, on a port `dns.NewRR` accepts: one
SRV record per endpoint, each priority 10 above the one before. -/
theorem srvRecords_succ {q : Question} {port : Int} {target : String} (hport : 0 ≤ port ∧ port < 65536)
    (es : List ServiceEndpoint) :
    ∀ i p, srvRecords q port target (i + 1) p es =
      ((List.range es.length).map fun j => .srv q.name 60 (p + UInt16.ofNat (10 * j)) 10 port.toNat target,
        glueRecords target es) := by
  induction es with
  | nil => intro i p; rfl
  | cons e es ih =>
    intro i p
    rw [srvRecords, if_pos hport, if_pos (Nat.succ_pos i), ih, glueRecords_cons, List.length_cons,
      List.range_succ_eq_map, List.map_cons, List.map_map, add_ofNat_ten_mul_zero]
    simp only [Function.comp_def, add_ten_add_ofNat, Nat.succ_eq_add_one]

/-- **The records of an SRV reply.** For a name that parses to service `s` in
namespace `ns`, whose endpoints are `e :: es` with `e`'s port a `uint16`: one
SRV record per endpoint, every one on `e`'s port and the target `s.ns.zone.`,
the first two at priority 10 and each later one 10 above the one before; and an
A record for the target per endpoint whose address is a dotted quad. -/
theorem handleSRVQuery_of_parse {zone : String} {now : Time} {reg : Registry} {q : Question}
    {portName proto s ns : String} {e : ServiceEndpoint} {es : List ServiceEndpoint}
    (hp : parseSRVName zone q.name = .ok (portName, proto, s, ns))
    (he : Registry.getServiceEndpoints s ns now reg = .ok (e :: es)) (hport : 0 ≤ e.port ∧ e.port < 65536) :
    handleSRVQuery zone now reg q =
      (.srv q.name 60 10 10 e.port.toNat (s ++ "." ++ ns ++ "." ++ zone ++ ".") ::
          (List.range es.length).map (fun j =>
            .srv q.name 60 (10 + UInt16.ofNat (10 * j)) 10 e.port.toNat (s ++ "." ++ ns ++ "." ++ zone ++ ".")),
        glueRecords (s ++ "." ++ ns ++ "." ++ zone ++ ".") (e :: es)) := by
  unfold handleSRVQuery
  rw [hp]
  dsimp only
  rw [he]
  simp only [List.head?_cons, Option.map_some', Option.getD_some]
  rw [srvRecords, if_pos hport, if_neg (lt_irrefl 0), srvRecords_succ hport, glueRecords_cons]

theorem foldl_answerQuestion (zone : String) (now : Time) (reg : Registry) (qs : List Question)
    (m : List Record × List Record) :
    qs.foldl (fun m q => (m.1 ++ (answerQuestion zone now reg q).1,
        m.2 ++ (answerQuestion zone now reg q).2)) m =
      (m.1 ++ qs.flatMap fun q => (answerQuestion zone now reg q).1,
        m.2 ++ qs.flatMap fun q => (answerQuestion zone now reg q).2) := by
  induction qs generalizing m with
  | nil => simp
  | cons q qs ih => simp [ih]

/-- The sections of the reply are the questions' records, in order. -/
theorem handleClusterQuery_eq (zone : String) (now : Time) (reg : Registry) (qs : List Question) :
    handleClusterQuery zone now reg qs =
      (qs.flatMap fun q => (answerQuestion zone now reg q).1,
        qs.flatMap fun q => (answerQuestion zone now reg q).2) :=
  foldl_answerQuestion zone now reg qs ([], [])

/-- The A records one question adds are the placeholder or live addresses. -/
theorem address_of_answerQuestion {zone : String} {now : Time} {reg : Registry} {q : Question}
    {n : String} {ttl : Nat} {addr : String}
    (h : Record.a n ttl addr ∈ (answerQuestion zone now reg q).1 ++ (answerQuestion zone now reg q).2) :
    (ttl = 0 ∧ addr = "0.0.0.0") ∨
      ∃ k id e, reg.find k id = some e ∧ e.fresh now = true ∧ e.address = addr := by
  cases hq : q.qtype with
  | a =>
    simp only [answerQuestion, hq, List.append_nil] at h
    obtain ⟨s, ns, e, -, ⟨id, hf⟩, hfr, he⟩ := mem_handleAQuery h
    cases he
    exact .inr ⟨_, id, e, hf, hfr, rfl⟩
  | srv =>
    simp only [answerQuestion, hq] at h
    exact .inr (mem_handleSRVQuery.2 ((List.mem_append.mp h).resolve_left mem_handleSRVQuery.1))
  | aaaa | other =>
    simp only [answerQuestion, hq, emptyAnswer, List.append_nil, List.mem_singleton,
      Record.a.injEq] at h
    exact .inl ⟨h.2.1, h.2.2⟩

/-- **The zone answers only with live addresses.** Every A record of a reply
of the cluster zone, in the answer or the additional section, is the
placeholder `0.0.0.0` with TTL 0 or carries the address of an endpoint the
registry holds, healthy and seen within 30 s. -/
theorem address_of_handleClusterQuery {zone : String} {now : Time} {reg : Registry}
    {qs : List Question} {n : String} {ttl : Nat} {addr : String}
    (h : Record.a n ttl addr ∈
      (handleClusterQuery zone now reg qs).1 ++ (handleClusterQuery zone now reg qs).2) :
    (ttl = 0 ∧ addr = "0.0.0.0") ∨
      ∃ k id e, reg.find k id = some e ∧ e.fresh now = true ∧ e.address = addr := by
  rw [handleClusterQuery_eq, List.mem_append, List.mem_flatMap, List.mem_flatMap] at h
  obtain ⟨q, -, h⟩ | ⟨q, -, h⟩ := h
  · exact address_of_answerQuestion (List.mem_append_left _ h)
  · exact address_of_answerQuestion (List.mem_append_right _ h)

/-! ### Where the two forms and letter case part -/

/-- A registry with one endpoint of `default/postgres`, on `node-1` at
`10.0.0.1`, registered at time 0. -/
def postgresRegistry : Registry :=
  (Registry.registerService
    ⟨"node-1", (∅ : GoMap Node).insert "node-1" ⟨"node-1", "10.0.0.1", "Ready", ∅⟩⟩ 0
    ⟨"postgres", "default", ∅, [5432]⟩ ⟨"p1", "postgres-0", "default", "node-1", .running, ∅, ∅, 0⟩ ∅).1

/-- **The `svc` form and upper case miss the service.** One second after
`default/postgres` was registered, the plain name resolves to its endpoint;
the `svc` form and the upper-case name, both cluster queries, get no record.
The names are ASCII, which `Char.toLower` lowers as Go does. -/
theorem svc_form_and_case_miss_the_service :
    isClusterDomainQuery Char.toLower "cluster.local" [⟨"postgres.default.svc.cluster.local.", .a⟩] = true ∧
    isClusterDomainQuery Char.toLower "cluster.local" [⟨"POSTGRES.DEFAULT.CLUSTER.LOCAL.", .a⟩] = true ∧
    handleClusterQuery "cluster.local" second postgresRegistry
        [⟨"postgres.default.cluster.local.", .a⟩] =
      ([.a "postgres.default.cluster.local." 60 "10.0.0.1"], []) ∧
    handleClusterQuery "cluster.local" second postgresRegistry
        [⟨"postgres.default.svc.cluster.local.", .a⟩] = ([], []) ∧
    handleClusterQuery "cluster.local" second postgresRegistry
        [⟨"POSTGRES.DEFAULT.CLUSTER.LOCAL.", .a⟩] = ([], []) := by
  decide

/-! ### An SRV reply for two endpoints -/

/-- Two fresh endpoints of `default/web`: `web-0` on port 8080 and `web-1` on
port 9090. -/
def twoPortRegistry : Registry :=
  Registry.putEndpoint "web.default" "default-web-p2"
    ⟨"web", "default", "p2", "web-1", "node-2", "10.0.0.2", 9090, true, 0⟩
    (Registry.putEndpoint "web.default" "default-web-p1"
      ⟨"web", "default", "p1", "web-0", "node-1", "10.0.0.1", 8080, true, 0⟩ ∅)

/-- **Two SRV records, one priority, one port.** `default/web` has two
endpoints, on ports 9090 and 8080. The SRV reply gives both records priority
10 and port 9090, the first endpoint's. The `svc` form of the name is read as
service `web.default` in namespace `svc`. -/
theorem srv_records_share_priority_and_port :
    (Registry.getServiceEndpoints "web" "default" 0 twoPortRegistry).map (·.map (·.port)) = .ok [9090, 8080] ∧
      handleSRVQuery "cluster.local" 0 twoPortRegistry ⟨"_http._tcp.web.default.cluster.local.", .srv⟩ =
        ([.srv "_http._tcp.web.default.cluster.local." 60 10 10 9090 "web.default.cluster.local.",
          .srv "_http._tcp.web.default.cluster.local." 60 10 10 9090 "web.default.cluster.local."],
         [.a "web.default.cluster.local." 60 "10.0.0.2", .a "web.default.cluster.local." 60 "10.0.0.1"]) ∧
      parseSRVName "cluster.local" "_http._tcp.web.default.svc.cluster.local." =
        .ok ("http", "tcp", "web.default", "svc") :=
  ⟨rfl, by decide, rfl⟩

end Dns

end PodmanSwarm
