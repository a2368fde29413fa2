import PodmanSwarm.Dns

/-!
# Forwarding and the DNS whitelist (`internal/dns`)

A query outside the cluster zone is forwarded: `forwardQuery` tries the
upstream servers in order and writes the first reply that succeeds, after two
checks against the whitelist when it is enabled. The question's name must be
allowed, or the reply is `REFUSED` at once; every CNAME target of the upstream
reply must be allowed, or the next server is tried. When no server is left the
reply is `SERVFAIL`.

What *allowed* means is `isHostAllowed` over the map `SetWhitelist` fills. Both
normalize a name by one `TrimSuffix(".")` and `ToLower`; `SetWhitelist` stores
each entry's normal form `n` and `n.`, and `isHostAllowed` tries the normal
form of the query and each of its suffixes at a dot, as `d` and as `d.`. The
walk over the suffixes is `PodmanSwarm.Strings.exists_intercalate_drop_splitOn_iff`;
what it adds up to is `PodmanSwarm.Dns.isHostAllowed_setWhitelist`: a name is
allowed when its normal form is, or ends with a dot and, one of `n`, `n.` and –
for an entry that still ends with a dot – `n` without it. Without double
trailing dots, in the entries or in the name, that is the rule “the name is an
entry or a subdomain of one”
(`PodmanSwarm.Dns.whitelistAllows_eq_specAllows`); with them the map's
second key lets more through.

The upstream exchange – UDP, then TCP – is an oracle `exchange` from an
upstream address to its reply, `none` when both transports fail.
-/

namespace PodmanSwarm

namespace Dns

open Strings

/-- `DNSWhitelist`. -/
structure DNSWhitelist where
  enabled : Bool
  hosts : GoMap Bool

/-- `dns.Server`, the fields the handlers read. -/
structure Server where
  clusterDomain : String
  upstreamDNS : List String
  whitelist : DNSWhitelist

/-- `NewServer`: the default zone and upstreams, and the whitelist off. -/
def newServer (clusterDomain : String) (upstreamDNS : List String) : Server where
  clusterDomain := if clusterDomain = "" then "cluster.local" else clusterDomain
  upstreamDNS := if upstreamDNS = [] then ["8.8.8.8:53", "8.8.4.4:53"] else upstreamDNS
  whitelist := ⟨false, ∅⟩

section Lower

/-! The rune map `lower` stands for `unicode.ToLower` (`PodmanSwarm.Strings.toLower`). -/

variable (lower : Char → Char)

/-- The normal form of a host or query name: one trailing dot stripped,
lowered. -/
def normalize (name : String) : String := toLower lower (trimSuffix name ".")

/-- The map `SetWhitelist` builds: every entry's normal form, with and without
a trailing dot. -/
def hostsOf (hosts : List String) : GoMap Bool :=
  hosts.foldl (fun m host => (m.insert (normalize lower host) true).insert (normalize lower host ++ ".") true) ∅

/-- `SetWhitelist(enabled, hosts)`. -/
def setWhitelist (enabled : Bool) (hosts : List String) (s : Server) : Server :=
  { s with whitelist := ⟨enabled, hostsOf lower hosts⟩ }

/-- `isHostAllowed`: everything while the whitelist is off; otherwise the
normal form, then its suffixes at a dot, each looked up as it is and with a
trailing dot. -/
def isHostAllowed (queryName : String) (s : Server) : Bool :=
  if !s.whitelist.enabled then true
  else
    let normalized := normalize lower queryName
    let has := fun k => s.whitelist.hosts.get k false
    if has normalized || has (normalized ++ ".") then true
    else
      let parts := split normalized '.'
      (List.range parts.length).any fun i =>
        let domain := join (parts.drop i) '.'
        has domain || has (domain ++ ".")

/-- A reply from an upstream server. -/
structure Response where
  rcode : Nat
  answer : List Record
  extra : List Record

/-- What the handler writes back. -/
inductive Reply
  /-- The zone's own reply, with its answer and additional sections. -/
  | msg (answer extra : List Record)
  /-- An upstream server's reply, passed on as it is. -/
  | upstream (resp : Response)
  | refused
  | servfail

/-- `d` is `name` or follows one of its dots: the names `isHostAllowed` looks
up for `name`. -/
def DotSuffix (d name : String) : Prop := d = name ∨ ∃ y, name.data = y ++ '.' :: d.data

/-- The rule for one entry: `name` is the entry `k` or a subdomain of it. -/
def matchesHost (name k : String) : Bool := name == k || hasSuffix name ("." ++ k)

/-- **The allowed names**, one disjunct per key of `SetWhitelist`'s map: the
normal form is, or ends with a dot and, the normal form `n` of an entry, `n`
followed by a dot, or – when `n` ends with a dot – `n` without it. -/
def whitelistAllows (hosts : List String) (name : String) : Bool :=
  hosts.any fun host =>
    matchesHost (normalize lower name) (normalize lower host) || matchesHost (normalize lower name) (normalize lower host ++ ".") ||
      (hasSuffix (normalize lower host) "." && matchesHost (normalize lower name) (trimSuffix (normalize lower host) "."))

/-- The rule as the documentation states it: after lowering and stripping one
trailing dot, the name is an entry or a subdomain of one. -/
def specAllows (hosts : List String) (name : String) : Bool :=
  hosts.any fun host => matchesHost (normalize lower name) (normalize lower host)

theorem matchesHost_iff (name k : String) : matchesHost name k = true ↔ DotSuffix k name := by
  have hs : ("." ++ k).data = '.' :: k.data := rfl
  simp only [matchesHost, Bool.or_eq_true, beq_iff_eq, hasSuffix_iff, hs, List.IsSuffix, DotSuffix]
  exact or_congr eq_comm (exists_congr fun _ => eq_comm)

theorem get_foldl_hostsOf (hosts : List String) (m : GoMap Bool) (k : String) :
    (hosts.foldl (fun m host => (m.insert (normalize lower host) true).insert (normalize lower host ++ ".") true)
        m).get k false =
      (m.get k false || hosts.any fun host => k == normalize lower host || k == normalize lower host ++ ".") := by
  induction hosts generalizing m with
  | nil => simp
  | cons host hosts ih =>
    rw [List.foldl_cons, ih, GoMap.get_insert, GoMap.get_insert, List.any_cons]
    by_cases h₁ : k = normalize lower host ++ "."
    · simp [h₁]
    · by_cases h₂ : k = normalize lower host
      · simp [h₂]
      · simp [h₁, h₂, beq_false_of_ne h₁, beq_false_of_ne h₂]

theorem get_hostsOf (hosts : List String) (k : String) :
    (hostsOf lower hosts).get k false = hosts.any fun host => k == normalize lower host || k == normalize lower host ++ "." := by
  simpa using get_foldl_hostsOf lower hosts ∅ k

theorem any_range_split_iff (name : String) (p : String → Bool) :
    ((List.range (split name '.').length).any fun i => p (join ((split name '.').drop i) '.')) = true ↔
      ∃ d, DotSuffix d name ∧ p d = true := by
  have hd := fun d : String => exists_intercalate_drop_splitOn_iff '.' name.data d.data
  simp only [List.any_eq_true, List.mem_range, split, join, List.length_map, ← List.map_drop,
    List.map_map, Function.comp_def, List.map_id']
  constructor
  · rintro ⟨i, hi, hp⟩
    refine ⟨_, ?_, hp⟩
    rcases (hd _).mp ⟨i, hi, rfl⟩ with h | ⟨y, h⟩
    · exact .inl (String.ext h)
    · exact .inr ⟨y, h⟩
  · rintro ⟨d, hd', hp⟩
    obtain ⟨i, hi, hi'⟩ := (hd d).mpr (hd'.imp (congrArg String.data) id)
    exact ⟨i, hi, (congrArg p (String.ext hi')).trans hp⟩

/-- **What `isHostAllowed` tries.** With the whitelist on, a name is allowed
exactly when its normal form or a suffix of it at a dot is a key of the map,
as it is or followed by a dot. -/
theorem isHostAllowed_iff {s : Server} (he : s.whitelist.enabled = true) (name : String) :
    isHostAllowed lower name s = true ↔ ∃ d, DotSuffix d (normalize lower name) ∧
      (s.whitelist.hosts.get d false || s.whitelist.hosts.get (d ++ ".") false) = true := by
  simp only [isHostAllowed, he, Bool.not_true, Bool.false_eq_true, reduceIte]
  split_ifs with h
  · exact iff_of_true rfl ⟨_, .inl rfl, h⟩
  · exact any_range_split_iff _ fun d => s.whitelist.hosts.get d false || s.whitelist.hosts.get (d ++ ".") false

theorem append_dot_eq_append_dot {d k : String} : d ++ "." = k ++ "." ↔ d = k := by
  simp only [String.ext_iff, String.data_append, List.append_cancel_right_eq]

theorem append_dot_eq_iff {d k : String} : d ++ "." = k ↔ hasSuffix k "." = true ∧ d = trimSuffix k "." := by
  constructor
  · rintro rfl
    exact ⟨hasSuffix_iff.mpr (List.suffix_append _ _), (trimSuffix_append d ".").symm⟩
  · rintro ⟨hk, rfl⟩
    obtain ⟨t, ht⟩ := hasSuffix_iff.mp hk
    obtain rfl : k = ⟨t⟩ ++ "." := String.ext (by simpa using ht.symm)
    rw [trimSuffix_append]

/-- **`isHostAllowed` after `SetWhitelist(true, hosts)`** is `whitelistAllows`. -/
theorem isHostAllowed_setWhitelist (hosts : List String) (s : Server) (name : String) :
    isHostAllowed lower name (setWhitelist lower true hosts s) = whitelistAllows lower hosts name := by
  rw [Bool.eq_iff_iff, isHostAllowed_iff lower rfl]
  simp only [setWhitelist, get_hostsOf, whitelistAllows, Bool.or_eq_true, List.any_eq_true,
    beq_iff_eq, Bool.and_eq_true, matchesHost_iff, append_dot_eq_append_dot]
  simp only [append_dot_eq_iff]
  constructor
  · rintro ⟨d, hd, ⟨x, hx, rfl | rfl⟩ | ⟨x, hx, ⟨h₁, rfl⟩ | rfl⟩⟩
    · exact ⟨x, hx, .inl (.inl hd)⟩
    · exact ⟨x, hx, .inl (.inr hd)⟩
    · exact ⟨x, hx, .inr ⟨h₁, hd⟩⟩
    · exact ⟨x, hx, .inl (.inl hd)⟩
  · rintro ⟨x, hx, (h | h) | ⟨h₁, h⟩⟩
    · exact ⟨_, h, .inl ⟨x, hx, .inl rfl⟩⟩
    · exact ⟨_, h, .inl ⟨x, hx, .inr rfl⟩⟩
    · exact ⟨_, h, .inr ⟨x, hx, .inl ⟨h₁, rfl⟩⟩⟩

theorem not_matchesHost_append_dot {name k : String} (hn : hasSuffix name "." = false) :
    matchesHost name (k ++ ".") = false := by
  have hdot : ".".data = ['.'] := rfl
  rw [← Bool.not_eq_true, matchesHost_iff]
  intro h
  have key : ".".data <:+ name.data := by
    rcases h with rfl | ⟨y, hy⟩
    · exact List.suffix_append _ _
    · exact ⟨y ++ '.' :: k.data, by simp [hy, hdot]⟩
  rw [← hasSuffix_iff, hn] at key
  exact Bool.false_ne_true key

/-- **The documented rule, up to double dots.** When neither the name nor any
entry ends with a dot once normalized, the whitelist allows exactly the
entries and their subdomains. -/
theorem whitelistAllows_eq_specAllows {hosts : List String} {name : String}
    (hn : hasSuffix (normalize lower name) "." = false)
    (hh : ∀ host ∈ hosts, hasSuffix (normalize lower host) "." = false) :
    whitelistAllows lower hosts name = specAllows lower hosts name := by
  induction hosts with
  | nil => rfl
  | cons host hosts ih =>
    simp only [whitelistAllows, specAllows, List.any_cons] at ih ⊢
    rw [ih fun h hm => hh h (List.mem_cons_of_mem host hm), not_matchesHost_append_dot hn,
      hh host (List.mem_cons_self host hosts), Bool.false_and, Bool.or_false, Bool.or_false]

/-! ### Forwarding under a whitelist -/

end Lower

/-- A server with the default zone and upstreams. -/
def defaultServer : Server := newServer "" []

end Dns

end PodmanSwarm
