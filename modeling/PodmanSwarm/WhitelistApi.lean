import PodmanSwarm.DnsForward

/-!
# The whitelist endpoints of the API

`AddDNSWhitelistHost` and `RemoveDNSWhitelistHost` edit the DNS whitelist by
reading it back with `GetWhitelist` and writing a new host list with
`SetWhitelist`. Two things follow from that shape.

**What is read back is not what was written.** `SetWhitelist` stores the
normal form of every entry (lowered, one trailing dot stripped), and
`GetWhitelist` lists the keys of its map with a trailing dot stripped. `Remove`
compares the raw path parameter with those keys, so a host given as it was
added but not in normal form – `Example.com`, `example.com.` – is reported
removed and stays allowed (`PodmanSwarm.Dns.removed_host_stays_allowed`).

**The read and the write are two atomic steps.** Each takes the server's lock
on its own, so two requests can interleave between them. Every interleaving
ends as one of the two serial runs or as one request alone, the other's write
lost (`PodmanSwarm.Dns.Whitelisting.interleaving_outcomes`); two `Add`s of
different hosts can leave only one of them listed
(`PodmanSwarm.Dns.Whitelisting.concurrent_adds_lose_a_host`).
-/

namespace PodmanSwarm

namespace Dns

open Strings

/-- `GetWhitelist`: whether the whitelist is on, and the keys of its map with
one trailing dot stripped, each once, in the map's order. -/
def getWhitelist (s : Server) : Bool × List String :=
  (s.whitelist.enabled,
    (s.whitelist.hosts.keys.foldl
      (fun (acc : List String × GoMap Bool) host =>
        let normalized := trimSuffix host "."
        if acc.2.get normalized false then acc else (acc.1 ++ [normalized], acc.2.insert normalized true))
      ([], ∅)).1)

/-- A whitelist request with a non-empty host. -/
inductive WlRequest
  /-- `AddDNSWhitelistHost`. -/
  | add (host : String)
  /-- `RemoveDNSWhitelistHost`. -/
  | remove (host : String)
  deriving DecidableEq, Repr

/-- The host list a request writes back, given the one it read: `Add`
appends the host unless the list has it as it is; `Remove` keeps every entry
that differs from the host as it is. -/
def WlRequest.update : WlRequest → List String → List String
  | .add host, hosts => if hosts.elem host then hosts else hosts ++ [host]
  | .remove host, hosts => hosts.filter (· != host)

section Lower

variable (lower : Char → Char)

/-- A request on its own: `GetWhitelist`, then `SetWhitelist` of the updated
list with the flag it read. -/
def WlRequest.run (r : WlRequest) (s : Server) : Server :=
  setWhitelist lower (getWhitelist s).1 (r.update (getWhitelist s).2) s

/-- `AddDNSWhitelistHost` with the request body decoded to `body` (or the
decoding error): the DNS server after it and the status and message of the
reply. -/
def addDNSWhitelistHost (body : Except String String) (dns : Option Server) :
    Option Server × (Nat × String) :=
  match dns with
  | none => (none, (500, "DNS server not available"))
  | some s =>
    match body with
    | .error err => (dns, (400, "Invalid request: " ++ err))
    | .ok host =>
      if host = "" then (dns, (400, "Host is required"))
      else (some ((WlRequest.add host).run lower s), (200, "Host added to whitelist"))

/-- `RemoveDNSWhitelistHost` with the path parameter `host`. -/
def removeDNSWhitelistHost (host : String) (dns : Option Server) : Option Server × (Nat × String) :=
  match dns with
  | none => (none, (500, "DNS server not available"))
  | some s =>
    if host = "" then (dns, (400, "Host parameter is required"))
    else (some ((WlRequest.remove host).run lower s), (200, "Host removed from whitelist"))

/-! ### What a request leaves -/

/-- **A request under an enabled whitelist** allows what the updated list of
entries allows. -/
theorem isHostAllowed_run {s : Server} (he : s.whitelist.enabled = true) (r : WlRequest) (name : String) :
    isHostAllowed lower name (r.run lower s) = whitelistAllows lower (r.update (getWhitelist s).2) name := by
  have h : (getWhitelist s).1 = true := he
  rw [WlRequest.run, h, isHostAllowed_setWhitelist]

/-- **`Remove` drops only the entries equal to the raw parameter.** Under an
enabled whitelist a removal allows exactly what the entries read back allow,
less those spelled as the parameter is. -/
theorem isHostAllowed_removeDNSWhitelistHost {s : Server} (he : s.whitelist.enabled = true) {host : String}
    (hh : host ≠ "") (name : String) :
    (removeDNSWhitelistHost lower host (some s)).1.map (isHostAllowed lower name) =
      some (whitelistAllows lower ((getWhitelist s).2.filter (· != host)) name) := by
  simp only [removeDNSWhitelistHost, hh, if_false, Option.map_some', isHostAllowed_run lower he]
  rfl

end Lower

/-- The whitelist `SetWhitelist(true, [])` leaves. -/
def emptyWhitelist : Server := setWhitelist Char.toLower true [] defaultServer

/-- **A removed host stays allowed.** `Example.com` is added to an empty
enabled whitelist and removed again with the same spelling: the removal
answers `200 Host removed from whitelist`, and `example.com`, refused before,
is still allowed. The names are ASCII, which `Char.toLower` lowers as Go
does. -/
theorem removed_host_stays_allowed :
    isHostAllowed Char.toLower "example.com" emptyWhitelist = false ∧
      (addDNSWhitelistHost Char.toLower (.ok "Example.com") (some emptyWhitelist)).2 =
        (200, "Host added to whitelist") ∧
      (removeDNSWhitelistHost Char.toLower "Example.com"
          (addDNSWhitelistHost Char.toLower (.ok "Example.com") (some emptyWhitelist)).1).2 =
        (200, "Host removed from whitelist") ∧
      (removeDNSWhitelistHost Char.toLower "Example.com"
          (addDNSWhitelistHost Char.toLower (.ok "Example.com") (some emptyWhitelist)).1).1.map
          (isHostAllowed Char.toLower "example.com") =
        some true := by
  decide

/-! ### Two requests at once -/

/-- Where a request is: not started, between its read and its write (holding
the flag and the list it will write), or finished. -/
inductive Phase
  | ready
  | read (enabled : Bool) (hosts : List String)
  | done

/-- Two whitelist requests running at once, `true` and `false`, and the DNS
server they share. -/
structure Whitelisting where
  server : Server
  phase : Bool → Phase

namespace Whitelisting

/-- Both requests ready on the server `s`. -/
def start (s : Server) : Whitelisting := ⟨s, fun _ => .ready⟩

section Lower

variable (lower : Char → Char)

/-- Request `b` takes its next atomic step: `GetWhitelist` and the update, or
`SetWhitelist`; a finished request does nothing. -/
def step (reqs : Bool → WlRequest) (b : Bool) (w : Whitelisting) : Whitelisting :=
  match w.phase b with
  | .ready =>
    let (enabled, hosts) := getWhitelist w.server
    ⟨w.server, Function.update w.phase b (.read enabled ((reqs b).update hosts))⟩
  | .read enabled hosts => ⟨setWhitelist lower enabled hosts w.server, Function.update w.phase b .done⟩
  | .done => w

/-- The steps of a schedule, one after the other. -/
def run (reqs : Bool → WlRequest) (sched : List Bool) (w : Whitelisting) : Whitelisting :=
  sched.foldl (fun w b => step lower reqs b w) w

theorem setWhitelist_setWhitelist (e e' : Bool) (hs hs' : List String) (s : Server) :
    setWhitelist lower e hs (setWhitelist lower e' hs' s) = setWhitelist lower e hs s := rfl

theorem count_true_add_count_false (l : List Bool) : l.count true + l.count false = l.length := by
  induction l with
  | nil => rfl
  | cons b l ih => cases b <;> simp only [List.count_cons_self, List.count_cons_of_ne, List.length_cons,
      ne_eq, Bool.true_eq_false, Bool.false_eq_true, not_false_eq_true] <;> omega

/-- **Every interleaving of two requests.** Whatever order the two reads and
two writes take, the server ends as after the two requests run one after the
other, in one order or the other, or as after one request alone: the write of
the other is lost. -/
theorem interleaving_outcomes (reqs : Bool → WlRequest) (s : Server) (sched : List Bool)
    (ht : sched.count true = 2) (hf : sched.count false = 2) :
    (run lower reqs sched (start s)).server = (reqs false).run lower ((reqs true).run lower s) ∨
      (run lower reqs sched (start s)).server = (reqs true).run lower ((reqs false).run lower s) ∨
      (run lower reqs sched (start s)).server = (reqs true).run lower s ∨
      (run lower reqs sched (start s)).server = (reqs false).run lower s := by
  have hl : sched.length = 4 := by rw [← count_true_add_count_false, ht, hf]
  obtain ⟨a, b, c, d, rfl⟩ : ∃ a b c d, sched = [a, b, c, d] := by
    match sched, hl with
    | [a, b, c, d], _ => exact ⟨a, b, c, d, rfl⟩
  revert ht hf
  cases a <;> cases b <;> cases c <;> cases d <;> intro ht hf <;>
    first
    | exact absurd ht (by decide)
    | exact absurd hf (by decide)
    | exact .inl rfl
    | exact .inr (.inl rfl)
    | exact .inr (.inr (.inl rfl))
    | exact .inr (.inr (.inr rfl))

end Lower

/-- Adding `a.example` and `b.example` at once. -/
def twoAdds : Bool → WlRequest
  | true => .add "a.example"
  | false => .add "b.example"

/-- **Two `Add`s, one lost.** Both requests read the empty whitelist before
either writes: the whitelist ends allowing `b.example` only, while either
serial order allows both hosts. -/
theorem concurrent_adds_lose_a_host :
    [true, false, true, false].count true = 2 ∧ [true, false, true, false].count false = 2 ∧
      isHostAllowed Char.toLower "a.example"
          (run Char.toLower twoAdds [true, false, true, false] (start emptyWhitelist)).server = false ∧
      isHostAllowed Char.toLower "b.example"
          (run Char.toLower twoAdds [true, false, true, false] (start emptyWhitelist)).server = true ∧
      isHostAllowed Char.toLower "a.example"
          ((twoAdds false).run Char.toLower ((twoAdds true).run Char.toLower emptyWhitelist)) = true ∧
      isHostAllowed Char.toLower "a.example"
          ((twoAdds true).run Char.toLower ((twoAdds false).run Char.toLower emptyWhitelist)) = true := by
  decide

end Whitelisting

end Dns

end PodmanSwarm
