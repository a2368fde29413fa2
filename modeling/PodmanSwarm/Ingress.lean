import PodmanSwarm.Workload
import PodmanSwarm.Locks
import PodmanSwarm.Strings

/-!
# The ingress controller's request path (`internal/ingress`)

`handleRequest` finds the first rule that matches the request's host and path,
asks discovery for the service's healthy endpoints, picks one round-robin and
proxies to it. It does the first part under `ic.mu.RLock()`, whose
`RUnlock` is deferred to the end of the handler, and the round-robin update
under `ic.mu.Lock()`.

So every request that gets as far as the round-robin step asks for `Lock`
while its own goroutine holds the read lock
(`PodmanSwarm.Ingress.Router.handleRequest_locks`). By
`PodmanSwarm.Locks.frozen_of_acquire_reading` that goroutine never gets past
`Lock`, whatever the other goroutines do: no such request is ever proxied
(`PodmanSwarm.Ingress.Router.routed_request_never_proxied`).

The handler is modelled as it would run if `Lock` returned
(`PodmanSwarm.Ingress.Router.handleRequest`), and the results below use only
the calls it makes on the mutex and what it does before the `Lock`: nothing
past the `Lock` is reachable for a routed request.

`url.Parse` of `http://` followed by the target is a parameter: the section
below does not depend on which targets it rejects.
-/

namespace PodmanSwarm

namespace Ingress

open Locks

/-- `matchesPath`: an empty rule path matches every request; a missing path
type is a prefix match, and a path type the switch does not know matches
nothing. Go compares byte prefixes, which for two well-formed strings is the
prefix order on their characters. -/
def matchesPath (requestPath ingressPath : String) (pathType : Option PathType) : Bool :=
  if ingressPath = "" then true
  else
    match pathType with
    | none => Strings.hasPrefix requestPath ingressPath
    | some .exact => requestPath = ingressPath
    | some .prefixed => Strings.hasPrefix requestPath ingressPath
    | some .implementationSpecific => Strings.hasPrefix requestPath ingressPath
    | some (.other _) => false

/-- The matching loops of `handleRequest`: the first path, in the first rule
for the host (or for every host), of the first ingress that has one. -/
def findRule (ingresses : List Ingress) (host path : String) : Option (Ingress × IngressPath) :=
  ingresses.findSome? fun ing =>
    ing.rules.findSome? fun rule =>
      if rule.host = host ∨ rule.host = "" then
        (rule.paths.find? fun p => matchesPath path p.path p.pathType).map (ing, ·)
      else none

/-- **What the matching loops select**: a path of a rule for the request's
host, or for every host, of one of the ingresses, that matches the request
path. Which one is the first in iteration order. -/
theorem findRule_sound {ingresses : List Ingress} {host path : String} {ing : Ingress} {p : IngressPath}
    (h : findRule ingresses host path = some (ing, p)) :
    ing ∈ ingresses ∧ ∃ rule ∈ ing.rules, (rule.host = host ∨ rule.host = "") ∧ p ∈ rule.paths ∧
      matchesPath path p.path p.pathType = true := by
  obtain ⟨ing', hing', hr⟩ := List.exists_of_findSome?_eq_some h
  obtain ⟨rule, hrule, hp⟩ := List.exists_of_findSome?_eq_some hr
  split_ifs at hp with hhost
  obtain ⟨p', hp', he⟩ := Option.map_eq_some'.mp hp
  cases he
  exact ⟨hing', rule, hrule, hhost, List.mem_of_find?_eq_some hp', by simpa using List.find?_some hp'⟩

/-- Where `handleRequest` proxies to for endpoint `e`: `localhost:port` for
a pod on this node, `address:port` otherwise. -/
def target (localNodeName : String) (e : ServiceEndpoint) : String :=
  if e.nodeName = localNodeName then "localhost:" ++ toString e.port
  else e.address ++ ":" ++ toString e.port

/-- The reply of `handleRequest`. -/
inductive Reply
  /-- `c.JSON(code, gin.H{"error": msg})`. -/
  | status (code : Nat) (msg : String)
  /-- `proxy.ServeHTTP`, through the proxy built for `target`. -/
  | proxied (target : String)
  deriving DecidableEq, Repr

/-- `ingress.IngressController`: the rule table of
`PodmanSwarm.IngressController` and the state `handleRequest` keeps. -/
structure Router extends IngressController where
  /-- `proxies`: per service key, the target its reverse proxy was built for. -/
  proxies : GoMap String
  roundRobinIdx : GoMap Nat
  localNodeName : String

namespace Router

section Handler

variable (urlParses : String → Bool)

/-- `handleRequest` at time `now`, against the registry `reg`: the
controller after it, its reply, and the calls it makes on `ic.mu` – as it
would run if its `Lock` returned. -/
def handleRequest (now : Time) (reg : Registry) (host path : String) (ic : Router) :
    Router × Reply × List Call :=
  match findRule ic.rules.vals host path with
  | none => (ic, .status 404 "No ingress rule found", [.rlock, .runlock])
  | some (ing, p) =>
    match Registry.getServiceEndpoints p.serviceName ing.ns now reg with
    | .error _ | .ok [] => (ic, .status 503 "Service unavailable", [.rlock, .runlock])
    | .ok (e :: es) =>
      let key := objectKey ing.ns p.serviceName
      let idx := ic.roundRobinIdx.get key 0
      let sel := (e :: es).get ⟨idx % (es.length + 1), Nat.mod_lt _ es.length.succ_pos⟩
      let ic := { ic with roundRobinIdx := ic.roundRobinIdx.insert key ((idx + 1) % (es.length + 1)) }
      let t := target ic.localNodeName sel
      match ic.proxies.lookup key with
      | some cached => (ic, .proxied cached, [.rlock, .lock, .unlock, .runlock])
      | none =>
        if urlParses t then
          ({ ic with proxies := ic.proxies.insert key t }, .proxied t, [.rlock, .lock, .unlock, .runlock])
        else (ic, .status 500 "Invalid target URL", [.rlock, .lock, .unlock, .runlock])

/-- The request reaches the round-robin step: a rule matches it and its
service has a healthy endpoint. -/
def Routed (now : Time) (reg : Registry) (host path : String) (ic : Router) : Prop :=
  ∃ ing p e es, findRule ic.rules.vals host path = some (ing, p) ∧
    Registry.getServiceEndpoints p.serviceName ing.ns now reg = .ok (e :: es)

/-- **The calls `handleRequest` makes on `ic.mu`.** A request that reaches
the round-robin step takes `Lock` between its `RLock` and the deferred
`RUnlock`; any other request only reads. -/
theorem handleRequest_locks (now : Time) (reg : Registry) (host path : String) (ic : Router) :
    (handleRequest urlParses now reg host path ic).2.2 = [.rlock, .lock, .unlock, .runlock] ∧
        Routed now reg host path ic ∨
      (handleRequest urlParses now reg host path ic).2.2 = [.rlock, .runlock] ∧
        ¬ Routed now reg host path ic := by
  unfold handleRequest Routed
  split
  · next hf => exact .inr ⟨rfl, by simp [hf]⟩
  · next ing p hf =>
    split
    · next hg => exact .inr ⟨rfl, by simp [hf, hg]⟩
    · next hg => exact .inr ⟨rfl, by simp [hf, hg]⟩
    · next e es hg =>
      refine .inl ⟨?_, ing, p, e, es, hf, hg⟩
      dsimp only
      split
      · rfl
      · split <;> rfl

theorem program_handleRequest_of_routed {now : Time} {reg : Registry} {host path : String} {ic : Router}
    (hr : Routed now reg host path ic) :
    program (handleRequest urlParses now reg host path ic).2.2 =
      [.rlock, .announce, .acquire, .unlock, .runlock] := by
  rcases handleRequest_locks urlParses now reg host path ic with ⟨h, -⟩ | ⟨-, hn⟩
  · rw [h]; rfl
  · exact absurd hr hn

/-- **Three methods take a mutex they already hold.** `handleRequest` takes
`ic.mu` again exactly when the request reaches the round-robin step;
`BroadcastState` always takes `s.mu` twice, and can deadlock against any
writer of the store; the fallback of `GetLocalNodeAddress` takes `c.mu`
twice. -/
theorem handlers_reacquire_held_mutex (now : Time) (reg : Registry) (host path : String) (ic : Router)
    (c : Cluster) (n : MemberNode) :
    (reacquires (handleRequest urlParses now reg host path ic).2.2 = true ↔ Routed now reg host path ic) ∧
      reacquires broadcastStateLocks = true ∧
      (∃ s, Reaches ⟨.free, [⟨0, program broadcastStateLocks⟩, ⟨0, program saveLocks⟩]⟩ s ∧ Deadlocked s) ∧
      reacquires (getLocalNodeAddress c none (some n)).2 = true := by
  refine ⟨?_, rfl, ⟨_, broadcastThenSave_reachable, nested_rlock_deadlock.1⟩, ?_⟩
  · rcases handleRequest_locks urlParses now reg host path ic with ⟨h, hr⟩ | ⟨h, hr⟩
    · rw [h]; exact iff_of_true rfl hr
    · rw [h]; exact iff_of_false Bool.false_ne_true hr
  · rw [getLocalNodeAddress_locks]; rfl

/-- **A routed request is never proxied.** Take a goroutine that starts
`handleRequest` on a request that reaches the round-robin step, among any
other goroutines. In every state reachable from there it has not passed its
`Lock`: the `Unlock` that precedes the proxying is still ahead of it. -/
theorem routed_request_never_proxied {now : Time} {reg : Registry} {host path : String} {ic : Router}
    (hr : Routed now reg host path ic) {s : System} {g : Nat}
    (hg : s.gs[g]? = some ⟨0, program (handleRequest urlParses now reg host path ic).2.2⟩) :
    ∀ s', Reaches s s' → ∃ t, s'.gs[g]? = some t ∧ Step.unlock ∈ t.prog := by
  intro s' hreach
  rw [program_handleRequest_of_routed urlParses hr] at hg
  obtain ⟨t, ht, hb⟩ := beforeLock_reaches hg (.inl rfl) hreach
  refine ⟨t, ht, ?_⟩
  rcases hb with rfl | rfl | rfl <;> simp

/-! ### `AddIngress` and `RemoveIngress` -/

/-- `AddIngress`: the rule table only. -/
def addIngress (ing : Ingress) (ic : Router) : Router :=
  { ic with toIngressController := ic.toIngressController.addIngress ing }

/-- `RemoveIngress(namespace, name)`: `delete(ic.rules, key)` and
`delete(ic.proxies, key)`, for the one key `namespace/name`. -/
def removeIngress (ns name : String) (ic : Router) : Router :=
  { ic with
    toIngressController := ic.toIngressController.removeIngress ns name
    proxies := ic.proxies.erase (objectKey ns name) }

end Handler

/-! ### A request for `web.example.com` -/

/-- The controller with the ingress `default/web`, on `node-1`. -/
def webRouter : Router := ⟨⟨(∅ : GoMap Ingress).insert "default/web" Agent.webIngress⟩, ∅, ∅, "node-1"⟩

/-- The registry with one endpoint of `web.default`, registered at time 0. -/
def webEndpoints : Registry := (Registry.registerService Agent.twoNodes 0 Agent.webSvc Registry.webPod ∅).1

theorem web_request_never_proxied :
    Routed 0 webEndpoints "web.example.com" "/" webRouter ∧
      ∀ s', Reaches ⟨.free, [⟨0, program (handleRequest (fun _ => true) 0 webEndpoints "web.example.com" "/"
        webRouter).2.2⟩]⟩ s' → ∃ t, s'.gs[0]? = some t ∧ Step.unlock ∈ t.prog :=
  have hr : Routed 0 webEndpoints "web.example.com" "/" webRouter := ⟨_, _, _, _, rfl, rfl⟩
  ⟨hr, routed_request_never_proxied (fun _ => true) hr rfl⟩

end Router

/-! ### Two rules for one host -/

/-- The path `/` of `example.com`, to the service `site`. -/
def rootPath : IngressPath := ⟨"/", some .prefixed, "site", 80⟩

/-- The path `/api` of `example.com`, to the service `api`. -/
def apiPath : IngressPath := ⟨"/api", some .prefixed, "api", 80⟩

/-- The ingress `default/site`, with the rule `example.com /`. -/
def siteIngress : Ingress := ⟨"site", "default", [⟨"example.com", [rootPath]⟩]⟩

/-- The ingress `default/api`, with the rule `example.com /api`. -/
def apiIngress : Ingress := ⟨"api", "default", [⟨"example.com", [apiPath]⟩]⟩

/-- The rule table after `AddIngress(site)` then `AddIngress(api)`. -/
def siteThenApi : GoMap Ingress :=
  ((∅ : GoMap Ingress).insert "default/site" siteIngress).insert "default/api" apiIngress

/-- The rule table after `AddIngress(api)` then `AddIngress(site)`. -/
def apiThenSite : GoMap Ingress :=
  ((∅ : GoMap Ingress).insert "default/api" apiIngress).insert "default/site" siteIngress

/-- **The backend depends on iteration order.** The same two ingresses, in
the two orders a Go map can list them, send `/api/users` to different
services; so do the two orders of the paths of one rule. A longest-prefix
choice would pick `api` every time. And the prefix `/foo` matches `/foobar`. -/
theorem ingress_backend_depends_on_order :
    siteThenApi.entries.Perm apiThenSite.entries ∧
      (findRule (GoMap.vals siteThenApi) "example.com" "/api/users").map (·.2.serviceName) = some "api" ∧
      (findRule (GoMap.vals apiThenSite) "example.com" "/api/users").map (·.2.serviceName) = some "site" ∧
      (findRule [⟨"web", "default", [⟨"example.com", [rootPath, apiPath]⟩]⟩] "example.com" "/api/users").map
        (·.2.serviceName) = some "site" ∧
      (findRule [⟨"web", "default", [⟨"example.com", [apiPath, rootPath]⟩]⟩] "example.com" "/api/users").map
        (·.2.serviceName) = some "api" ∧
      matchesPath "/foobar" "/foo" (some .prefixed) = true := by
  decide

end Ingress

end PodmanSwarm
