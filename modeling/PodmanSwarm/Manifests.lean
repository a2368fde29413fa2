import PodmanSwarm.Strings
import PodmanSwarm.Workload

/-!
# From the request body to the objects (`internal/parser`, `ApplyManifest`)

`ApplyManifest` reads the body, cuts it into YAML documents with
`ParseManifest`, decodes each with the Kubernetes universal deserializer and
applies the objects one by one. `PodmanSwarm.Agent.applyObjects` models the
last step on records already parsed; this module adds the two steps before it.

* **Cutting.** `ParseManifest` splits the body at every occurrence of `---`,
  wherever it stands, trims each piece with `strings.TrimSpace` and drops the
  blank ones. Documents joined by `---` lines come back as they were, trimmed,
  as long as none of them contains `---`
  (`PodmanSwarm.Manifests.manifestDocuments_joinDocuments`); one that does –
  in a comment, a value, an image tag – is cut in two, and the decoder never
  sees it whole (`PodmanSwarm.Manifests.manifest_split_inside_document`).
* **Parsing.** `ParseDeployment` dereferences `Spec.Replicas`, which the
  decoder leaves nil when the manifest omits `replicas`, and `applyIngress`
  calls `AddIngress` on the controller, which `main` leaves nil when ingress is
  disabled. Both panics happen inside the handler and `gin.Recovery` answers
  them with a bare 500; the second leaves the ingress filed, and every later
  `DeleteManifest` of it panics in turn
  (`PodmanSwarm.Manifests.manifest_requests_panic`). A third panic comes from
  the registry: a service panics the loop exactly when a pod the scheduler
  lists matches it (`PodmanSwarm.Manifests.applyService_outcome`). Away from
  the three, the loop never panics
  (`PodmanSwarm.Manifests.applyDecodedList_ne_panic`), and it is the loop on
  parsed records (`PodmanSwarm.Manifests.applyDecodedList_eq_applyObjects`).
* **Deleting.** `DeleteManifest` panics exactly when the service it deletes
  still has a filed endpoint for a listed matching pod, or when the ingress is
  filed and the controller is nil
  (`PodmanSwarm.Manifests.deleteManifest_reply`).

The decoder itself is a parameter: which YAML it accepts, and what it makes of
it, is the Kubernetes library's business.
-/

namespace PodmanSwarm

namespace Manifests

open Agent

/-- The `*appsv1.Deployment` the decoder returns, with what `ParseDeployment`
reads. -/
structure DeploymentObject where
  name : String
  /-- `Namespace`. -/
  ns : String
  /-- `Spec.Replicas`, nil when the manifest leaves `replicas` out. -/
  replicas : Option Int
  template : PodTemplate

/-- What the decoder returns for one document. -/
inductive Decoded
  | deployment (o : DeploymentObject)
  | service (s : Service)
  | ingress (i : Ingress)
  /-- Any other kind, which `ApplyManifest` skips. -/
  | other

/-- `ParseDeployment`: `*deployment.Spec.Replicas` panics when the pointer is
nil. -/
def parseDeployment (o : DeploymentObject) : Except Panic Deployment :=
  match o.replicas with
  | some n => .ok ⟨o.name, o.ns, n, n, [], o.template⟩
  | none => .error .nilDereference

/-- The parse each handler starts with; only `ParseDeployment` can fail. -/
def parseObject : Decoded → Except Panic Manifest
  | .deployment o => (parseDeployment o).map .deployment
  | .service s => .ok (.service s)
  | .ingress i => .ok (.ingress i)
  | .other => .ok .other

/-- The documents `ParseManifest` hands the decoder: the pieces of the body
between occurrences of `---`, trimmed, the blank ones dropped. -/
def manifestDocuments (data : String) : List String :=
  ((Strings.splitOn data "---").map Strings.trimSpace).filter (· ≠ "")

/-- `ParseManifest`, where `decode` stands for the universal deserializer: the
objects in order, or the first decoding error. -/
def parseManifest (decode : String → Except String Decoded) (data : String) : Except String (List Decoded) :=
  (manifestDocuments data).mapM fun doc =>
    match decode doc with
    | .ok o => .ok o
    | .error err => .error ("failed to decode manifest: " ++ err)

/-- One pass of `ApplyManifest`'s loop on the `j`-th decoded object: the
handler parses it, then applies the record. -/
def applyDecoded (env : RequestEnv) (j : Nat) (o : Decoded) (a : Agent) : Agent × Outcome :=
  match parseObject o with
  | .ok m => applyObject env j m a
  | .error p => (a, .panic p)

/-- The loop of `ApplyManifest` on the decoded objects from the `j`-th on; it
stops at the first object that fails. -/
def applyDecodedList (env : RequestEnv) : Nat → List Decoded → Agent → Agent × Outcome
  | _, [], a => (a, .ok)
  | j, o :: os, a =>
    match applyDecoded env j o a with
    | (a', .ok) => applyDecodedList env (j + 1) os a'
    | r => r

/-- `ApplyManifest` on the request body: `400` when a document does not
decode, and otherwise the reply of the loop. -/
def applyManifestBody (decode : String → Except String Decoded) (env : RequestEnv) (body : String)
    (a : Agent) : Agent × (Nat × String) :=
  match parseManifest decode body with
  | .error err => (a, (400, "Failed to parse manifest: " ++ err))
  | .ok objs =>
    let (a, o) := applyDecodedList env 0 objs a
    (a, o.reply "Manifest applied successfully")

/-- **`ApplyManifest` on a body that parses** replies what its loop over the
objects ends with. -/
theorem applyManifestBody_of_ok {decode : String → Except String Decoded} {env : RequestEnv} {body : String}
    {objs : List Decoded} (hparse : parseManifest decode body = .ok objs) (a : Agent) :
    applyManifestBody decode env body a =
      ((applyDecodedList env 0 objs a).1, (applyDecodedList env 0 objs a).2.reply "Manifest applied successfully") := by
  unfold applyManifestBody
  rw [hparse]

/-! ### Cutting the body -/

/-- A body of several documents as a client writes it: a `---` line between
two consecutive documents. -/
def joinDocuments : List String → String
  | [] => ""
  | [d] => d
  | d :: d' :: ds => d ++ "\n---\n" ++ joinDocuments (d' :: ds)

theorem dashes_infix_of_append {pre l : List Char} (hp : '-' ∉ pre) (h : "---".data <:+: pre ++ l) :
    "---".data <:+: l := by
  induction pre with
  | nil => exact h
  | cons c cs ih =>
    rw [List.cons_append, List.infix_cons_iff] at h
    rcases h with ⟨t, ht⟩ | h
    · exact (hp ((List.cons.inj ht).1 ▸ List.mem_cons_self _ _)).elim
    · exact ih (fun h' => hp (List.mem_cons_of_mem _ h')) h

theorem dashes_infix_of_append_newline {l : List Char} (h : "---".data <:+: l ++ ['\n', '-', '-']) :
    "---".data <:+: l := by
  rw [← List.reverse_infix] at h ⊢
  simpa [List.infix_cons_iff] using h

/-- The pieces of a joined body, trimmed, after a prefix of newlines (the one
the previous `---` line leaves): one per document. -/
theorem map_trimSpace_splitScan_joinDocuments (pre : List Char) (hsp : ∀ c ∈ pre, Strings.isSpace c)
    (hd : '-' ∉ pre) : ∀ ds : List String, ds ≠ [] → (∀ d ∈ ds, ¬ "---".data <:+: d.data) →
      (Strings.splitScan "---".data (pre ++ (joinDocuments ds).data) []).map (fun p => Strings.trimSpace ⟨p⟩) =
        ds.map Strings.trimSpace
  | [], h, _ => absurd rfl h
  | [d], _, hs => by
    have hno : ¬ "---".data <:+: [] ++ (pre ++ d.data) := fun h =>
      hs d (List.mem_singleton_self _) (dashes_infix_of_append hd (by simpa using h))
    rw [joinDocuments, ← List.append_nil (pre ++ d.data), Strings.splitScan_append_of_not_infix _ _ _ _ hno]
    simp [Strings.splitScan, Strings.trimSpace_append_of_isSpace pre hsp]
  | d :: d' :: ds, _, hs => by
    have hbody : pre ++ (joinDocuments (d :: d' :: ds)).data =
        (pre ++ d.data ++ ['\n']) ++ "---".data ++ ('\n' :: (joinDocuments (d' :: ds)).data) := by
      simp only [joinDocuments, String.data_append, List.append_assoc]
      rfl
    have hno : ¬ "---".data <:+: [] ++ (pre ++ d.data ++ ['\n']) ++ "---".data.dropLast := fun h =>
      hs d (List.mem_cons_self _ _) (dashes_infix_of_append_newline (dashes_infix_of_append hd (by simpa using h)))
    have ih := map_trimSpace_splitScan_joinDocuments ['\n'] (by decide) (by decide) (d' :: ds)
      (List.cons_ne_nil _ _) fun e he => hs e (List.mem_cons_of_mem _ he)
    rw [List.singleton_append] at ih
    rw [hbody, Strings.splitScan_append_sep (by decide) _ _ _ hno, List.map_cons, ih, List.nil_append,
      Strings.trimSpace_append_newline, Strings.trimSpace_append_of_isSpace pre hsp]
    rfl

/-- **Joining and cutting back.** Documents none of which contains `---` and
none of which is blank reach the decoder as they were written, trimmed, one
per document and in order. -/
theorem manifestDocuments_joinDocuments (ds : List String) (hsep : ∀ d ∈ ds, ¬ "---".data <:+: d.data)
    (hblank : ∀ d ∈ ds, Strings.trimSpace d ≠ "") : manifestDocuments (joinDocuments ds) = ds.map Strings.trimSpace := by
  rcases eq_or_ne ds [] with rfl | hne
  · rfl
  have hmap : ((Strings.splitScan "---".data (joinDocuments ds).data []).map String.mk).map Strings.trimSpace =
      ds.map Strings.trimSpace := by
    rw [List.map_map]
    exact map_trimSpace_splitScan_joinDocuments [] nofun nofun ds hne hsep
  rw [manifestDocuments, Strings.splitOn, hmap, List.filter_eq_self]
  simpa using hblank

/-- **A document holding `---` is cut.** The comment `# --- web ---` heading
a service, followed by a second document: the decoder is handed `#` and `web`
in place of the first document. -/
theorem manifest_split_inside_document :
    ["# --- web ---\nkind: Service", "kind: Deployment"].map Strings.trimSpace =
        ["# --- web ---\nkind: Service", "kind: Deployment"] ∧
      manifestDocuments (joinDocuments ["# --- web ---\nkind: Service", "kind: Deployment"]) =
        ["#", "web", "kind: Service", "kind: Deployment"] := by
  decide

/-! ### Parsing and applying -/

theorem applyDeployment_ne_panic (env : Nat → ReplicaEnv) (dep : Deployment) (a : Agent) (p : Panic) :
    (applyDeployment env dep a).2 ≠ .panic p := by
  unfold applyDeployment
  split
  split <;> nofun

/-- **A service's pass panics exactly when a pod the scheduler lists matches
its selector**, and leaves the ingress controller as it is. -/
theorem applyService_outcome (now : Time) (svc : Service) (a : Agent) :
    (applyService now svc a).1.ingress = a.ingress ∧
      (applyService now svc a).2 = if (a.scheduler.getAllPods.find? fun p => matchesSelector p.labels svc.selector).isSome
        then .panic .nilDereference else .ok := by
  rw [applyService_eq]
  cases a.scheduler.getAllPods.find? fun p => matchesSelector p.labels svc.selector <;> exact ⟨rfl, rfl⟩

/-- **With a controller, a record's pass panics only on a service matching a
listed pod**, and no pass takes the controller away. -/
theorem applyObject_of_ingress_isSome {env : RequestEnv} {j : Nat} {m : Manifest} {a : Agent}
    (h : a.ingress.isSome) : (applyObject env j m a).1.ingress.isSome ∧ ∀ p, (applyObject env j m a).2 = .panic p →
      ∃ svc, m = .service svc ∧ (a.scheduler.getAllPods.find? fun q => matchesSelector q.labels svc.selector).isSome := by
  cases m with
  | deployment d =>
    have hi : (applyDeployment (env.replica j) d a).1.ingress = a.ingress := rfl
    have hp := applyDeployment_ne_panic (env.replica j) d a
    simp only [applyObject]
    generalize applyDeployment (env.replica j) d a = r at hi hp
    rcases r with ⟨a', _ | err | q⟩
    · exact ⟨hi ▸ h, nofun⟩
    · exact ⟨hi ▸ h, nofun⟩
    · exact ⟨hi ▸ h, fun p hq => absurd hq (hp p)⟩
  | service s =>
    obtain ⟨hi, ho⟩ := applyService_outcome (env.now j) s a
    refine ⟨hi ▸ h, fun p hp => ⟨s, rfl, ?_⟩⟩
    change (applyService (env.now j) s a).2 = _ at hp
    rw [ho] at hp
    split_ifs at hp with hf
    exact hf
  | ingress i =>
    obtain ⟨ic, hic⟩ := Option.isSome_iff_exists.mp h
    simp only [applyObject, applyIngress, hic]
    exact ⟨rfl, nofun⟩
  | other => exact ⟨h, nofun⟩

/-- **No panic on records without a service**: with the ingress controller
enabled, the loop on parsed deployments and ingresses never panics. -/
theorem applyObjects_ne_panic (env : RequestEnv) :
    ∀ (ms : List Manifest) (j : Nat) (a : Agent), a.ingress.isSome → (∀ svc, .service svc ∉ ms) →
      ∀ p, (applyObjects env j ms a).2 ≠ .panic p
  | [], _, _, _, _, _ => nofun
  | m :: ms, j, a, h, hs, p => by
    obtain ⟨h₁, hp₁⟩ := @applyObject_of_ingress_isSome env j m a h
    have hm : ∀ q, (applyObject env j m a).2 ≠ .panic q := fun q hq => by
      obtain ⟨svc, rfl, -⟩ := hp₁ q hq
      exact hs svc (List.mem_cons_self _ _)
    simp only [applyObjects]
    generalize applyObject env j m a = r at h₁ hm
    rcases r with ⟨a', _ | err | q⟩
    · exact applyObjects_ne_panic env ms (j + 1) a' h₁ (fun svc h' => hs svc (List.mem_cons_of_mem _ h')) p
    · nofun
    · exact hm p

/-- **Parsing first changes nothing** when every object parses: the loop on
the decoded objects is the loop on the records they parse to. -/
theorem applyDecodedList_eq_applyObjects (env : RequestEnv) :
    ∀ (objs : List Decoded) (ms : List Manifest) (j : Nat) (a : Agent), objs.mapM parseObject = .ok ms →
      applyDecodedList env j objs a = applyObjects env j ms a
  | [], ms, j, a, h => by cases h; rfl
  | o :: os, ms, j, a, h => by
    rw [List.mapM_cons] at h
    cases ho : parseObject o with
    | error p => rw [ho] at h; cases h
    | ok m =>
      cases hos : os.mapM parseObject with
      | error p => rw [ho, hos] at h; cases h
      | ok ms' =>
        rw [ho, hos] at h
        cases h
        simp only [applyDecodedList, applyObjects, applyDecoded, ho]
        rcases applyObject env j m a with ⟨a', _ | _ | _⟩
        · exact applyDecodedList_eq_applyObjects env os ms' (j + 1) a' hos
        all_goals rfl

/-- Every object with `replicas` set parses, and only a decoded service parses
to a service. -/
theorem parseObject_ok {o : Decoded} (h : ∀ d, o = .deployment d → d.replicas.isSome) :
    ∃ m, parseObject o = .ok m ∧ ∀ svc, m = .service svc → o = .service svc := by
  cases o with
  | deployment d =>
    obtain ⟨n, hn⟩ := Option.isSome_iff_exists.mp (h d rfl)
    exact ⟨_, by simp only [parseObject, parseDeployment, hn]; rfl, fun _ h => by cases h⟩
  | service s => exact ⟨_, rfl, fun _ h => by cases h; rfl⟩
  | ingress i => exact ⟨_, rfl, nofun⟩
  | other => exact ⟨_, rfl, nofun⟩

theorem mapM_parseObject_ok :
    ∀ objs : List Decoded, (∀ d, .deployment d ∈ objs → d.replicas.isSome) →
      ∃ ms, objs.mapM parseObject = .ok ms ∧ ∀ svc, .service svc ∈ ms → .service svc ∈ objs
  | [], _ => ⟨[], rfl, nofun⟩
  | o :: os, h => by
    obtain ⟨m, hm, hsm⟩ := parseObject_ok fun d hd => h d (hd ▸ List.mem_cons_self _ _)
    obtain ⟨ms, hms, hsms⟩ := mapM_parseObject_ok os fun d hd => h d (List.mem_cons_of_mem _ hd)
    refine ⟨m :: ms, by rw [List.mapM_cons, hm, hms]; rfl, fun svc hsvc => ?_⟩
    rcases List.mem_cons.mp hsvc with hsvc | hsvc
    · exact hsm svc hsvc.symm ▸ List.mem_cons_self _ _
    · exact List.mem_cons_of_mem _ (hsms svc hsvc)

/-- **Away from the three panics, none.** When every deployment of the
manifest sets `replicas`, the manifest holds no service and the agent runs its
ingress controller, `ApplyManifest`'s loop ends normally or with an error,
never with a panic. A service panics exactly when it matches a listed pod
(`PodmanSwarm.Manifests.applyService_outcome`). -/
theorem applyDecodedList_ne_panic (env : RequestEnv) (j : Nat) (objs : List Decoded) (a : Agent)
    (hr : ∀ d, .deployment d ∈ objs → d.replicas.isSome) (hs : ∀ svc, .service svc ∉ objs)
    (hi : a.ingress.isSome) (p : Panic) : (applyDecodedList env j objs a).2 ≠ .panic p := by
  obtain ⟨ms, hms, hsms⟩ := mapM_parseObject_ok objs hr
  rw [applyDecodedList_eq_applyObjects env objs ms j a hms]
  exact applyObjects_ne_panic env ms j a hi (fun svc h => hs svc (hsms svc h)) p

/-! ### `DeleteManifest` -/

/-- **`DeleteManifest` panics exactly on a filed endpoint of the service or a
filed ingress without a controller.** The service branch panics when one of
the pods the scheduler still lists once the deployment is gone matches the
service and has an endpoint filed; the ingress branch, when the ingress is
filed and the controller is nil. Deleting the deployment never panics. -/
theorem deleteManifest_reply (ns name : String) (a : Agent) :
    (deleteManifest ns name a).2 =
      if ((a.services.lookup (objectKey ns name)).any fun svc =>
            (deleteDeploymentOf (objectKey ns name) a).scheduler.getAllPods.any fun p =>
              matchesSelector p.labels svc.selector &&
                (a.registry.find (serviceKey svc.name svc.ns) (endpointID svc.ns svc.name p.id)).isSome) ||
          ((a.ingresses.lookup (objectKey ns name)).isSome && a.ingress.isNone)
      then (500, "") else (200, "Manifest deleted successfully") := by
  obtain ⟨s, ds, hd⟩ := deleteDeploymentOf_eq (objectKey ns name) a
  unfold deleteManifest
  rw [hd]
  dsimp only
  rw [deleteServiceOf_eq]
  rcases a.services.lookup (objectKey ns name) with _ | svc
  · rcases hi : a.ingresses.lookup (objectKey ns name) <;> rcases hc : a.ingress <;>
      simp only [deleteIngressOf, hi, hc] <;> rfl
  · dsimp only
    by_cases hf : (s.getAllPods.any fun p => matchesSelector p.labels svc.selector &&
        (a.registry.find (serviceKey svc.name svc.ns) (endpointID svc.ns svc.name p.id)).isSome) = true
    · simp only [hf, if_true, Option.any_some, Bool.true_or]
      rfl
    · rcases hi : a.ingresses.lookup (objectKey ns name) <;> rcases hc : a.ingress <;>
        simp only [hf, Bool.false_eq_true, if_false, Option.any_some, Bool.false_or, deleteIngressOf, hi, hc] <;> rfl

/-- Without a controller, `DeleteManifest` removes no ingress. -/
theorem ingresses_deleteManifest_of_disabled (ns name : String) (a : Agent) (h : a.ingress = none) :
    (deleteManifest ns name a).1.ingresses = a.ingresses := by
  obtain ⟨s, ds, hd⟩ := deleteDeploymentOf_eq (objectKey ns name) a
  unfold deleteManifest
  rw [hd]
  dsimp only
  rw [deleteServiceOf_eq]
  rcases a.services.lookup (objectKey ns name) with _ | svc
  · simp only [deleteIngressOf, h]
    rcases a.ingresses.lookup (objectKey ns name) <;> rfl
  · dsimp only
    split_ifs
    · rfl
    · simp only [deleteIngressOf, h]
      rcases a.ingresses.lookup (objectKey ns name) <;> rfl

/-! ### Two requests that panic -/

/-- **Two requests that panic.** A deployment whose manifest leaves out
`replicas` panics `ApplyManifest` before anything is filed, whatever the rest
of the body holds. An ingress sent to an agent started with the ingress
controller disabled panics it after the ingress is filed; `DeleteManifest` of
that ingress then panics as well and leaves it filed, so it panics again on
every later call. -/
theorem manifest_requests_panic :
    (∀ (decode : String → Except String Decoded) (env : RequestEnv) (body : String) (o : DeploymentObject)
        (rest : List Decoded) (a : Agent), o.replicas = none → parseManifest decode body = .ok (.deployment o :: rest) →
      (applyDecodedList env 0 (.deployment o :: rest) a).2 = .panic .nilDereference ∧
        applyManifestBody decode env body a = (a, (500, ""))) ∧
    ∀ (decode : String → Except String Decoded) (env : RequestEnv) (body : String) (i : Ingress)
        (rest : List Decoded) (c : Cluster) (file : StateFile), parseManifest decode body = .ok (.ingress i :: rest) →
      ∃ a', (applyDecodedList env 0 (.ingress i :: rest) (Agent.start c file false)).2 = .panic .nilDereference ∧
        applyManifestBody decode env body (Agent.start c file false) = (a', (500, "")) ∧
        (a'.ingresses.lookup (objectKey i.ns i.name)).isSome ∧
        (deleteManifest i.ns i.name a').2 = (500, "") ∧ (deleteManifest i.ns i.name a').1.ingresses = a'.ingresses := by
  refine ⟨fun decode env body o rest a ho hparse => ?_, fun decode env body i rest c file hparse => ?_⟩
  · have hrun : applyDecodedList env 0 (.deployment o :: rest) a = (a, .panic .nilDereference) := by
      simp only [applyDecodedList, applyDecoded, parseObject, parseDeployment, ho]
      rfl
    refine ⟨by rw [hrun], ?_⟩
    rw [applyManifestBody_of_ok hparse, hrun]
    rfl
  · let a' : Agent := { Agent.start c file false with
      ingresses := (∅ : GoMap Ingress).insert (objectKey i.ns i.name) i }
    have hrun : applyDecodedList env 0 (.ingress i :: rest) (Agent.start c file false) =
        (a', .panic .nilDereference) := rfl
    have hfiled : a'.ingresses.lookup (objectKey i.ns i.name) = some i := AList.lookup_insert _
    refine ⟨a', by rw [hrun], by rw [applyManifestBody_of_ok hparse, hrun]; rfl, by rw [hfiled]; rfl, ?_,
      ingresses_deleteManifest_of_disabled _ _ a' rfl⟩
    rw [deleteManifest_reply, hfiled]
    rfl

end Manifests

end PodmanSwarm
