import Mathlib.Data.List.Permutation
import Mathlib.Tactic.DeriveFintype
import PodmanSwarm.AntiEntropy

/-!
# Two nodes, two sync rounds

Spec §8 promises anti-entropy convergence: once mutations stop, two periods of
`StartPeriodicSync` leave all reachable nodes with equal state. This module
looks at two nodes `A` and `B`. In a **round** each node broadcasts its current
snapshot once and merges the other's snapshot once, after it was broadcast; the
four events happen in any of the six orders that allows
(`PodmanSwarm.SyncRounds.ValidRound`), at strictly increasing times. What
`persist` meets at each merge is an argument, `disk`: the maps converge
whether or not `state.json` is written.

Two rounds do not always make the stores equal
(`PodmanSwarm.SyncRounds.equal_lastModified_never_converge`): `MergeState` only
acts on a strictly newer snapshot, so two stores stamped with the same
`LastModified` never merge, and a pod whose `CreatedAt` ties with the other
side's is never overwritten. Away from those two cases two rounds suffice
(`PodmanSwarm.SyncRounds.two_rounds_converge`).

## The argument

Call the node with the older `LastModified` the follower. In the first round
the follower always merges the leader's initial snapshot – the leader cannot
have merged anything before it broadcasts – and the leader merges back only if
the follower broadcast after merging (`PodmanSwarm.SyncRounds.round_spec`).
Either way the follower now holds the overlay of the leader's content on its
own, stamped later than anything before. The second round then runs with the
roles fixed by the new stamps, and the overlay algebra of
`PodmanSwarm.Storage.Content` (`overlay_absorb`, `overlay_self`) shows that
whatever order it takes, both sides end with that same overlay.
-/

namespace PodmanSwarm

namespace SyncRounds

open Storage

/-! ### Rounds -/

/-- The four events of a round. -/
inductive RoundEvent
  | broadcastA
  | broadcastB
  /-- `A` merges the snapshot `B` broadcast in this round. -/
  | mergeA
  /-- `B` merges the snapshot `A` broadcast in this round. -/
  | mergeB
  deriving DecidableEq, Repr, Fintype

/-- Two nodes in the middle of a round: their stores and the snapshots broadcast
so far in the round. -/
structure Pair where
  a : Storage
  b : Storage
  fromA : Option ClusterState
  fromB : Option ClusterState

section Disk

-- what `persist` meets in a merge at time `t`
variable (disk : Time → WriteResult)

/-- One event at time `now`. A merge before the matching broadcast does not
happen in a valid round; it is a no-op here. -/
def RoundEvent.run (now : Time) (p : Pair) : RoundEvent → Except Panic Pair
  | .broadcastA => .ok { p with fromA := some p.a.getState }
  | .broadcastB => .ok { p with fromB := some p.b.getState }
  | .mergeA => match p.fromB with
    | some c => match p.a.mergeState (disk now) now c with
      | .ok a => .ok { p with a := a }
      | .error e => .error e
    | none => .ok p
  | .mergeB => match p.fromA with
    | some c => match p.b.mergeState (disk now) now c with
      | .ok b => .ok { p with b := b }
      | .error e => .error e
    | none => .ok p

/-- Events in the order they happen, each with its time. -/
def runEvents : List (RoundEvent × Time) → Pair → Except Panic Pair
  | [], p => .ok p
  | (e, t) :: r, p => match e.run disk t p with
    | .ok p' => runEvents r p'
    | .error x => .error x

/-- A round, from the two stores to the two stores. -/
def runRound (r : List (RoundEvent × Time)) (a b : Storage) : Except Panic (Storage × Storage) :=
  match runEvents disk r ⟨a, b, none, none⟩ with
  | .ok p => .ok (p.a, p.b)
  | .error x => .error x

/-- Two consecutive rounds. -/
def twoRounds (r₁ r₂ : List (RoundEvent × Time)) (a b : Storage) :
    Except Panic (Storage × Storage) :=
  match runRound disk r₁ a b with
  | .ok (a₁, b₁) => runRound disk r₂ a₁ b₁
  | .error x => .error x

end Disk

/-- The orders a round can take: each node broadcasts and merges once, and a
merge comes after the broadcast it merges. -/
def ValidRound (o : List RoundEvent) : Prop :=
  o.Perm [.broadcastA, .broadcastB, .mergeA, .mergeB] ∧
    o.indexOf .broadcastB < o.indexOf .mergeA ∧ o.indexOf .broadcastA < o.indexOf .mergeB

instance : DecidablePred ValidRound := fun _ => inferInstanceAs (Decidable (_ ∧ _))

open RoundEvent in
/-- The six valid orders. -/
theorem validRound_cases {o : List RoundEvent} (h : ValidRound o) :
    o = [broadcastA, broadcastB, mergeA, mergeB] ∨ o = [broadcastA, broadcastB, mergeB, mergeA] ∨
    o = [broadcastB, broadcastA, mergeA, mergeB] ∨ o = [broadcastB, broadcastA, mergeB, mergeA] ∨
    o = [broadcastA, mergeB, broadcastB, mergeA] ∨ o = [broadcastB, mergeA, broadcastA, mergeB] := by
  have key : ∀ o ∈ List.permutations' [broadcastA, broadcastB, mergeA, mergeB], ValidRound o →
      o = [broadcastA, broadcastB, mergeA, mergeB] ∨ o = [broadcastA, broadcastB, mergeB, mergeA] ∨
      o = [broadcastB, broadcastA, mergeA, mergeB] ∨ o = [broadcastB, broadcastA, mergeB, mergeA] ∨
      o = [broadcastA, mergeB, broadcastB, mergeA] ∨ o = [broadcastB, mergeA, broadcastA, mergeB] := by
    decide
  exact key o (List.mem_permutations'.mpr h.1) h

section Disk

variable (disk : Time → WriteResult)

/-! ### Symmetry -/

/-- The same event with the two nodes' names exchanged. -/
def RoundEvent.swap : RoundEvent → RoundEvent
  | .broadcastA => .broadcastB
  | .broadcastB => .broadcastA
  | .mergeA => .mergeB
  | .mergeB => .mergeA

/-- The pair with the two nodes' names exchanged. -/
def Pair.swap (p : Pair) : Pair := ⟨p.b, p.a, p.fromB, p.fromA⟩

/-- A schedule with the two nodes' names exchanged. -/
def swapEvents (r : List (RoundEvent × Time)) : List (RoundEvent × Time) :=
  r.map fun x => (x.1.swap, x.2)

@[simp] theorem map_fst_swapEvents (r : List (RoundEvent × Time)) :
    (swapEvents r).map Prod.fst = (r.map Prod.fst).map RoundEvent.swap := by
  simp [swapEvents]

@[simp] theorem map_snd_swapEvents (r : List (RoundEvent × Time)) :
    (swapEvents r).map Prod.snd = r.map Prod.snd := by
  simp [swapEvents]

@[simp] theorem swapEvents_swapEvents (r : List (RoundEvent × Time)) :
    swapEvents (swapEvents r) = r := by
  have : ∀ e : RoundEvent, e.swap.swap = e := by decide
  simp [swapEvents, Function.comp_def, this]

theorem forall_mem_swapEvents {P : Time → Prop} {r : List (RoundEvent × Time)}
    (h : ∀ x ∈ r, P x.2) : ∀ y ∈ swapEvents r, P y.2 := fun _ hy => by
  obtain ⟨x, hx, rfl⟩ := List.mem_map.1 hy
  exact h x hx

theorem RoundEvent.run_swap (now : Time) (p : Pair) (e : RoundEvent) :
    e.swap.run disk now p.swap = (e.run disk now p).map Pair.swap := by
  obtain ⟨a, b, fa, fb⟩ := p
  cases e <;> simp only [swap, run, Pair.swap]
  · rfl
  · rfl
  · cases fb with
    | none => rfl
    | some c => dsimp only; cases a.mergeState (disk now) now c <;> rfl
  · cases fa with
    | none => rfl
    | some c => dsimp only; cases b.mergeState (disk now) now c <;> rfl

theorem runEvents_swap (r : List (RoundEvent × Time)) (p : Pair) :
    runEvents disk (swapEvents r) p.swap = (runEvents disk r p).map Pair.swap := by
  induction r generalizing p with
  | nil => rfl
  | cons x r ih =>
    simp only [swapEvents, List.map_cons, runEvents, RoundEvent.run_swap] at ih ⊢
    cases x.1.run disk x.2 p with
    | error e => rfl
    | ok p' => exact ih p'

/-- **Exchanging the nodes' names** exchanges the stores a round leaves. -/
theorem runRound_swap (r : List (RoundEvent × Time)) (a b : Storage) :
    runRound disk (swapEvents r) b a = (runRound disk r a b).map Prod.swap := by
  simp only [runRound]
  rw [show (⟨b, a, none, none⟩ : Pair) = Pair.swap ⟨a, b, none, none⟩ from rfl, runEvents_swap]
  cases runEvents disk r ⟨a, b, none, none⟩ <;> rfl

theorem twoRounds_swap (r₁ r₂ : List (RoundEvent × Time)) (a b : Storage) :
    twoRounds disk (swapEvents r₁) (swapEvents r₂) b a = (twoRounds disk r₁ r₂ a b).map Prod.swap := by
  simp only [twoRounds, runRound_swap]
  rcases runRound disk r₁ a b with _ | ⟨a₁, b₁⟩ <;> rfl

theorem validRound_swap {o : List RoundEvent} (h : ValidRound o) :
    ValidRound (o.map RoundEvent.swap) := by
  rcases validRound_cases h with rfl | rfl | rfl | rfl | rfl | rfl <;> decide

/-! ### One round -/

/-- **One round, follower `a` and leader `b`.** When `a`'s stamp is older than
`b`'s and every event happens after both stamps, `a` ends the round with the
overlay of `b`'s content on its own, stamped at one of the round's times; `b`
either keeps its store, or merges `a`'s result back, which gives it the same
content under a later stamp. -/
theorem round_spec {a b : Storage} {r : List (RoundEvent × Time)}
    (hv : ValidRound (r.map Prod.fst)) (ht : (r.map Prod.snd).Chain' (· < ·))
    (hlt : a.lastModified < b.lastModified) (hr : ∀ x ∈ r, b.lastModified < x.2)
    (hna : NoNilPods a.pods) (hnb : NoNilPods b.pods)
    (hag : (content b.getState).Agree (content a.getState)) :
    ∃ a' b', runRound disk r a b = .ok (a', b') ∧
      content a'.getState = (content b.getState).overlay (content a.getState) ∧
      NoNilPods a'.pods ∧ NoNilPods b'.pods ∧ (∃ x ∈ r, a'.lastModified = x.2) ∧
      (b' = b ∨ content b'.getState = content a'.getState ∧ a'.lastModified < b'.lastModified ∧
        ∃ x ∈ r, b'.lastModified = x.2) := by
  have hlen := hv.1.length_eq
  rcases r with _ | ⟨⟨e₀, t₀⟩, _ | ⟨⟨e₁, t₁⟩, _ | ⟨⟨e₂, t₂⟩, _ | ⟨⟨e₃, t₃⟩, _ | ⟨x, r⟩⟩⟩⟩⟩ <;>
    simp only [List.map, List.length] at hlen <;> try omega
  simp only [List.map, List.chain'_cons, List.chain'_singleton, and_true] at hv ht
  simp only [List.mem_cons, List.mem_singleton, forall_eq_or_imp, forall_eq, List.not_mem_nil,
    or_false] at hr
  obtain ⟨h₀, h₁, h₂, h₃⟩ := hr
  obtain ⟨ht₀, ht₁, ht₂⟩ := ht
  have hab : a.getState.lastModified ≤ b.lastModified := hlt.le
  -- the follower's merge of the leader's first snapshot, at time `t`
  have follow : ∀ t, ∃ a', a.mergeState (disk t) t b.getState = .ok a' ∧
      content a'.getState = (content b.getState).overlay (content a.getState) ∧
      a'.lastModified = t ∧ NoNilPods a'.pods := fun t => mergeState_of_lt hlt hnb hna
  rcases validRound_cases hv with h | h | h | h | h | h <;>
    simp only [List.cons.injEq, and_true] at h <;> obtain ⟨rfl, rfl, rfl, rfl⟩ := h
  -- in the first five orders `b` merges, if at all, `a`'s first snapshot, which is older than its
  -- own, and `a` merges `b`'s at the third or the fourth event
  iterate 5
    first
    | obtain ⟨a', ha', hc, hl, hn⟩ := follow t₂
      refine ⟨a', b, ?_, hc, hn, hnb, ⟨(.mergeA, _), ?_, hl⟩, .inl rfl⟩ <;>
        (simp [runRound, runEvents, RoundEvent.run, ha', mergeState_of_le hab]; done)
    | obtain ⟨a', ha', hc, hl, hn⟩ := follow t₃
      refine ⟨a', b, ?_, hc, hn, hnb, ⟨(.mergeA, _), ?_, hl⟩, .inl rfl⟩ <;>
        simp [runRound, runEvents, RoundEvent.run, ha', mergeState_of_le hab]
  -- in the last the follower merges first and broadcasts its result, which the leader merges back
  obtain ⟨a', ha', hc, hl, hn⟩ := follow t₁
  obtain ⟨b', hb', hc', hl', hn'⟩ :=
    @mergeState_of_lt (disk t₃) t₃ a'.getState b (by simpa [hl] using h₁) hn hnb
  refine ⟨a', b', by simp [runRound, runEvents, RoundEvent.run, ha', hb'], hc, hn, hn',
    ⟨(.mergeA, _), by simp, hl⟩, .inr ⟨?_, by rw [hl, hl']; exact ht₁.trans ht₂, (.mergeB, _), by simp, hl'⟩⟩
  rw [hc', hc, Content.overlay_absorb (Content.noNil_content hnb) (Content.noNil_content hna) hag]

/-! ### Two rounds -/

theorem times_of_chain {r₁ r₂ : List (RoundEvent × Time)}
    (ht : ((r₁ ++ r₂).map Prod.snd).Chain' (· < ·)) :
    (r₁.map Prod.snd).Chain' (· < ·) ∧ (r₂.map Prod.snd).Chain' (· < ·) ∧
      ∀ x ∈ r₁, ∀ y ∈ r₂, x.2 < y.2 := by
  have hp := List.chain'_iff_pairwise.1 ht
  simp only [List.map_append, List.pairwise_append, List.mem_map] at hp
  exact ⟨List.chain'_iff_pairwise.2 hp.1, List.chain'_iff_pairwise.2 hp.2.1,
    fun x hx y hy => hp.2.2 _ ⟨x, hx, rfl⟩ _ ⟨y, hy, rfl⟩⟩

/-- Two rounds from follower `a` and leader `b`: **both nodes end with the
overlay of the leader's content on the follower's.** -/
theorem twoRounds_of_lt {a b : Storage} {r₁ r₂ : List (RoundEvent × Time)}
    (hv₁ : ValidRound (r₁.map Prod.fst)) (hv₂ : ValidRound (r₂.map Prod.fst))
    (ht : ((r₁ ++ r₂).map Prod.snd).Chain' (· < ·))
    (hlt : a.lastModified < b.lastModified) (hr : ∀ x ∈ r₁, b.lastModified < x.2)
    (hna : NoNilPods a.pods) (hnb : NoNilPods b.pods)
    (hag : (content b.getState).Agree (content a.getState)) :
    ∃ a' b', twoRounds disk r₁ r₂ a b = .ok (a', b') ∧
      content a'.getState = (content b.getState).overlay (content a.getState) ∧
      content b'.getState = (content b.getState).overlay (content a.getState) := by
  obtain ⟨ht₁, ht₂, ht₁₂⟩ := times_of_chain ht
  obtain ⟨a₁, b₁, h₁, hc₁, hna₁, hnb₁, ⟨x, hx, hla₁⟩, hb₁⟩ :=
    round_spec disk hv₁ ht₁ hlt hr hna hnb hag
  have hrun : twoRounds disk r₁ r₂ a b = runRound disk r₂ a₁ b₁ := by simp only [twoRounds, h₁]
  have ha₁r₂ : ∀ y ∈ r₂, a₁.lastModified < y.2 := fun y hy => hla₁ ▸ ht₁₂ x hx y hy
  rcases hb₁ with rfl | ⟨hcb₁, hlt₁, x', hx', hlb₁⟩
  · -- the leader kept its store: in the second round the roles are exchanged
    obtain ⟨b₂, a₂, h₂, hcb₂, -, -, -, ha₂⟩ :=
      @round_spec disk b₁ a₁ (swapEvents r₂) (by simpa using validRound_swap hv₂) (by simpa using ht₂)
        (hla₁ ▸ hr x hx) (forall_mem_swapEvents ha₁r₂)
        hnb₁ hna₁ (hc₁ ▸ Content.agree_overlay hag)
    have hcb₂' : content b₂.getState = (content b₁.getState).overlay (content a.getState) := by
      rw [hcb₂, hc₁, Content.overlay_absorb (Content.noNil_content hnb) (Content.noNil_content hna) hag]
    refine ⟨a₂, b₂, ?_, ?_, hcb₂'⟩
    · have h := runRound_swap disk (swapEvents r₂) b₁ a₁
      rw [swapEvents_swapEvents, h₂] at h
      rw [hrun, h]
      rfl
    · rcases ha₂ with rfl | ⟨hc, -⟩
      · exact hc₁
      · rw [hc, hcb₂']
  · -- the leader merged the follower's result back: both already agree
    obtain ⟨a₂, b₂, h₂, hca₂, -, -, -, hb₂⟩ :=
      round_spec disk hv₂ ht₂ hlt₁ (fun y hy => hlb₁ ▸ ht₁₂ x' hx' y hy) hna₁ hnb₁
        (hcb₁ ▸ Content.agree_self _)
    rw [hcb₁, Content.overlay_self, hc₁] at hca₂
    refine ⟨a₂, b₂, hrun ▸ h₂, hca₂, ?_⟩
    rcases hb₂ with rfl | ⟨hc, -⟩
    · rw [hcb₁, hc₁]
    · rw [hc, hca₂]

/-- **Two rounds converge** when the two stamps differ, every event of the
first round comes after both, neither store holds a nil pod, and a pod both
stores hold under one key with one `CreatedAt` is the same pod. -/
theorem two_rounds_converge {a b : Storage} {r₁ r₂ : List (RoundEvent × Time)}
    (hv₁ : ValidRound (r₁.map Prod.fst)) (hv₂ : ValidRound (r₂.map Prod.fst))
    (ht : ((r₁ ++ r₂).map Prod.snd).Chain' (· < ·)) (hne : a.lastModified ≠ b.lastModified)
    (hr : ∀ x ∈ r₁, a.lastModified < x.2 ∧ b.lastModified < x.2)
    (hna : NoNilPods a.pods) (hnb : NoNilPods b.pods)
    (hag : (content a.getState).Agree (content b.getState)) :
    ∃ a' b', twoRounds disk r₁ r₂ a b = .ok (a', b') ∧ content a'.getState = content b'.getState := by
  rcases lt_or_gt_of_ne hne with hlt | hlt
  · obtain ⟨a', b', h, ha', hb'⟩ :=
      twoRounds_of_lt disk hv₁ hv₂ ht hlt (fun x hx => (hr x hx).2) hna hnb (Content.agree_comm hag)
    exact ⟨a', b', h, ha'.trans hb'.symm⟩
  · -- `b` follows: run the schedule with the names exchanged
    obtain ⟨b', a', h, hb', ha'⟩ :=
      @twoRounds_of_lt disk b a (swapEvents r₁) (swapEvents r₂) (by simpa using validRound_swap hv₁)
        (by simpa using validRound_swap hv₂) (by simpa using ht) hlt
        (forall_mem_swapEvents fun x hx => (hr x hx).1) hnb hna hag
    have h' := twoRounds_swap disk (swapEvents r₁) (swapEvents r₂) b a
    rw [swapEvents_swapEvents, swapEvents_swapEvents, h] at h'
    exact ⟨a', b', h', ha'.trans hb'.symm⟩

/-! ### Where two rounds are not enough -/

/-- A round in which no snapshot is newer than the store it reaches changes
neither store. -/
theorem runEvents_of_lastModified_eq (r : List (RoundEvent × Time)) (p : Pair)
    (h : p.a.lastModified = p.b.lastModified)
    (hA : ∀ c, p.fromA = some c → c.lastModified ≤ p.b.lastModified)
    (hB : ∀ c, p.fromB = some c → c.lastModified ≤ p.a.lastModified) :
    ∃ fa fb, runEvents disk r p = .ok ⟨p.a, p.b, fa, fb⟩ := by
  induction r generalizing p with
  | nil => exact ⟨_, _, rfl⟩
  | cons x r ih =>
    obtain ⟨a, b, fa, fb⟩ := p
    obtain ⟨e, t⟩ := x
    cases e with
    | broadcastA => exact ih _ h (fun c hc => by cases hc; exact h.le) hB
    | broadcastB => exact ih _ h hA (fun c hc => by cases hc; exact h.ge)
    | mergeA =>
      rcases fb with _ | c
      · exact ih _ h hA hB
      · simp only [runEvents, RoundEvent.run, mergeState_of_le (hB c rfl)]
        exact ih _ h hA hB
    | mergeB =>
      rcases fa with _ | c
      · exact ih _ h hA hB
      · simp only [runEvents, RoundEvent.run, mergeState_of_le (hA c rfl)]
        exact ih _ h hA hB

/-- **Equal stamps never merge**: two stores stamped with the same
`LastModified` come out of any number of rounds as they went in. -/
theorem twoRounds_of_lastModified_eq {a b : Storage} (r₁ r₂ : List (RoundEvent × Time))
    (h : a.lastModified = b.lastModified) : twoRounds disk r₁ r₂ a b = .ok (a, b) := by
  have hround : ∀ r, runRound disk r a b = .ok (a, b) := fun r => by
    obtain ⟨fa, fb, hr⟩ := runEvents_of_lastModified_eq disk r ⟨a, b, none, none⟩ h
      (fun _ hc => by cases hc) (fun _ hc => by cases hc)
    simp only [runRound, hr]
  simp only [twoRounds, hround]

end Disk

/-- A store started without a state file, into which `default/web` with `n`
replicas was saved at time `t`. -/
def webStore (t : Time) (n : Int) : Storage := (newStorage .absent).saveDeployment .ok t (AntiEntropy.webAt n)

/-- Two rounds in the order `A` broadcasts, `B` broadcasts, `A` merges, `B`
merges, one event a nanosecond from `t` on. -/
def plainRound (t : Time) : List (RoundEvent × Time) :=
  [(.broadcastA, t), (.broadcastB, t + 1), (.mergeA, t + 2), (.mergeB, t + 3)]

theorem two_rounds_converge_web :
    ∃ a' b', twoRounds (fun _ => .failed) (plainRound 8) (plainRound 12) (webStore 5 1) (webStore 7 2) =
        .ok (a', b') ∧
      content a'.getState = content b'.getState :=
  two_rounds_converge (fun _ => .failed) (by decide) (by decide) (by simp [plainRound]) (by decide) (by decide)
    (fun _ h => nomatch h) (fun _ h => nomatch h) (fun _ _ _ h => nomatch h)

/-- **Two rounds do not always converge.** Two stores that saved different
versions of `default/web` in the same nanosecond keep them through both rounds,
although every event comes after both saves, every write reaches the disk and
no pod is involved. -/
theorem equal_lastModified_never_converge : ¬ ∀ (a b : Storage) (r₁ r₂ : List (RoundEvent × Time)),
    ValidRound (r₁.map Prod.fst) → ValidRound (r₂.map Prod.fst) →
    ((r₁ ++ r₂).map Prod.snd).Chain' (· < ·) →
    (∀ x ∈ r₁, a.lastModified < x.2 ∧ b.lastModified < x.2) →
    NoNilPods a.pods → NoNilPods b.pods → (content a.getState).Agree (content b.getState) →
    ∃ a' b', twoRounds (fun _ => .ok) r₁ r₂ a b = .ok (a', b') ∧ content a'.getState = content b'.getState := by
  intro H
  obtain ⟨a', b', h, hc⟩ := H (webStore 5 1) (webStore 5 2) (plainRound 6) (plainRound 10)
    (by decide) (by decide) (by simp [plainRound]) (by decide)
    (fun _ h => nomatch h) (fun _ h => nomatch h) (fun _ _ _ h => nomatch h)
  rw [twoRounds_of_lastModified_eq _ _ _
    (show (webStore 5 1).lastModified = (webStore 5 2).lastModified from rfl)] at h
  cases h
  have := congrArg (fun c => c.deployments "default/web") hc
  revert this
  decide

end SyncRounds

end PodmanSwarm
