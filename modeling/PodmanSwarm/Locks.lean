import PodmanSwarm.Scheduler
import Mathlib.Logic.Relation
import Mathlib.Algebra.Order.BigOperators.Group.List
import Mathlib.Algebra.Order.Ring.Nat

/-!
# Read-write locks

Every component of the agent guards its tables with a `sync.RWMutex`, and
Go's `RWMutex` is not reentrant. This file models the mutex with the
goroutines that use it, and the calls that three methods of the source make
on their own mutex.

**The mutex.** `Lock` is two atomic steps: the goroutine claims the writer
side (`announce`; from then on every new `RLock` waits), then waits until no
reader is left (`acquire`). A goroutine's program is the list of steps it has
still to take; a step that is not enabled waits. The reader count of the mutex
is not a separate field: it is the number of read locks the goroutines hold
(`PodmanSwarm.Locks.System.readers`), so it cannot drift from them. Two
simplifications, neither of which matters below: a reader woken by `Unlock`
takes its `RLock` again (Go counts it at once), and a goroutine only releases
what it holds (Go's `RUnlock` and `Unlock` of an unheld lock are fatal
errors, which the programs here never reach).

**What follows.** A goroutine that asks for `Lock` while it holds a read lock
waits for itself: in every state reachable from there, whatever the other
goroutines do, it has not moved (`PodmanSwarm.Locks.frozen_of_acquire_reading`).
A nested `RLock` deadlocks as soon as a writer announces itself between the
two (`PodmanSwarm.Locks.nested_rlock_deadlock`).

**The calls of the source** are traces of `PodmanSwarm.Locks.Call`;
`PodmanSwarm.Locks.reacquires` says whether a goroutine takes a mutex it
still holds. `BroadcastState` takes `s.mu` and then calls `GetState`, which
takes it again; the fallback of `GetLocalNodeAddress` takes `c.mu` and then
calls `GetNode`, which takes it again. The ingress controller's
`handleRequest` is in `PodmanSwarm.Ingress`.
-/

namespace PodmanSwarm

namespace Locks

/-! ### The mutex and its goroutines -/

/-- The atomic steps a goroutine takes on a `sync.RWMutex`. -/
inductive Step
  | rlock
  | runlock
  /-- The first half of `Lock`: the writer side is claimed. -/
  | announce
  /-- The second half of `Lock`: the last reader has left. -/
  | acquire
  | unlock
  deriving DecidableEq, Repr

/-- The writer side of the mutex: free, claimed by goroutine `g` waiting for
the readers to leave, or held by `g`. -/
inductive Writer
  | free
  | waiting (g : Nat)
  | holding (g : Nat)
  deriving DecidableEq, Repr

/-- A goroutine: the read locks it holds and the steps it has still to take. -/
structure Goroutine where
  reads : Nat
  prog : List Step
  deriving DecidableEq, Repr

/-- A mutex and the goroutines that use it, numbered by their position. -/
structure System where
  writer : Writer
  gs : List Goroutine
  deriving DecidableEq, Repr

/-- The number of read locks held: Go's reader count. -/
def System.readers (s : System) : Nat := (s.gs.map Goroutine.reads).sum

/-- Step `st` of goroutine `g`, which holds `reads` read locks: the writer side
and `g`'s read locks after it, or `none` while it waits. -/
def exec (g reads : Nat) (st : Step) (s : System) : Option (Writer × Nat) :=
  match st with
  | .rlock => if s.writer = .free then some (.free, reads + 1) else none
  | .runlock => if 0 < reads then some (s.writer, reads - 1) else none
  | .announce => if s.writer = .free then some (.waiting g, reads) else none
  | .acquire => if s.writer = .waiting g ∧ s.readers = 0 then some (.holding g, reads) else none
  | .unlock => if s.writer = .holding g then some (.free, reads) else none

/-- Goroutine `g` takes its next step, if it can. -/
def step (g : Nat) (s : System) : Option System :=
  match s.gs[g]? with
  | some ⟨reads, st :: rest⟩ => (exec g reads st s).map fun (w, r) => ⟨w, s.gs.set g ⟨r, rest⟩⟩
  | _ => none

/-- `s'` is reachable from `s`, in any interleaving of the goroutines. -/
def Reaches : System → System → Prop := Relation.ReflTransGen fun s s' => ∃ g, step g s = some s'

/-- No goroutine can move, and some goroutine has not finished. -/
def Deadlocked (s : System) : Prop :=
  (∀ g < s.gs.length, step g s = none) ∧ ∃ t ∈ s.gs, t.prog ≠ []

instance (s : System) : Decidable (Deadlocked s) := by unfold Deadlocked; infer_instance

/-! ### One step -/

theorem step_eq_some {g : Nat} {s s' : System} (h : step g s = some s') :
    ∃ t st rest w r, s.gs[g]? = some t ∧ t.prog = st :: rest ∧ exec g t.reads st s = some (w, r) ∧
      s' = ⟨w, s.gs.set g ⟨r, rest⟩⟩ := by
  unfold step at h
  split at h
  · next reads st rest ht =>
    obtain ⟨⟨w, r⟩, he, rfl⟩ := Option.map_eq_some'.mp h
    exact ⟨_, st, rest, w, r, ht, rfl, he, rfl⟩
  · cases h

/-- **Frame.** A step of one goroutine leaves every other goroutine as it was. -/
theorem step_frame {g h : Nat} {s s' : System} (hs : step h s = some s') (hne : h ≠ g) :
    s'.gs[g]? = s.gs[g]? := by
  obtain ⟨-, -, -, -, -, -, -, -, rfl⟩ := step_eq_some hs
  exact List.getElem?_set_ne hne

theorem reads_le_readers {s : System} {g : Nat} {t : Goroutine} (ht : s.gs[g]? = some t) :
    t.reads ≤ s.readers :=
  List.le_sum_of_mem (List.mem_map_of_mem _ (List.getElem?_mem ht))

/-- A goroutine at the second half of `Lock` that holds a read lock waits. -/
theorem step_acquire_reading {s : System} {g : Nat} {t : Goroutine} (ht : s.gs[g]? = some t)
    (hr : 0 < t.reads) (hp : t.prog.head? = some .acquire) : step g s = none := by
  obtain ⟨reads, _ | ⟨st, rest⟩⟩ := t
  · cases hp
  · cases hp
    have := reads_le_readers ht
    dsimp only at hr this
    simp only [step, ht, exec]
    rw [if_neg (by omega), Option.map_none']

/-- The read locks a goroutine holds after step `st`. -/
def Step.reads : Step → Nat → Nat
  | .rlock, r => r + 1
  | .runlock, r => r - 1
  | _, r => r

theorem exec_reads {g r r' : Nat} {st : Step} {s : System} {w : Writer}
    (h : exec g r st s = some (w, r')) : r' = st.reads r := by
  cases st <;> simp only [exec] at h <;> split_ifs at h <;> cases h <;> rfl

/-- A step of goroutine `g` consumes its next step and updates its read locks. -/
theorem step_self {g r : Nat} {st : Step} {rest : List Step} {s s' : System}
    (hs : step g s = some s') (hg : s.gs[g]? = some ⟨r, st :: rest⟩) :
    s'.gs[g]? = some ⟨st.reads r, rest⟩ := by
  obtain ⟨t, st', rest', w, r', ht, hp, he, rfl⟩ := step_eq_some hs
  rw [hg] at ht
  cases ht
  cases hp
  rw [exec_reads he]
  exact List.getElem?_set_eq_of_lt _ (List.getElem?_eq_some_iff.1 hg).1

/-! ### Every run -/

/-- **`Lock` under one's own read lock waits forever.** Once goroutine `g`
holds a read lock and has reached the second half of `Lock`, it is exactly as
it was in every state reachable from there, whatever the other goroutines
do. -/
theorem frozen_of_acquire_reading {s s' : System} {g : Nat} {t : Goroutine}
    (ht : s.gs[g]? = some t) (hr : 0 < t.reads) (hp : t.prog.head? = some .acquire)
    (hreach : Reaches s s') : s'.gs[g]? = some t := by
  induction hreach with
  | refl => exact ht
  | tail _ hstep ih =>
    obtain ⟨h, hs⟩ := hstep
    by_cases hh : h = g
    · subst hh
      rw [step_acquire_reading ih hr hp] at hs
      cases hs
    · rw [step_frame hs hh, ih]

/-- Where a goroutine that calls `RLock` and then `Lock`, starting with `r`
read locks, can be before its `Lock` returns; `rest` is what follows. -/
def BeforeLock (r : Nat) (rest : List Step) (t : Goroutine) : Prop :=
  t = ⟨r, .rlock :: .announce :: .acquire :: rest⟩ ∨ t = ⟨r + 1, .announce :: .acquire :: rest⟩ ∨
    t = ⟨r + 1, .acquire :: rest⟩

/-- **`RLock` then `Lock` never gets past the `Lock`.** A goroutine that
calls `RLock` and then `Lock` stays before its `Lock` returns in every state
reachable from there, whatever the other goroutines do. -/
theorem beforeLock_reaches {s s' : System} {g r : Nat} {rest : List Step} {t : Goroutine}
    (ht : s.gs[g]? = some t) (hb : BeforeLock r rest t) (hreach : Reaches s s') :
    ∃ t', s'.gs[g]? = some t' ∧ BeforeLock r rest t' := by
  induction hreach with
  | refl => exact ⟨t, ht, hb⟩
  | tail _ hstep ih =>
    obtain ⟨t', ht', hb'⟩ := ih
    obtain ⟨h, hs⟩ := hstep
    by_cases hh : h = g
    · subst hh
      rcases hb' with rfl | rfl | rfl
      · exact ⟨_, step_self hs ht', .inr (.inl rfl)⟩
      · exact ⟨_, step_self hs ht', .inr (.inr rfl)⟩
      · rw [step_acquire_reading ht' (Nat.succ_pos r) rfl] at hs
        cases hs
    · exact ⟨t', by rw [step_frame hs hh, ht'], hb'⟩

/-- A deadlocked system stays as it is. -/
theorem Deadlocked.reaches_eq {s s' : System} (hd : Deadlocked s) (h : Reaches s s') : s' = s := by
  induction h with
  | refl => rfl
  | tail _ hstep ih =>
    subst ih
    obtain ⟨g, hg⟩ := hstep
    obtain ⟨_, -, -, -, -, ht, -⟩ := step_eq_some hg
    rw [hd.1 g (List.getElem?_eq_some_iff.1 ht).1] at hg
    cases hg

/-! ### The calls -/

/-- A call on a `sync.RWMutex`. -/
inductive Call
  | rlock
  | runlock
  | lock
  | unlock
  deriving DecidableEq, Repr

/-- The atomic steps of a call. -/
def Call.steps : Call → List Step
  | .rlock => [.rlock]
  | .runlock => [.runlock]
  | .lock => [.announce, .acquire]
  | .unlock => [.unlock]

/-- Whether the call takes the mutex. -/
def Call.takes : Call → Bool
  | .rlock | .lock => true
  | .runlock | .unlock => false

/-- Whether a goroutine that holds the mutex `d` times and then makes the
calls `cs` takes it while it still holds it. -/
def reacquiresFrom : Nat → List Call → Bool
  | _, [] => false
  | d, c :: cs => (c.takes && 0 < d) || reacquiresFrom (if c.takes then d + 1 else d - 1) cs

/-- Whether the calls `cs` of one goroutine take the mutex while it holds it. -/
def reacquires (cs : List Call) : Bool := reacquiresFrom 0 cs

/-- The program of a goroutine that makes the calls `cs`. -/
def program (cs : List Call) : List Step := cs.flatMap Call.steps

/-! ### `BroadcastState` and `GetLocalNodeAddress` -/

/-- `GetState`: `RLock`, and the deferred `RUnlock`. -/
def getStateLocks : List Call := [.rlock, .runlock]

/-- `BroadcastState`: `s.mu.RLock()`, `GetState()`, `s.mu.RUnlock()`. -/
def broadcastStateLocks : List Call := [.rlock] ++ getStateLocks ++ [.runlock]

/-- `GetNode`: `RLock`, and the deferred `RUnlock`. -/
def getNodeLocks : List Call := [.rlock, .runlock]

/-- What `memberlist.LocalNode()` returns: its name and address. -/
structure MemberNode where
  name : String
  addr : String

/-- `GetLocalNodeAddress`, given the two values `memberlist.LocalNode()`
returns when it calls it (`none` for nil): the address, or the panic of
reading `.Name` of nil, and the calls on `c.mu`. -/
def getLocalNodeAddress (c : Cluster) (first second : Option MemberNode) :
    Except Panic String × List Call :=
  match first with
  | some n => (.ok n.addr, [])
  | none =>
    match second with
    | none => (.error .nilDereference, [.rlock, .runlock])
    | some n =>
      match c.getNode n.name with
      | .ok node => (.ok node.address, [.rlock] ++ getNodeLocks ++ [.runlock])
      | .error _ => (.ok "127.0.0.1", [.rlock] ++ getNodeLocks ++ [.runlock])

/-- The fallback of `GetLocalNodeAddress` takes `c.mu` again through
`GetNode`, whatever the roster. -/
theorem getLocalNodeAddress_locks (c : Cluster) (n : MemberNode) :
    (getLocalNodeAddress c none (some n)).2 = [.rlock] ++ getNodeLocks ++ [.runlock] := by
  unfold getLocalNodeAddress
  dsimp only
  split <;> rfl

/-! ### A writer between two read locks -/

/-- `SaveDeployment`, and every other writer of the store: `Lock`, and the
deferred `Unlock`. -/
def saveLocks : List Call := [.lock, .unlock]

/-- `BroadcastState` has taken its first read lock and a writer has announced
itself. -/
def broadcastThenSave : System :=
  ⟨.waiting 1, [⟨1, (program broadcastStateLocks).tail⟩, ⟨0, (program saveLocks).tail⟩]⟩

theorem broadcastThenSave_reachable :
    Reaches ⟨.free, [⟨0, program broadcastStateLocks⟩, ⟨0, program saveLocks⟩]⟩ broadcastThenSave :=
  .tail (.single ⟨0, rfl⟩) ⟨1, rfl⟩

/-- **A nested read lock deadlocks against a writer.** When a writer announces
itself between the two `RLock`s of `BroadcastState`, the second `RLock` waits
for the writer and the writer waits for the first: no goroutine ever moves
again. -/
theorem nested_rlock_deadlock :
    Deadlocked broadcastThenSave ∧ ∀ s, Reaches broadcastThenSave s → s = broadcastThenSave :=
  have hd : Deadlocked broadcastThenSave := by decide
  ⟨hd, fun _ => hd.reaches_eq⟩

end Locks

end PodmanSwarm
