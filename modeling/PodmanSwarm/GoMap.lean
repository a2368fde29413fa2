import Mathlib.Data.List.AList

/-!
# Go maps

Every table the agent keeps is a Go `map[string]V`: the scheduler's pods, the
store's four entity maps, the registry's endpoints, the roster, the token sets.
A Go map is a finite function from keys to values whose iteration order is left
unspecified, and `PodmanSwarm.GoMap` models it as a Mathlib `AList` over string
keys: a list of entries with no key repeated.

`for k, v := range m` visits the entries in the order of the list. Go fixes no
order, and draws a new one for every `range`, so two loops over one map may
list it differently. A loop is modelled over the list as that one loop sees
it: a theorem about one traversal quantifies over the map, hence over every
order the traversal may take – `SchedulePod` is stated per call, over the
roster as that call's `GetNodes` lists it. Where one statement compares two
traversals of a map, as the registry's readers do, it compares what they list
as sets and never their order (`PodmanSwarm.Registry.readers_agree`).

Reading a missing key yields the value type's zero value (`m[k]` on a
`map[string]string` is `""`); that is `PodmanSwarm.GoMap.get` below. The one
loop shape that recurs – copying every entry of one map into another, as
`MergeState` does for three of its four maps – is
`PodmanSwarm.GoMap.copyInto`, and `PodmanSwarm.GoMap.lookup_copyInto` says
what it does to a lookup once and for all.
-/

namespace PodmanSwarm

/-- A Go `map[string]V`. -/
abbrev GoMap (V : Type) := AList (fun _ : String => V)

namespace GoMap

variable {V : Type}

/-- `m[k]` with Go's zero-value default `d` for a missing key. -/
def get (m : GoMap V) (k : String) (d : V) : V := (m.lookup k).getD d

/-- The values of a map, in iteration order: `for _, v := range m`. -/
def vals (m : GoMap V) : List V := m.entries.map Sigma.snd

/-- `for k, v := range src { dst[k] = v }`. -/
def copyInto (src dst : GoMap V) : GoMap V :=
  src.entries.foldl (fun m e => m.insert e.1 e.2) dst

theorem lookup_foldl_insert (l : List (Sigma fun _ : String => V)) (hl : l.NodupKeys)
    (m : GoMap V) (k : String) :
    (l.foldl (fun m e => m.insert e.1 e.2) m).lookup k = (l.dlookup k).or (m.lookup k) := by
  induction l generalizing m with
  | nil => simp
  | cons e l ih =>
    rw [List.nodupKeys_cons] at hl
    rw [List.foldl_cons, ih hl.2]
    by_cases hk : k = e.1
    · subst hk
      rw [List.dlookup_eq_none.mpr hl.1, AList.lookup_insert, List.dlookup_cons_eq]
      rfl
    · rw [AList.lookup_insert_ne hk, List.dlookup_cons_ne _ _ hk]

/-- **Copying a map in** overrides exactly the keys of the source: a key the
source has reads the source's value, any other key is left alone. -/
theorem lookup_copyInto (src dst : GoMap V) (k : String) :
    (copyInto src dst).lookup k = (src.lookup k).or (dst.lookup k) :=
  lookup_foldl_insert _ src.nodupKeys dst k

theorem mem_copyInto {src dst : GoMap V} {k : String} :
    k ∈ copyInto src dst ↔ k ∈ src ∨ k ∈ dst := by
  simp only [← AList.lookup_isSome, lookup_copyInto, Option.isSome_or, Bool.or_eq_true]

/-- `for _, v := range m { ... v.f = ... }` over a map of pointers: every value
rewritten in place, the keys and their order untouched. -/
def mapVals (f : V → V) (m : GoMap V) : GoMap V :=
  ⟨m.entries.map fun e => ⟨e.1, f e.2⟩, by
    simpa [List.NodupKeys, List.keys, Function.comp_def] using m.nodupKeys⟩

@[simp] theorem lookup_mapVals (f : V → V) (m : GoMap V) (k : String) :
    (mapVals f m).lookup k = (m.lookup k).map f :=
  @List.dlookup_map₂ _ _ _ _ m.entries (fun _ => f) k

@[simp] theorem get_insert_self (m : GoMap V) (k : String) (v d : V) :
    get (m.insert k v) k d = v := by
  simp [get, AList.lookup_insert]

theorem get_insert (m : GoMap V) (a k : String) (v d : V) :
    get (m.insert a v) k d = if k = a then v else get m k d := by
  split_ifs with h
  · subst h
    exact get_insert_self m k v d
  · simp only [get, AList.lookup_insert_ne h]

end GoMap

end PodmanSwarm
