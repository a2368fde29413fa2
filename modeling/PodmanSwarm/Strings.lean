import Mathlib.Data.List.Basic
import Mathlib.Data.List.Infix

/-!
# The `strings` functions the agent calls

Names, keys and whitelist entries are Go strings, and the agent inspects them
with a handful of functions from Go's `strings` package. They are defined here
on a `String`'s list of characters, so that they compute by `decide` and reason
by induction on lists:

| Go | model |
|---|---|
| `strings.HasSuffix` | `PodmanSwarm.Strings.hasSuffix` |
| `strings.TrimSuffix` | `PodmanSwarm.Strings.trimSuffix` |
| `strings.HasPrefix`, `strings.TrimPrefix` | `hasPrefix`, `trimPrefix` |
| `strings.Split(s, ".")` | `PodmanSwarm.Strings.split` (Batteries' `List.splitOn`) |
| `strings.Join(parts, ".")` | `PodmanSwarm.Strings.join` (`List.intercalate`) |
| `strings.ToLower` | `PodmanSwarm.Strings.toLower` |
| `strings.Split(s, "---")` | `PodmanSwarm.Strings.splitOn` |
| `strings.TrimSpace` | `PodmanSwarm.Strings.trimSpace` (`unicode.IsSpace`) |
| `strings.Contains` | `PodmanSwarm.Strings.contains` |

Go's `ToLower` maps every rune through `unicode.ToLower`, which lowers ASCII
letters as `Char.toLower` does and every other letter through Unicode's case
table (the Kelvin sign U+212A becomes `k`). The table is not reproduced here:
`toLower` takes the rune map as its argument `lower`, and the results about the
whitelist hold for every map. The results about fixed inputs use
`Char.toLower`, which is Go's map on ASCII.

The one non-obvious fact is `PodmanSwarm.Strings.exists_intercalate_drop_splitOn_iff`:
the strings `strings.Join(parts[i:], ".")` that a loop over the parts of
`strings.Split(s, ".")` produces are exactly `s` and its suffixes that follow a
dot. The DNS whitelist walks the labels of a name that way. Its companion
`PodmanSwarm.Strings.splitOn_dropLast_getLast_iff` says where the DNS parser
cuts a name: at its last dot. For a longer separator, as in the manifest
parser's `strings.Split(s, "---")`, the scan never cuts a stretch without the
separator (`PodmanSwarm.Strings.splitScan_append_of_not_infix`), and cuts at
the first occurrence and starts afresh after it
(`PodmanSwarm.Strings.splitScan_append_sep`).
-/

namespace PodmanSwarm

namespace Strings

/-- `strings.HasSuffix(s, suffix)`. -/
def hasSuffix (s suffix : String) : Bool := suffix.data.isSuffixOf s.data

/-- `strings.Contains(s, substr)`. -/
def contains (s substr : String) : Bool := decide (substr.data <:+: s.data)

/-- `strings.HasPrefix(s, pre)`. -/
def hasPrefix (s pre : String) : Bool := pre.data.isPrefixOf s.data

/-- `strings.TrimSuffix(s, suffix)`: `s` without one trailing `suffix`, or `s`
itself when it does not end with `suffix`. -/
def trimSuffix (s suffix : String) : String :=
  ((s.data.dropSuffix? suffix.data).map String.mk).getD s

/-- `strings.TrimPrefix(s, pre)`. -/
def trimPrefix (s pre : String) : String :=
  ((s.data.dropPrefix? pre.data).map String.mk).getD s

/-- `strings.Split(s, sep)` for a one-character separator: the pieces between
consecutive occurrences of `sep`, so `n` separators give `n + 1` pieces. -/
def split (s : String) (sep : Char) : List String := (s.data.splitOn sep).map String.mk

/-- `strings.Join(parts, sep)` for a one-character separator. -/
def join (parts : List String) (sep : Char) : String :=
  ⟨[sep].intercalate (parts.map String.data)⟩

/-- `strings.ToLower(s)`, with `lower` for `unicode.ToLower`. -/
def toLower (lower : Char → Char) (s : String) : String := ⟨s.data.map lower⟩

/-- `unicode.IsSpace`: in Latin-1, `\t \n \v \f \r`, the space, U+0085 and
U+00A0; above it, the characters with the Unicode `White_Space` property. -/
def isSpace (c : Char) : Bool :=
  let n := c.toNat
  if n ≤ 0xFF then
    n == 0x09 || n == 0x0A || n == 0x0B || n == 0x0C || n == 0x0D || n == 0x20 || n == 0x85 || n == 0xA0
  else
    n == 0x1680 || (0x2000 ≤ n && n ≤ 0x200A) || n == 0x2028 || n == 0x2029 || n == 0x202F ||
      n == 0x205F || n == 0x3000

/-- `strings.TrimSpace(s)`: `s` without its leading and trailing spaces. -/
def trimSpace (s : String) : String :=
  ⟨((s.data.dropWhile isSpace).reverse.dropWhile isSpace).reverse⟩

/-- The scan of `strings.Split` for a non-empty separator: `cur` is the piece
read so far, and it ends as soon as it ends with the separator. All
occurrences have one length, so the first to end is the leftmost, the one
`strings.Index` finds. -/
def splitScan (sep : List Char) : List Char → List Char → List (List Char)
  | [], cur => [cur]
  | c :: cs, cur =>
    if sep.isSuffixOf (cur ++ [c]) then
      (cur ++ [c]).take ((cur ++ [c]).length - sep.length) :: splitScan sep cs []
    else splitScan sep cs (cur ++ [c])

/-- `strings.Split(s, sep)` for a non-empty separator. -/
def splitOn (s sep : String) : List String := (splitScan sep.data s.data []).map String.mk

/-! ### Suffixes -/

theorem hasSuffix_iff {s suffix : String} : hasSuffix s suffix = true ↔ suffix.data <:+ s.data :=
  List.isSuffixOf_iff_suffix

theorem trimSuffix_append (x suffix : String) : trimSuffix (x ++ suffix) suffix = x := by
  have h : (x.data ++ suffix.data).dropSuffix? suffix.data = some x.data :=
    List.dropSuffix?_eq_some_iff.mpr ⟨suffix.data, rfl, by simp⟩
  simp [trimSuffix, h]

theorem trimSuffix_of_not_hasSuffix {s suffix : String} (h : hasSuffix s suffix = false) :
    trimSuffix s suffix = s := by
  have hn : s.data.dropSuffix? suffix.data = none := by
    rcases hd : s.data.dropSuffix? suffix.data with _ | r
    · rfl
    · obtain ⟨t, ht, hb⟩ := List.dropSuffix?_eq_some_iff.mp hd
      have : suffix.data <:+ s.data := ⟨r, by rw [ht, eq_of_beq hb]⟩
      rw [← hasSuffix_iff] at this
      simp [this] at h
  simp [trimSuffix, hn]

/-! ### Splitting on a separator and joining back -/

theorem intercalate_cons_cons (c : Char) (p q : List Char) (r : List (List Char)) :
    [c].intercalate (p :: q :: r) = p ++ c :: [c].intercalate (q :: r) := by
  simp [List.intercalate, List.intersperse_cons_cons]

/-- No piece of a split holds the separator. -/
theorem not_mem_of_mem_splitOn {c : Char} {l p : List Char} (hp : p ∈ l.splitOn c) : c ∉ p := by
  induction l generalizing p with
  | nil => simp_all
  | cons x xs ih =>
    obtain ⟨q, qs, hq⟩ := List.exists_cons_of_ne_nil (List.splitOnP_ne_nil (· == c) xs)
    simp only [List.splitOn, List.splitOnP_cons, hq, beq_iff_eq] at hp ih
    split_ifs at hp with hx
    · rcases List.mem_cons.mp hp with rfl | hp
      · simp
      · exact ih hp
    · rw [List.modifyHead_cons, List.mem_cons] at hp
      rcases hp with rfl | hp
      · simpa [Ne.symm hx] using ih (List.mem_cons_self q qs)
      · exact ih (List.mem_cons_of_mem q hp)

/-- Where a separator can sit in `p ++ c :: t` when `p` holds none. -/
theorem append_cons_eq_append_cons {c : Char} {p t y d : List Char} (hp : c ∉ p)
    (h : p ++ c :: t = y ++ c :: d) :
    (y = p ∧ d = t) ∨ ∃ y', y = p ++ c :: y' ∧ t = y' ++ c :: d := by
  rcases List.append_eq_append_iff.mp h with ⟨a, rfl, ha⟩ | ⟨e, rfl, he⟩
  · rcases a with _ | ⟨z, a⟩
    · exact .inl ⟨by simp, (List.cons.inj ha).2.symm⟩
    · obtain ⟨rfl, rfl⟩ := List.cons.inj ha
      exact .inr ⟨a, rfl, rfl⟩
  · rcases e with _ | ⟨z, e⟩
    · exact .inl ⟨by simp, (List.cons.inj he).2⟩
    · obtain ⟨rfl, -⟩ := List.cons.inj he
      simp at hp

/-- The joins of the nonempty tails of a list of pieces that avoid the
separator are the whole join and its suffixes after a separator. -/
theorem exists_intercalate_drop_iff (c : Char) (p : List Char) (ps : List (List Char))
    (hc : ∀ q ∈ p :: ps, c ∉ q) (d : List Char) :
    (∃ i, i < (p :: ps).length ∧ [c].intercalate ((p :: ps).drop i) = d) ↔
      d = [c].intercalate (p :: ps) ∨ ∃ y, [c].intercalate (p :: ps) = y ++ c :: d := by
  induction ps generalizing p with
  | nil =>
    have hp : c ∉ p := hc p (List.mem_singleton_self p)
    have h1 : [c].intercalate [p] = p := by simp [List.intercalate]
    simp only [List.length_singleton, Nat.lt_one_iff, h1]
    constructor
    · rintro ⟨i, rfl, rfl⟩
      exact .inl h1
    · rintro (rfl | ⟨y, rfl⟩)
      · exact ⟨0, rfl, h1⟩
      · simp at hp
  | cons q qs ih =>
    have hp : c ∉ p := hc p (List.mem_cons_self p _)
    have ih' := ih q (fun r hr => hc r (List.mem_cons_of_mem p hr))
    rw [intercalate_cons_cons]
    constructor
    · rintro ⟨_ | i, hi, rfl⟩
      · exact .inl (intercalate_cons_cons c p q qs)
      · rcases ih'.mp ⟨i, by simpa using hi, rfl⟩ with h | ⟨y, hy⟩
        · exact .inr ⟨p, by rw [h]⟩
        · exact .inr ⟨p ++ c :: y, by simp [hy]⟩
    · rintro (rfl | ⟨y, hy⟩)
      · exact ⟨0, by simp, (intercalate_cons_cons c p q qs).symm⟩
      · rcases append_cons_eq_append_cons hp hy with ⟨-, rfl⟩ | ⟨y', -, hy'⟩
        · exact ⟨1, by simp, rfl⟩
        · obtain ⟨i, hi, hd⟩ := ih'.mpr (.inr ⟨y', hy'⟩)
          exact ⟨i + 1, by simpa using hi, hd⟩

/-- **The labels loop.** Dropping pieces off the front of a split and joining
the rest back gives exactly the string and its suffixes that follow a
separator. -/
theorem exists_intercalate_drop_splitOn_iff (c : Char) (l d : List Char) :
    (∃ i, i < (l.splitOn c).length ∧ [c].intercalate ((l.splitOn c).drop i) = d) ↔
      d = l ∨ ∃ y, l = y ++ c :: d := by
  obtain ⟨p, ps, hps⟩ := List.exists_cons_of_ne_nil (List.splitOnP_ne_nil (· == c) l)
  have hl : [c].intercalate (p :: ps) = l := by
    rw [← hps]
    exact List.intercalate_splitOn l c
  have hc : ∀ q ∈ p :: ps, c ∉ q := fun q hq => not_mem_of_mem_splitOn (by rwa [List.splitOn, hps])
  rw [List.splitOn, hps, exists_intercalate_drop_iff c p ps hc d, hl]

theorem intercalate_append_singleton (c : Char) {l : List (List Char)} (hl : l ≠ []) (d : List Char) :
    [c].intercalate (l ++ [d]) = [c].intercalate l ++ c :: d := by
  induction l with
  | nil => exact absurd rfl hl
  | cons p l ih =>
    cases l with
    | nil => simp [List.intercalate]
    | cons q r =>
      rw [List.cons_append, List.cons_append, intercalate_cons_cons, ← List.cons_append,
        ih (List.cons_ne_nil _ _), intercalate_cons_cons]
      simp

/-- **The last separator.** A split has at least two pieces, the pieces but the
last joining back to `y` and the last being `d`, exactly when the list is `y`,
the separator, and a `d` free of it. -/
theorem splitOn_dropLast_getLast_iff (c : Char) (l y d : List Char) :
    (2 ≤ (l.splitOn c).length ∧ [c].intercalate (l.splitOn c).dropLast = y ∧
      (l.splitOn c).getLastD [] = d) ↔ l = y ++ c :: d ∧ c ∉ d := by
  constructor
  · rintro ⟨hlen, rfl, rfl⟩
    have hne : l.splitOn c ≠ [] := List.splitOnP_ne_nil _ l
    have hdl : (l.splitOn c).dropLast ≠ [] := by
      intro h; have := congrArg List.length h; simp at this; omega
    refine ⟨?_, @not_mem_of_mem_splitOn c l _ ?_⟩
    · conv_lhs => rw [← List.intercalate_splitOn l c, ← List.dropLast_append_getLast hne]
      rw [intercalate_append_singleton c hdl, List.getLastD_eq_getLast?, List.getLast?_eq_getLast _ hne]
      rfl
    · rw [List.getLastD_eq_getLast?, List.getLast?_eq_getLast _ hne]
      exact List.getLast_mem hne
  · rintro ⟨rfl, hd⟩
    have hy : y.splitOn c ≠ [] := List.splitOnP_ne_nil _ y
    have hs : (y ++ c :: d).splitOn c = y.splitOn c ++ [d] := by
      conv_lhs => rw [← List.intercalate_splitOn y c, ← intercalate_append_singleton c hy]
      refine @List.splitOn_intercalate _ _ _ c ?_ (by simp)
      intro p hp
      rcases List.mem_append.mp hp with hp | hp
      · exact not_mem_of_mem_splitOn hp
      · rwa [List.mem_singleton.mp hp]
    rw [hs]
    refine ⟨?_, by rw [List.dropLast_concat, List.intercalate_splitOn], by simp⟩
    have : 1 ≤ (y.splitOn c).length := List.length_pos.mpr hy
    simp only [List.length_append, List.length_singleton]; omega

/-! ### Cutting at a longer separator, and trimming -/

/-- **No separator, no cut**: while `sep` does not occur in what has been read,
`strings.Split`'s scan only accumulates. -/
theorem splitScan_append_of_not_infix (sep : List Char) :
    ∀ (zs ys cur : List Char), ¬ sep <:+: cur ++ zs → splitScan sep (zs ++ ys) cur = splitScan sep ys (cur ++ zs)
  | [], ys, cur, _ => by rw [List.nil_append, List.append_nil]
  | z :: zs, ys, cur, h => by
    have hz : sep.isSuffixOf (cur ++ [z]) = false := by
      rw [Bool.eq_false_iff, ne_eq, List.isSuffixOf_iff_suffix]
      exact fun hs => h (hs.isInfix.trans ⟨[], zs, by simp⟩)
    rw [List.cons_append, splitScan.eq_2, hz, if_neg Bool.false_ne_true,
      splitScan_append_of_not_infix sep zs ys (cur ++ [z]) (by simpa using h)]
    simp

/-- **The cut is at the first occurrence**: a piece ends where the separator
first occurs, and the scan starts afresh after it. -/
theorem splitScan_append_sep {sep : List Char} (hsep : sep ≠ []) (xs ys cur : List Char)
    (h : ¬ sep <:+: cur ++ xs ++ sep.dropLast) :
    splitScan sep (xs ++ sep ++ ys) cur = (cur ++ xs) :: splitScan sep ys [] := by
  obtain ⟨s, c, rfl⟩ := (List.eq_nil_or_concat sep).resolve_left hsep
  rw [List.concat_eq_append] at h ⊢
  rw [List.dropLast_concat] at h
  have hin : xs ++ (s ++ [c]) ++ ys = (xs ++ s) ++ c :: ys := by simp
  have hcut : cur ++ (xs ++ s) ++ [c] = (cur ++ xs) ++ (s ++ [c]) := by simp
  rw [hin, splitScan_append_of_not_infix _ _ _ _ (by simpa using h), splitScan.eq_2, hcut,
    if_pos (List.isSuffixOf_iff_suffix.mpr (List.suffix_append _ _)), List.length_append,
    Nat.add_sub_cancel, List.take_left]

theorem trimSpace_append_of_isSpace (pre : List Char) (hp : ∀ c ∈ pre, isSpace c) (l : List Char) :
    trimSpace ⟨pre ++ l⟩ = trimSpace ⟨l⟩ := by
  induction pre with
  | nil => rfl
  | cons c cs ih =>
    rw [← ih fun x hx => hp x (List.mem_cons_of_mem _ hx)]
    simp only [trimSpace, List.cons_append, List.dropWhile_cons, hp c (List.mem_cons_self _ _), if_true]

theorem trimSpace_append_newline (l : List Char) : trimSpace ⟨l ++ ['\n']⟩ = trimSpace ⟨l⟩ := by
  simp only [trimSpace, List.dropWhile_append]
  split
  · next h => simp [List.isEmpty_iff.mp h, isSpace]
  · simp [isSpace]

end Strings

end PodmanSwarm
