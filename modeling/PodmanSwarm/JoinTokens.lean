import PodmanSwarm.Membership

/-!
# The join token manager over any history

`GenerateToken`, `RevokeToken` and `ValidateToken` in any order. The abstract
state is the list of byte strings of the tokens generated and not revoked
since (`PodmanSwarm.Membership.liveTokens`); the manager refines it
(`PodmanSwarm.Membership.Refines`): its map holds exactly the encodings of the
live tokens, each with the hash of the secret and its bytes and no expiry.
Nothing sets an expiry, so `ValidateToken` never deletes anything.

Over that state `ValidateToken(s)` is decided by
`PodmanSwarm.Membership.validate_after_ops`: `s` is accepted when it is the
string of a live token or decodes to the bytes of one – or when no token is
live and `s` decodes at all. The last case is the bootstrap branch, and
revoking every token brings it back
(`PodmanSwarm.Membership.revoked_tokens_reopen_bootstrap`).

The theorems assume that the encoding and the hash are injective – for
URL-safe base64 that is a fact, for SHA-256 the usual idealization.
-/

namespace PodmanSwarm

namespace Membership

section Crypto

variable (encode : List UInt8 → String) (decode : String → Option (List UInt8))
  (hashHex : List UInt8 → String)

/-- `RevokeToken`. -/
def revokeToken (token : String) (tm : TokenManager) : TokenManager :=
  { tm with tokens := tm.tokens.erase token }

/-- A call on the token manager. -/
inductive TokenOp
  | generate (bytes : List UInt8) (now : Time)
  | revoke (token : String)
  | validate (now : Time) (token : String)

/-- The call itself. -/
def TokenOp.apply : TokenOp → TokenManager → TokenManager
  | .generate bytes now, tm => (generateToken encode hashHex bytes now tm).2
  | .revoke token, tm => revokeToken token tm
  | .validate now token, tm => (validateToken decode hashHex now token tm).2

/-- The calls one after the other. -/
def runTokenOps (ops : List TokenOp) (tm : TokenManager) : TokenManager :=
  ops.foldl (fun tm op => op.apply encode decode hashHex tm) tm

/-- What a call does to the live tokens: a generated token becomes live, a
revoked one stops being. -/
def TokenOp.live : TokenOp → List (List UInt8) → List (List UInt8)
  | .generate bytes _, l => bytes :: l
  | .revoke token, l => l.filter (encode · != token)
  | .validate .., l => l

/-- **The abstract state**: the byte strings of the tokens generated and not
revoked since. -/
def liveTokens (ops : List TokenOp) : List (List UInt8) :=
  ops.foldl (fun l op => op.live encode l) []

/-- Every token the manager holds is filed under the encoding of some bytes,
with the hash of the secret and those bytes, and without expiry. -/
def WellFormed (tm : TokenManager) : Prop :=
  ∀ k t, tm.tokens.lookup k = some t →
    ∃ b, k = encode b ∧ t.hash = hashHex (tm.secret ++ b) ∧ t.expiresAt = none

/-- **The manager refines the abstract state** `l`: it is well formed and
holds the encoding of exactly the byte strings of `l`. -/
def Refines (tm : TokenManager) (l : List (List UInt8)) : Prop :=
  WellFormed encode hashHex tm ∧ ∀ b, (tm.tokens.lookup (encode b)).isSome ↔ b ∈ l

/-! ### One call -/

variable {encode decode hashHex}

/-- A well-formed manager never expires a token: `ValidateToken` leaves it as
it is. -/
theorem validateToken_snd {tm : TokenManager} (hw : WellFormed encode hashHex tm) (now : Time) (s : String) :
    (validateToken decode hashHex now s tm).2 = tm := by
  unfold validateToken
  split
  · split
    · rfl
    · split_ifs <;> rfl
  · next t ht =>
    obtain ⟨-, -, -, he⟩ := hw s t ht
    rw [he]

theorem refines_generate (hencode : Function.Injective encode) {tm : TokenManager} {l : List (List UInt8)}
    (h : Refines encode hashHex tm l) (bytes : List UInt8) (now : Time) :
    Refines encode hashHex (generateToken encode hashHex bytes now tm).2 (bytes :: l) := by
  refine ⟨fun k t hk => ?_, fun b => ?_⟩
  · by_cases hkb : k = encode bytes
    · subst hkb
      simp only [generateToken, AList.lookup_insert, Option.some.injEq] at hk
      subst hk
      exact ⟨bytes, rfl, rfl, rfl⟩
    · simp only [generateToken, AList.lookup_insert_ne hkb] at hk
      exact h.1 k t hk
  · by_cases hb : b = bytes
    · subst hb
      simp [generateToken, AList.lookup_insert]
    · have hne : encode b ≠ encode bytes := fun he => hb (hencode he)
      simp only [generateToken, AList.lookup_insert_ne hne, List.mem_cons, hb, false_or]
      exact h.2 b

theorem refines_revoke {tm : TokenManager} {l : List (List UInt8)} (h : Refines encode hashHex tm l)
    (token : String) :
    Refines encode hashHex (revokeToken token tm) (l.filter (encode · != token)) := by
  refine ⟨fun k t hk => ?_, fun b => ?_⟩
  · by_cases hkt : k = token
    · subst hkt
      simp [revokeToken, AList.lookup_erase] at hk
    · rw [revokeToken, AList.lookup_erase_ne hkt] at hk
      exact h.1 k t hk
  · by_cases hbt : encode b = token
    · subst hbt
      simp [revokeToken, AList.lookup_erase]
    · simp only [revokeToken, AList.lookup_erase_ne hbt, List.mem_filter, bne_iff_ne, ne_eq, hbt,
        not_false_eq_true, decide_True, and_true]
      exact h.2 b

/-- **One call keeps the refinement.** -/
theorem refines_apply (hencode : Function.Injective encode) {tm : TokenManager} {l : List (List UInt8)}
    (h : Refines encode hashHex tm l) (op : TokenOp) :
    Refines encode hashHex (op.apply encode decode hashHex tm) (op.live encode l) := by
  cases op with
  | generate bytes now => exact refines_generate hencode h bytes now
  | revoke token => exact refines_revoke h token
  | validate now token =>
    show Refines encode hashHex (validateToken decode hashHex now token tm).2 l
    rw [validateToken_snd h.1]
    exact h

/-! ### Every history -/

theorem refines_run (hencode : Function.Injective encode) (ops : List TokenOp) :
    ∀ {tm : TokenManager} {l : List (List UInt8)}, Refines encode hashHex tm l →
      Refines encode hashHex (runTokenOps encode decode hashHex ops tm)
        (ops.foldl (fun l op => op.live encode l) l) := by
  induction ops with
  | nil => exact id
  | cons op ops ih => exact fun h => ih (refines_apply hencode h op)

theorem refines_new (key rand : List UInt8) : Refines encode hashHex (newTokenManager key rand) [] :=
  ⟨fun _ _ h => by simp [newTokenManager] at h, fun _ => by simp [newTokenManager]⟩

theorem mem_vals_iff {tm : TokenManager} {t : Token} : t ∈ tm.tokens.vals ↔ ∃ k, tm.tokens.lookup k = some t := by
  simp only [GoMap.vals, List.mem_map]
  constructor
  · rintro ⟨⟨k, t'⟩, hm, rfl⟩
    exact ⟨k, AList.mem_lookup_iff.mpr hm⟩
  · rintro ⟨k, hk⟩
    exact ⟨⟨k, t⟩, AList.mem_lookup_iff.mp hk, rfl⟩

section Refines

variable (hencode : Function.Injective encode) {tm : TokenManager} {l : List (List UInt8)}
  (h : Refines encode hashHex tm l)
include hencode h

theorem lookup_of_mem {b : List UInt8} (hb : b ∈ l) :
    ∃ t, tm.tokens.lookup (encode b) = some t ∧ t.hash = hashHex (tm.secret ++ b) ∧ t.expiresAt = none := by
  obtain ⟨t, ht⟩ := Option.isSome_iff_exists.mp ((h.2 b).mpr hb)
  obtain ⟨b', hb', hh, he⟩ := h.1 _ t ht
  exact ⟨t, ht, hencode hb' ▸ hh, he⟩

/-- The manager holds no token exactly when none is live. -/
theorem isEmpty_iff_of_refines : tm.tokens.entries.isEmpty = true ↔ l = [] := by
  rw [List.isEmpty_iff, List.eq_nil_iff_forall_not_mem, List.eq_nil_iff_forall_not_mem]
  constructor
  · intro he b hb
    obtain ⟨t, ht, -⟩ := lookup_of_mem hencode h hb
    exact he ⟨_, t⟩ (AList.mem_lookup_iff.mp ht)
  · rintro hl ⟨k, t⟩ hm
    obtain ⟨b, rfl, -⟩ := h.1 k t (AList.mem_lookup_iff.mpr hm)
    exact hl b ((h.2 b).mp (by rw [AList.mem_lookup_iff.mpr hm]; rfl))

/-- A stored hash is that of `b` exactly when `b` is live. -/
theorem any_hash_iff_of_refines (hhash : Function.Injective hashHex) (b : List UInt8) :
    tm.tokens.vals.any (·.hash == hashHex (tm.secret ++ b)) = true ↔ b ∈ l := by
  simp only [List.any_eq_true, beq_iff_eq, mem_vals_iff]
  constructor
  · rintro ⟨t, ⟨k, hk⟩, ht⟩
    obtain ⟨b', rfl, hb', -⟩ := h.1 k t hk
    obtain rfl := List.append_cancel_left (hhash (hb'.symm.trans ht))
    exact (h.2 b').mp (by rw [hk]; rfl)
  · intro hb
    obtain ⟨t, ht, hh, -⟩ := lookup_of_mem hencode h hb
    exact ⟨t, ⟨_, ht⟩, hh⟩

/-- **What `ValidateToken` accepts** from a manager that refines `l`: the
string of a live token, a string that decodes to the bytes of one, and – when
none is live – any string that decodes. -/
theorem validateToken_of_refines (hhash : Function.Injective hashHex) (now : Time) (s : String) :
    (validateToken decode hashHex now s tm).1 = true ↔
      (∃ b ∈ l, s = encode b ∨ decode s = some b) ∨ (l = [] ∧ (decode s).isSome) := by
  unfold validateToken
  split
  · next hs =>
    -- `s` is not held, so it is the string of no live token
    have hns : ∀ b ∈ l, s ≠ encode b := fun b hb hsb => by
      obtain ⟨t, ht, -⟩ := lookup_of_mem hencode h hb
      rw [← hsb, hs] at ht
      cases ht
    split
    · next hd => simpa [hd] using hns
    · next b hd =>
      have hany := any_hash_iff_of_refines hencode h hhash b
      have hrhs : ((∃ b' ∈ l, s = encode b' ∨ some b = some b') ∨ (l = [] ∧ (some b).isSome)) ↔
          b ∈ l ∨ l = [] := by
        simp only [Option.some.injEq, Option.isSome_some, and_true]
        exact or_congr_left ⟨fun ⟨b', hb', hor⟩ => hor.elim (fun he => absurd he (hns b' hb')) (· ▸ hb'),
          fun hb => ⟨b, hb, .inr rfl⟩⟩
      rw [hd, hrhs]
      by_cases ha : tm.tokens.vals.any (·.hash == hashHex (tm.secret ++ b)) = true
      · rw [if_pos ha]
        exact iff_of_true rfl (.inl (hany.mp ha))
      · rw [if_neg ha, isEmpty_iff_of_refines hencode h]
        exact ⟨.inr, fun hor => hor.elim (fun hb => absurd (hany.mpr hb) ha) id⟩
  · next t ht =>
    obtain ⟨b, rfl, -, he⟩ := h.1 s t ht
    rw [he]
    exact iff_of_true rfl (.inl ⟨b, (h.2 b).mp (by rw [ht]; rfl), .inl rfl⟩)

end Refines

/-- **`ValidateToken` after any history.** Start from `NewTokenManager` and
make any calls. `ValidateToken(s)` then accepts `s` exactly when `s` is the
string of a token generated and not revoked since, or decodes to the bytes of
one – or when no such token exists and `s` decodes at all. -/
theorem validate_after_ops (hencode : Function.Injective encode) (hhash : Function.Injective hashHex)
    (key rand : List UInt8) (ops : List TokenOp) (now : Time) (s : String) :
    (validateToken decode hashHex now s (runTokenOps encode decode hashHex ops (newTokenManager key rand))).1 =
        true ↔
      (∃ b ∈ liveTokens encode ops, s = encode b ∨ decode s = some b) ∨
        (liveTokens encode ops = [] ∧ (decode s).isSome) :=
  validateToken_of_refines hencode (refines_run hencode ops (refines_new key rand)) hhash now s

end Crypto

/-! ### Revoking every token -/

/-- A stand-in for the encoding and the hash: one character per byte. -/
def byteString (b : List UInt8) : String := ⟨b.map fun x => Char.ofNat x.toNat⟩

/-- Its inverse on the strings it makes; every string decodes. -/
def byteDecode (s : String) : Option (List UInt8) := some (s.data.map fun c => c.toNat.toUInt8)

theorem toNat_ofNat_of_lt {n : Nat} (h : n < 256) : (Char.ofNat n).toNat = n := by
  rw [Char.ofNat, dif_pos (Or.inl (by omega))]
  rfl

theorem byteString_injective : Function.Injective byteString := by
  intro a b h
  refine List.map_injective_iff.mpr (fun x y hxy => ?_) (congrArg String.data h)
  have := congrArg Char.toNat hxy
  rw [toNat_ofNat_of_lt x.toNat_lt_size, toNat_ofNat_of_lt y.toNat_lt_size] at this
  exact UInt8.toNat.inj this

theorem generated_token_validates :
    Function.Injective byteString ∧ Function.Injective byteString ∧
      ((validateToken byteDecode byteString 0 (byteString [1, 2])
          (runTokenOps byteString byteDecode byteString [.generate [1, 2] 0] (newTokenManager [7] []))).1 =
          true ↔
        (∃ b ∈ liveTokens byteString [.generate [1, 2] 0], byteString [1, 2] = byteString b ∨
            byteDecode (byteString [1, 2]) = some b) ∨
          (liveTokens byteString [.generate [1, 2] 0] = [] ∧ (byteDecode (byteString [1, 2])).isSome)) :=
  ⟨byteString_injective, byteString_injective,
    validate_after_ops byteString_injective byteString_injective [7] [] [.generate [1, 2] 0] 0 _⟩

/-- **Revoking every token reopens the bootstrap branch.** A token is
generated and revoked; no token is live, and `ValidateToken` accepts a string
that was never issued. -/
theorem revoked_tokens_reopen_bootstrap :
    liveTokens byteString [.generate [1, 2] 0, .revoke (byteString [1, 2])] = [] ∧
      (validateToken byteDecode byteString 0 "anything"
        (runTokenOps byteString byteDecode byteString [.generate [1, 2] 0, .revoke (byteString [1, 2])]
          (newTokenManager [7] []))).1 = true := by
  decide

end Membership

end PodmanSwarm
