import Nervora.Audit.Models
import Nervora.Auth.Tokens

/-! Signing and verifying bearer tokens, and the dependency that turns a request header into a
principal. The JWT library and the client that fetches signing keys are parameters. -/
namespace Nervora

/-- What the library raises: an expired signature and an invalid token, or anything else. -/
inductive JwtError where
  | expiredSignature
  | invalidToken (text : String)
  | other (exc : PyException)
  deriving DecidableEq, Repr

/-- `jwt.encode` and `jwt.decode` for one algorithm. The issuer is checked where one is given. -/
structure Jwt (Key : Type) where
  encode (claims : Obj) (key : Key) : String
  decode (token : String) (key : Key) (audience : String) (issuer : Option String) (now : Time) :
    Except JwtError Obj

/-- `verify`, at a time. -/
abbrev TokenVerifier := Time → String → Except ClaimError ClaimedPrincipal

/-! ### The development pair -/

/-- `int(time.time())`. -/
def seconds (now : Time) : Int := now / 1000000

structure DevTokenSigner where
  secret : String
  audience : String := "api://secure-mcp-gateway"
  deriving DecidableEq, Repr

/-- The claims of a token, in the shape of those of Entra ID. -/
def DevTokenSigner.claims (signer : DevTokenSigner) (subject agentId role : String)
    (scopes : List String) (ttlSeconds : Int) (now : Time) : Obj := [
  ("iss", .str "dev-token-signer"),
  ("aud", .str signer.audience),
  ("sub", .str subject),
  ("agent_id", .str agentId),
  ("agent_role", .str role),
  ("scp", .str (" ".intercalate scopes)),
  ("iat", .int (seconds now)),
  ("nbf", .int (seconds now)),
  ("exp", .int (seconds now + ttlSeconds))]

def DevTokenSigner.mint (jwt : Jwt String) (signer : DevTokenSigner) (subject agentId role : String)
    (scopes : List String) (ttlSeconds : Int) (now : Time) : String :=
  jwt.encode (signer.claims subject agentId role scopes ttlSeconds now) signer.secret

structure DevTokenVerifier where
  secret : String
  audience : String := "api://secure-mcp-gateway"
  deriving DecidableEq, Repr

def DevTokenVerifier.verify (jwt : Jwt String) (v : DevTokenVerifier) : TokenVerifier := fun now token =>
  match jwt.decode token v.secret v.audience none now with
  | .error .expiredSignature => .error (.auth "token expired" "AUTH_TOKEN_EXPIRED")
  | .error (.invalidToken text) => .error (.auth ("invalid token: " ++ text) "AUTH_INVALID_TOKEN")
  | .error (.other exc) => .error (.raised exc)
  | .ok claims => principalFromClaims claims

/-! ### Entra ID -/

structure EntraOIDCVerifier where
  jwksUrl : String
  issuer : String
  audience : String
  deriving DecidableEq, Repr

/-- The constructor. -/
def EntraOIDCVerifier.init (jwksUrl issuer audience : String) : Except ClaimError EntraOIDCVerifier :=
  if jwksUrl ≠ "" ∧ issuer ≠ "" ∧ audience ≠ "" then .ok ⟨jwksUrl, issuer, audience⟩
  else .error (.auth "Entra verifier requires jwks_url, issuer and audience" "AUTH_MISCONFIGURED")

/-- `getSigningKey` is the client for the keys published at a URL. -/
def EntraOIDCVerifier.verify {Key : Type} (jwt : Jwt Key)
    (getSigningKey : String → String → Except JwtError Key) (v : EntraOIDCVerifier) :
    TokenVerifier := fun now token =>
  let decoded := do
    let key ← getSigningKey v.jwksUrl token
    jwt.decode token key v.audience (some v.issuer) now
  match decoded with
  | .error .expiredSignature => .error (.auth "token expired" "AUTH_TOKEN_EXPIRED")
  | .error (.invalidToken text) =>
    .error (.auth ("invalid Entra token: " ++ text) "AUTH_INVALID_TOKEN")
  | .error (.other exc) => .error (.auth ("token key resolution failed: " ++ exc.text) "AUTH_JWKS")
  | .ok claims => principalFromClaims claims

inductive AuthMode where
  | dev
  | entra
  deriving DecidableEq, Repr

/-- The settings that choose a verifier. -/
structure AuthSettings where
  authMode : AuthMode := .dev
  devTokenSigningSecret : String := "dev-only-not-for-production-change-me"
  entraJwksUrl : String := ""
  entraIssuer : String := ""
  entraAudience : String := "api://secure-mcp-gateway"
  deriving DecidableEq, Repr

def buildVerifier {Key : Type} (hs256 : Jwt String) (rs256 : Jwt Key)
    (getSigningKey : String → String → Except JwtError Key) (settings : AuthSettings) :
    Except ClaimError TokenVerifier :=
  match settings.authMode with
  | .entra =>
    (EntraOIDCVerifier.init settings.entraJwksUrl settings.entraIssuer settings.entraAudience).map
      (EntraOIDCVerifier.verify rs256 getSigningKey)
  | .dev => .ok (DevTokenVerifier.verify hs256 ⟨settings.devTokenSigningSecret, settings.entraAudience⟩)

/-- The library decodes the token to these claims, with the key that the settings name. -/
def Decodes {Key : Type} (hs256 : Jwt String) (rs256 : Jwt Key)
    (getSigningKey : String → String → Except JwtError Key) (settings : AuthSettings) (now : Time)
    (token : String) (claims : Obj) : Prop :=
  match settings.authMode with
  | .entra => ∃ key, getSigningKey settings.entraJwksUrl token = .ok key ∧
      rs256.decode token key settings.entraAudience (some settings.entraIssuer) now = .ok claims
  | .dev => hs256.decode token settings.devTokenSigningSecret settings.entraAudience none now = .ok claims

/-- What a verifier accepts is what the library decodes. -/
theorem decodes_of_verified {Key : Type} {hs256 : Jwt String} {rs256 : Jwt Key}
    {getSigningKey : String → String → Except JwtError Key} {settings : AuthSettings}
    {verify : TokenVerifier} (built : buildVerifier hs256 rs256 getSigningKey settings = .ok verify)
    {now : Time} {token : String} {claimed : ClaimedPrincipal} (accepted : verify now token = .ok claimed) :
    ∃ claims, Decodes hs256 rs256 getSigningKey settings now token claims ∧
      principalFromClaims claims = .ok claimed := by
  unfold buildVerifier at built
  unfold Decodes
  cases mode : settings.authMode with
  | dev =>
    rw [mode] at built
    cases built
    unfold DevTokenVerifier.verify at accepted
    split at accepted
    · cases accepted
    · cases accepted
    · cases accepted
    next claims decoded => exact ⟨claims, decoded, accepted⟩
  | entra =>
    rw [mode] at built
    unfold EntraOIDCVerifier.init at built
    dsimp only at built
    split at built
    · cases built
      unfold EntraOIDCVerifier.verify at accepted
      dsimp only at accepted
      cases found : getSigningKey settings.entraJwksUrl token with
      | error exc => cases exc <;> simp [found, bind, Except.bind] at accepted
      | ok key =>
        simp only [found, bind, Except.bind] at accepted
        split at accepted
        · cases accepted
        · cases accepted
        · cases accepted
        next claims decoded => exact ⟨claims, ⟨key, rfl, decoded⟩, accepted⟩
    · cases built

/-! ### `get_principal` -/

/-- How a request fails before its route is run. -/
inductive HttpFailure where
  /-- `HTTPException(401)`; a challenge is a `WWW-Authenticate` header. -/
  | unauthorized (detail : String) (challenge : Bool)
  | raised (exc : PyException)
  deriving DecidableEq, Repr

/-- `s.strip()`. -/
def pyStrip (cs : List Char) : List Char :=
  ((cs.dropWhile isSpace).reverse.dropWhile isSpace).reverse

/-- The scheme counts in any case. No other letter of a header becomes one of these in lower
case. -/
def isBearer (authorization : String) : Bool :=
  "bearer ".toList.isPrefixOf (authorization.toList.map Char.toLower)

/-- `authorization.split(" ", 1)[1].strip()`. -/
def bearerToken (authorization : String) : String :=
  String.ofList (pyStrip ((authorization.toList.dropWhile (· ≠ ' ')).drop 1))

def getPrincipal (verify : TokenVerifier) (now : Time) (authorization : String) :
    Except HttpFailure ClaimedPrincipal :=
  if isBearer authorization then
    match verify now (bearerToken authorization) with
    | .error (.auth message _) => .error (.unauthorized message true)
    | .error (.raised exc) => .error (.raised exc)
    | .ok principal => .ok principal
  else .error (.unauthorized "missing bearer token" false)

end Nervora
