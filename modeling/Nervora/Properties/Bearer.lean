import Mathlib.Data.List.TakeWhile
import Nervora.Auth.Verifiers
import Nervora.Properties.Callers

/-!
# A minted token and its bearer

## Main result

`minted_token_authenticates`: what a request with a minted token is answered, for every time of
the request. Within the lifetime of the token, and for the audience it was minted for, the caller
is the one that was named, with the words of the scopes.

## Proof strategy

The header is cut at its first blank, and what is around the token is stripped. Splitting undoes
joining for words, and takes any other scope apart.
-/
namespace Nervora

/-- No whitespace in a text, and nothing else. -/
def Solid (s : String) : Prop := ∀ c ∈ s.toList, isSpace c = false

def Blank (s : String) : Prop := ∀ c ∈ s.toList, isSpace c = true

instance (s : String) : Decidable (Solid s) :=
  List.decidableBAll (fun c => isSpace c = false) s.toList

instance (s : String) : Decidable (Blank s) :=
  List.decidableBAll (fun c => isSpace c = true) s.toList

theorem Solid.append {s t : String} (left : Solid s) (right : Solid t) : Solid (s ++ t) := by
  intro c member
  rw [String.toList_append, List.mem_append] at member
  exact member.elim (left c) (right c)

/-! ### The claims -/

private theorem isText_of_first {claims : Obj} {first second : String} {v : Json}
    (found : firstClaim claims [first, second] = some v) (text : IsText (claim claims first))
    (absent : claim claims second = .null) : IsText v := by
  obtain ⟨name, member, rfl⟩ := List.mem_map.mp (List.mem_of_find?_eq_some found)
  rcases List.mem_pair.mp member with rfl | rfl
  · exact text
  · -- What is picked is not empty.
    have picked : (claim claims name).truthy = true := List.find?_some found
    rw [absent] at picked
    cases picked

/-- The claims that the signer puts into a token are well typed. -/
theorem DevTokenSigner.typed_claims (signer : DevTokenSigner) (subject agentId role : String)
    (scopes : List String) (ttlSeconds : Int) (now : Time) :
    TypedClaims (signer.claims subject agentId role scopes ttlSeconds now) := by
  have scope {v : Json} (found : firstClaim
      (signer.claims subject agentId role scopes ttlSeconds now) ["scp", "scope"] = some v) : IsText v :=
    isText_of_first found ⟨_, rfl⟩ rfl
  refine ⟨fun v found => Or.inl (scope found), fun _ => ⟨?_, ?_, ?_, ?_, ?_⟩⟩
  · exact fun v found => isText_of_first found ⟨_, rfl⟩ rfl
  · exact fun v found => isText_of_first found ⟨_, rfl⟩ rfl
  · intro v found
    cases found
    exact ⟨subject, rfl⟩
  · intro v found
    cases found
  · intro items found
    obtain ⟨s, same⟩ := scope found
    cases same

/-! ### The header -/

private theorem dropWhile_blanks {before rest : List Char}
    (early : ∀ c ∈ before, isSpace c = true) (start : ∀ c ∈ rest.head?, isSpace c = false) :
    (before ++ rest).dropWhile isSpace = rest := by
  rw [List.dropWhile_append_of_pos early]
  cases rest with
  | nil => rfl
  | cons c rest => simp [start c rfl]

/-- Stripping a text without blanks between blanks leaves the text. -/
theorem pyStrip_blanks {before token after : List Char} (early : ∀ c ∈ before, isSpace c = true)
    (late : ∀ c ∈ after, isSpace c = true) (solid : ∀ c ∈ token, isSpace c = false) :
    pyStrip (before ++ token ++ after) = token := by
  have front : (before ++ (token ++ after)).dropWhile isSpace = (token ++ after).dropWhile isSpace :=
    List.dropWhile_append_of_pos early
  cases token with
  | nil =>
    have none : after.dropWhile isSpace = [] := List.dropWhile_eq_nil_iff.2 late
    rw [List.nil_append] at front
    rw [List.append_nil, pyStrip, front, none]
    rfl
  | cons c token =>
    have start : (c :: token ++ after).dropWhile isSpace = c :: token ++ after := by
      simp [solid c (.head _)]
    have back : ((c :: token) ++ after).reverse.dropWhile isSpace = (c :: token).reverse := by
      rw [List.reverse_append]
      refine dropWhile_blanks (by simpa using late) fun d last => solid d ?_
      exact List.mem_reverse.1 (List.mem_of_head? last)
    rw [List.append_assoc, pyStrip, front, start, back, List.reverse_reverse]

private theorem ne_blank_of_lower {scheme : List Char}
    (lower : scheme.map Char.toLower = "bearer".toList) : ∀ c ∈ scheme, c ≠ ' ' := by
  rintro c member rfl
  have : Char.toLower ' ' ∈ "bearer".toList := lower ▸ List.mem_map_of_mem member
  exact absurd this (by decide)

/-- The token of a header whose scheme is the bearer scheme, in any case and with any blanks
around the token. -/
theorem bearerToken_header {scheme before token after : String}
    (lower : scheme.toList.map Char.toLower = "bearer".toList)
    (early : Blank before) (late : Blank after) (solid : Solid token) :
    isBearer (scheme ++ " " ++ before ++ token ++ after) = true ∧
      bearerToken (scheme ++ " " ++ before ++ token ++ after) = token := by
  constructor
  · simp only [isBearer, String.toList_append, List.map_append, lower]
    simp
  · have past : (scheme.toList ++ (' ' :: (before.toList ++ token.toList ++ after.toList))).dropWhile
        (· ≠ ' ') = ' ' :: (before.toList ++ token.toList ++ after.toList) := by
      rw [List.dropWhile_append_of_pos (by simpa using ne_blank_of_lower lower)]
      simp
    have spell : (scheme ++ " " ++ before ++ token ++ after).toList =
        scheme.toList ++ (' ' :: (before.toList ++ token.toList ++ after.toList)) := by simp
    rw [bearerToken, spell, past, List.drop_one, List.tail_cons, pyStrip_blanks early late solid,
      String.ofList_toList]

/-! ### The scopes -/

private theorem splitOnP_solid (cs : List Char) :
    ∀ word ∈ cs.splitOnP isSpace, ∀ c ∈ word, isSpace c = false := by
  induction cs with
  | nil => simp
  | cons d cs ih =>
    rw [List.splitOnP_cons_eq_if_modifyHead]
    split
    case isTrue blank =>
      rintro word (_ | ⟨_, member⟩)
      · simp
      · exact ih word member
    case isFalse solid =>
      cases parts : cs.splitOnP isSpace with
      | nil => simp
      | cons part parts' =>
        rw [parts] at ih
        rintro word (_ | ⟨_, member⟩) c inside
        · rcases List.mem_cons.1 inside with rfl | inside
          · exact eq_false_of_ne_true solid
          · exact ih part (.head _) c inside
        · exact ih word (.tail _ member) c inside

/-- The words of a text are not empty and have no blanks. -/
theorem pySplit_words (s : String) : ∀ w ∈ pySplit s, w ≠ "" ∧ Solid w := by
  intro w member
  obtain ⟨word, part, rfl⟩ := List.mem_map.1 member
  obtain ⟨part, filled⟩ := List.mem_filter.1 part
  refine ⟨by simpa using filled, ?_⟩
  rw [Solid, String.toList_ofList]
  exact splitOnP_solid _ word part

theorem pySplit_solid {s : String} (filled : s ≠ "") (solid : Solid s) : pySplit s = [s] := by
  have whole : s.toList.splitOnP isSpace = [s.toList] := List.splitOnP_eq_singleton solid
  rw [pySplit, whole]
  simp [filled]

private theorem pySplit_append_blank (s t : String) :
    pySplit (s ++ " " ++ t) = pySplit s ++ pySplit t := by
  have cut : (s ++ " " ++ t).toList.splitOnP isSpace =
      s.toList.splitOnP isSpace ++ t.toList.splitOnP isSpace := by
    have blank : isSpace ' ' = true := by decide
    simpa using List.splitOnP_append_cons s.toList t.toList blank
  rw [pySplit, cut, List.filter_append, List.map_append, pySplit, pySplit]

/-- Joining with a blank keeps the words of each text. -/
theorem pySplit_intercalate : ∀ scopes : List String,
    pySplit (" ".intercalate scopes) = scopes.flatMap pySplit
  | [] => by decide
  | [s] => by simp
  | s :: t :: scopes => by
    rw [String.intercalate_cons_cons, pySplit_append_blank, pySplit_intercalate (t :: scopes)]
    rfl

/-- The texts that are words come back as they were joined, and only those. -/
theorem pySplit_intercalate_iff (scopes : List String) :
    pySplit (" ".intercalate scopes) = scopes ↔
      ∀ s ∈ scopes, s ≠ "" ∧ Solid s := by
  rw [pySplit_intercalate]
  constructor
  · intro same s member
    rw [← same] at member
    obtain ⟨t, -, word⟩ := List.mem_flatMap.1 member
    exact pySplit_words t s word
  · intro words
    induction scopes with
    | nil => rfl
    | cons s scopes ih =>
      obtain ⟨filled, solid⟩ := words s (.head _)
      rw [List.flatMap_cons, pySplit_solid filled solid, ih fun t member => words t (.tail _ member)]
      rfl

/-! ### Authentication -/

/-- What the library checks of a token whose signature is right. -/
def DevTokenSigner.check (signer : DevTokenSigner) (ttlSeconds : Int) (issued : Time)
    (audience : String) (now : Time) : Option JwtError :=
  if now < seconds issued * 1000000 then some (.invalidToken "The token is not yet valid (iat)")
  else if (seconds issued + ttlSeconds) * 1000000 ≤ now then some .expiredSignature
  else if signer.audience = "" then some (.invalidToken "Token is missing the \"aud\" claim")
  else if signer.audience ≠ audience then some (.invalidToken "Audience doesn't match")
  else none

private theorem principal_minted (signer : DevTokenSigner) (subject agentId role : String)
    (scopes : List String) (ttlSeconds : Int) (issued : Time) :
    principalFromClaims (signer.claims subject agentId role scopes ttlSeconds issued) =
      if role = "" then .error (.auth "token is missing the agent_role claim" "AUTH_NO_ROLE")
      else .ok {
        subject := .str subject
        agentId := .str (if agentId = "" then subject else agentId)
        role := .str role
        scopes := (scopes.flatMap pySplit).map .str
        tenantId := .str ""
        rawClaims := signer.claims subject agentId role scopes ttlSeconds issued } := by
  have text_or (s t : String) : (Json.str s).or (.str t) = .str (if s = "" then t else s) := by
    by_cases empty : s = "" <;> simp [Json.or, Json.truthy, empty]
  have none_or (v : Json) : Json.null.or v = v := rfl
  let claims := signer.claims subject agentId role scopes ttlSeconds issued
  have named : (claim claims "agent_role").or ((claim claims "role").or (.str "")) = .str role := by
    change (Json.str role).or (Json.null.or (.str "")) = _
    rw [none_or, text_or]
    split <;> simp_all
  have agent : (claim claims "agent_id").or ((claim claims "azp").or (claimOrEmpty claims "sub")) =
      .str (if agentId = "" then subject else agentId) := text_or agentId subject
  have granted : (claim claims "scp").or ((claim claims "scope").or (.str "")) =
      .str (" ".intercalate scopes) := by
    change (Json.str (" ".intercalate scopes)).or (Json.null.or (.str "")) = _
    rw [none_or, text_or]
    split <;> simp_all
  unfold principalFromClaims
  rw [named, agent, granted, scopesOf, pySplit_intercalate]
  by_cases absent : role = ""
  · simp [absent, Json.truthy]
  · simp only [Json.truthy, absent, ne_eq, not_false_eq_true, decide_true, Bool.not_true,
      Bool.false_eq_true, if_false]
    rfl

/-- What a request with a minted token is answered, and which scopes survive. The library is asked
to accept what it signed, under the times and the audience. -/
theorem minted_token_authenticates (jwt : Jwt String) (signer : DevTokenSigner)
    (subject agentId role : String) (scopes : List String) (ttlSeconds : Int) (issued now : Time)
    (audience scheme before after : String)
    (solid : Solid (signer.mint jwt subject agentId role scopes ttlSeconds issued))
    (reads : jwt.decode (signer.mint jwt subject agentId role scopes ttlSeconds issued)
        signer.secret audience none now =
      (signer.check ttlSeconds issued audience now).elim
        (.ok (signer.claims subject agentId role scopes ttlSeconds issued)) .error)
    (lower : scheme.toList.map Char.toLower = "bearer".toList)
    (early : Blank before) (late : Blank after) :
    getPrincipal (DevTokenVerifier.verify jwt ⟨signer.secret, audience⟩) now
        (scheme ++ " " ++ before ++ signer.mint jwt subject agentId role scopes ttlSeconds issued ++ after) =
      (if now < seconds issued * 1000000 then
        .error (.unauthorized "invalid token: The token is not yet valid (iat)" true)
      else if (seconds issued + ttlSeconds) * 1000000 ≤ now then
        .error (.unauthorized "token expired" true)
      else if signer.audience = "" then
        .error (.unauthorized "invalid token: Token is missing the \"aud\" claim" true)
      else if signer.audience ≠ audience then
        .error (.unauthorized "invalid token: Audience doesn't match" true)
      else if role = "" then
        .error (.unauthorized "token is missing the agent_role claim" true)
      else .ok {
        subject := .str subject
        agentId := .str (if agentId = "" then subject else agentId)
        role := .str role
        scopes := (scopes.flatMap pySplit).map .str
        tenantId := .str ""
        rawClaims := signer.claims subject agentId role scopes ttlSeconds issued }) ∧
    (scopes.flatMap pySplit = scopes ↔ ∀ s ∈ scopes, s ≠ "" ∧ Solid s) := by
  obtain ⟨bearer, found⟩ := bearerToken_header lower early late solid
  constructor
  · rw [getPrincipal, if_pos bearer, found, DevTokenVerifier.verify, reads, DevTokenSigner.check]
    -- In the order in which the library looks at the claims.
    by_cases young : now < seconds issued * 1000000
    · simp [young, String.reduceAppend]
    by_cases old : (seconds issued + ttlSeconds) * 1000000 ≤ now
    · simp [young, old]
    by_cases unaddressed : signer.audience = ""
    · simp [young, old, unaddressed]
    by_cases elsewhere : signer.audience ≠ audience
    · simp [young, old, unaddressed, elsewhere]
    simp only [young, old, unaddressed, elsewhere, if_false, Option.elim_none, principal_minted]
    by_cases absent : role = "" <;> simp [absent]
  · rw [← pySplit_intercalate]
    exact pySplit_intercalate_iff scopes

/-! ### A header -/

def devSigner : DevTokenSigner := ⟨"dev-only-not-for-production-change-me", "api://secure-mcp-gateway"⟩

def aliceClaims : Obj :=
  devSigner.claims "alice" "agent-1" "hr_agent" ["tools.read", "tools.invoke"] 3600 1700000000000000

/-- The claims of alice, signed with HMAC-SHA256 under the secret. -/
def aliceToken : String :=
  "eyJhbGciOiJIUzI1NiIsInR5cCI6IkpXVCJ9.eyJpc3MiOiJ" ++
  "kZXYtdG9rZW4tc2lnbmVyIiwiYXVkIjoiYXBpOi8vc2VjdXJ" ++
  "lLW1jcC1nYXRld2F5Iiwic3ViIjoiYWxpY2UiLCJhZ2VudF9" ++
  "pZCI6ImFnZW50LTEiLCJhZ2VudF9yb2xlIjoiaHJfYWdlbnQ" ++
  "iLCJzY3AiOiJ0b29scy5yZWFkIHRvb2xzLmludm9rZSIsIml" ++
  "hdCI6MTcwMDAwMDAwMCwibmJmIjoxNzAwMDAwMDAwLCJleHA" ++
  "iOjE3MDAwMDM2MDB9.B0ssDdZN1XTjY2XvjRNHyvkdmM94co" ++
  "ZpNXLd183W7gM"

private theorem solid_aliceToken : Solid aliceToken := by
  refine .append (.append (.append (.append (.append (.append (.append ?_ ?_) ?_) ?_) ?_) ?_) ?_) ?_
  all_goals decide +kernel

/-- The library over the one token. -/
def aliceJwt : Jwt String where
  encode _ _ := aliceToken
  decode token key audience _ now :=
    if token ≠ aliceToken then .error (.invalidToken "Not enough segments")
    else if key ≠ devSigner.secret then .error (.invalidToken "Signature verification failed")
    else (devSigner.check 3600 1700000000000000 audience now).elim (.ok aliceClaims) .error

/-- An hour later the same header is answered with 401. -/
theorem alice_authenticates_for_an_hour :
    (∀ now : Time, 1700000000000000 ≤ now → now < 1700003600000000 →
      getPrincipal (DevTokenVerifier.verify aliceJwt ⟨devSigner.secret, devSigner.audience⟩) now
        ("bEARER" ++ " " ++ "  " ++ aliceToken ++ "\t") =
      .ok ⟨.str "alice", .str "agent-1", .str "hr_agent", [.str "tools.read", .str "tools.invoke"],
        .str "", aliceClaims⟩) ∧
    ∀ now : Time, 1700003600000000 ≤ now →
      getPrincipal (DevTokenVerifier.verify aliceJwt ⟨devSigner.secret, devSigner.audience⟩) now
        ("bEARER" ++ " " ++ "  " ++ aliceToken ++ "\t") = .error (.unauthorized "token expired" true) := by
  have minted : DevTokenSigner.mint aliceJwt devSigner "alice" "agent-1" "hr_agent"
      ["tools.read", "tools.invoke"] 3600 1700000000000000 = aliceToken := rfl
  have reads (now : Time) : aliceJwt.decode aliceToken devSigner.secret devSigner.audience none now =
      (devSigner.check 3600 1700000000000000 devSigner.audience now).elim (.ok aliceClaims) .error := by
    simp [aliceJwt]
  have answered (now : Time) := (minted_token_authenticates aliceJwt devSigner "alice" "agent-1"
    "hr_agent" ["tools.read", "tools.invoke"] 3600 1700000000000000 now devSigner.audience "bEARER"
    "  " "\t" (minted ▸ solid_aliceToken) (minted ▸ reads now) (by decide) (by decide) (by decide)).1
  rw [minted] at answered
  have words : ["tools.read", "tools.invoke"].flatMap pySplit = ["tools.read", "tools.invoke"] := by
    decide
  have second : seconds 1700000000000000 * 1000000 = 1700000000000000 := rfl
  have last : (seconds 1700000000000000 + 3600) * 1000000 = 1700003600000000 := rfl
  rw [second, last, words] at answered
  constructor
  · intro now early late
    exact (answered now).trans (by rw [if_neg (Int.not_lt.2 early), if_neg (Int.not_le.2 late)]; rfl)
  · intro now late
    have begun : ¬ now < 1700000000000000 := Int.not_lt.2 (Int.le_trans (by decide) late)
    exact (answered now).trans (by rw [if_neg begun, if_pos late])

end Nervora
