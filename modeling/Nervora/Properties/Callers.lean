import Nervora.Auth.Tokens

/-!
# Callers from verified claims

## Main result

`claims_settled_iff`: claims are refused or make a principal that the gateway can work with exactly
when the scopes can be made a tuple of and, if a role is claimed, every claim that is read is a
text. The function never looks at a type: a number among the scopes raises, and a role that is a
list is handed on to a policy that cannot look it up.

## Proof strategy

The chains of fall-backs pick the first claim that is not empty. What they pick decides everything.
-/
namespace Nervora

/-! ### Well-formed callers -/

/-- The fields are the texts that the gateway works with. -/
structure ClaimedPrincipal.Represents (claimed : ClaimedPrincipal) (principal : Principal) : Prop where
  subject : claimed.subject = .str principal.subject
  agentId : claimed.agentId = .str principal.agentId
  role : claimed.role = .str principal.role
  named : principal.role ≠ ""
  tenantId : ∃ tenantId, claimed.tenantId = .str tenantId
  scopes : ∀ scope ∈ claimed.scopes, ∃ s, scope = .str s

/-- Refused, or well formed and evaluated like any other caller. -/
def Settled (claims : Obj) : Prop :=
  match principalFromClaims claims with
  | .error (.auth _ _) => True
  | .error (.raised _) => False
  | .ok claimed => ∃ principal, claimed.Represents principal ∧
      ∀ py requiredRoles knownRoles toolEnabled,
        evaluateClaimed py claimed.role requiredRoles knownRoles toolEnabled =
          .ok (evaluate py principal.role requiredRoles knownRoles toolEnabled)

/-! ### Well-typed claims -/

/-- The first of the claims that is not empty. -/
def firstClaim (claims : Obj) (names : List String) : Option Json :=
  (names.map (claim claims)).find? Json.truthy

def IsText (v : Json) : Prop := ∃ s, v = .str s

/-- What the claims must be for the caller of a role. -/
structure TypedCaller (claims : Obj) : Prop where
  role : ∀ v, firstClaim claims ["agent_role", "role"] = some v → IsText v
  agentId : ∀ v, firstClaim claims ["agent_id", "azp"] = some v → IsText v
  subject : ∀ v, Obj.get claims "sub" = some v → IsText v
  tenantId : ∀ v, Obj.get claims "tid" = some v → IsText v
  scopes : ∀ items, firstClaim claims ["scp", "scope"] = some (.arr items) → ∀ scope ∈ items, IsText scope

structure TypedClaims (claims : Obj) : Prop where
  /-- Scopes are a text, a list or an object. -/
  scopes : ∀ v, firstClaim claims ["scp", "scope"] = some v →
    IsText v ∨ (∃ items, v = .arr items) ∨ ∃ fields, v = .obj fields
  caller : firstClaim claims ["agent_role", "role"] ≠ none → TypedCaller claims

/-! ### The chains -/

private theorem chain_eq (claims : Obj) (first second : String) (rest : Json) :
    (claim claims first).or ((claim claims second).or rest) =
      (firstClaim claims [first, second]).getD rest := by
  unfold Json.or firstClaim
  cases here : (claim claims first).truthy <;> cases next : (claim claims second).truthy <;>
    simp [here, next]

private theorem truthy_of_first {claims : Obj} {names : List String} {v : Json}
    (found : firstClaim claims names = some v) : v.truthy = true := List.find?_some found

private theorem isText_claimOrEmpty {claims : Obj} {name : String} :
    IsText (claimOrEmpty claims name) ↔ ∀ v, Obj.get claims name = some v → IsText v := by
  unfold claimOrEmpty
  cases Obj.get claims name with
  | none => simp [IsText]
  | some v => simp

/-- The scopes of a text or of an object are texts. -/
private theorem scopesOf_ok_iff {v : Json} {scopes : List Json} (made : scopesOf v = .ok scopes) :
    (∀ scope ∈ scopes, IsText scope) ↔ ∀ items, v = .arr items → ∀ scope ∈ items, IsText scope := by
  cases v with
  | str s =>
    cases made
    simp [IsText]
  | arr items =>
    cases made
    simp
  | obj fields =>
    cases made
    simp only [reduceCtorEq, false_implies, implies_true, iff_true]
    intro scope member
    obtain ⟨entry, _, rfl⟩ := List.mem_map.mp member
    exact ⟨entry.1, rfl⟩
  | null | bool _ | int _ | float _ => cases made

private theorem scopesOf_isOk {v : Json} :
    (∃ scopes, scopesOf v = .ok scopes) ↔
      IsText v ∨ (∃ items, v = .arr items) ∨ ∃ fields, v = .obj fields := by
  cases v <;> simp [scopesOf, IsText]

/-- What the claims of a role come to, once the scopes are there. -/
private theorem represents_iff {claims : Obj} {role : Json} {scopes : List Json}
    (claimed : firstClaim claims ["agent_role", "role"] = some role)
    (made : scopesOf ((firstClaim claims ["scp", "scope"]).getD (.str "")) = .ok scopes) :
    (∃ principal, ClaimedPrincipal.Represents
      { subject := claimOrEmpty claims "sub"
        agentId := (firstClaim claims ["agent_id", "azp"]).getD (claimOrEmpty claims "sub")
        role
        scopes
        tenantId := claimOrEmpty claims "tid"
        rawClaims := claims } principal) ↔ TypedCaller claims := by
  constructor
  · rintro ⟨principal, subject, agentId, text, _, tenantId, texts⟩
    refine ⟨?_, ?_, isText_claimOrEmpty.mp ⟨_, subject⟩, isText_claimOrEmpty.mp tenantId, ?_⟩
    · intro v first
      cases claimed.symm.trans first
      exact ⟨_, text⟩
    · intro v first
      rw [first] at agentId
      exact ⟨_, agentId⟩
    · intro items first
      rw [first] at made
      exact (scopesOf_ok_iff made).mp texts items rfl
  · intro typed
    obtain ⟨name, text⟩ := typed.role role claimed
    have subject : IsText (claimOrEmpty claims "sub") := isText_claimOrEmpty.mpr typed.subject
    -- The subject stands in for an agent that is not named.
    have agentId : IsText ((firstClaim claims ["agent_id", "azp"]).getD (claimOrEmpty claims "sub")) := by
      cases first : firstClaim claims ["agent_id", "azp"] with
      | none => exact subject
      | some v => exact typed.agentId v first
    have texts : ∀ scope ∈ scopes, IsText scope := by
      refine (scopesOf_ok_iff made).mpr ?_
      intro items picked
      cases first : firstClaim claims ["scp", "scope"] with
      | none =>
        rw [first] at picked
        cases picked
      | some v =>
        rw [first] at picked
        exact typed.scopes items (first.trans (congrArg some picked))
    obtain ⟨sub, subject⟩ := subject
    obtain ⟨agent, agentId⟩ := agentId
    refine ⟨⟨sub, agent, name⟩, subject, agentId, text, ?_, isText_claimOrEmpty.mpr typed.tenantId, texts⟩
    -- A role that is picked is not empty.
    rintro rfl
    have truthy := truthy_of_first claimed
    rw [text] at truthy
    cases truthy

theorem claims_settled_iff (claims : Obj) : Settled claims ↔ TypedClaims claims := by
  unfold Settled principalFromClaims
  rw [chain_eq, chain_eq, chain_eq]
  cases made : scopesOf ((firstClaim claims ["scp", "scope"]).getD (.str "")) with
  | error exc =>
    -- The exception escapes whatever the other claims are.
    refine iff_of_false id ?_
    intro typed
    have fine : ∃ scopes, scopesOf ((firstClaim claims ["scp", "scope"]).getD (.str "")) = .ok scopes := by
      cases first : firstClaim claims ["scp", "scope"] with
      | none => exact ⟨_, rfl⟩
      | some v => exact scopesOf_isOk.mpr (typed.scopes v first)
    obtain ⟨scopes, fine⟩ := fine
    rw [made] at fine
    cases fine
  | ok scopes =>
    have iterable : ∀ v, firstClaim claims ["scp", "scope"] = some v →
        IsText v ∨ (∃ items, v = .arr items) ∨ ∃ fields, v = .obj fields := by
      intro v first
      rw [first] at made
      exact scopesOf_isOk.mp ⟨scopes, made⟩
    cases claimed : firstClaim claims ["agent_role", "role"] with
    | none =>
      -- Without a role the caller is refused, and nothing is asked of the other claims.
      refine iff_of_true trivial ⟨iterable, ?_⟩
      intro some_role
      exact absurd claimed some_role
    | some role =>
      have shown : (!((some role).getD (.str "")).truthy) = false := by
        simpa using truthy_of_first claimed
      simp only [shown, Bool.false_eq_true, if_false]
      have typed_iff : TypedClaims claims ↔ TypedCaller claims := by
        constructor
        · intro typed
          exact typed.caller (by simp [claimed])
        · intro typed
          exact ⟨iterable, fun _ => typed⟩
      rw [typed_iff, ← represents_iff claimed made]
      constructor
      · rintro ⟨principal, represents, _⟩
        exact ⟨principal, represents⟩
      · rintro ⟨principal, represents⟩
        refine ⟨principal, represents, ?_⟩
        intro py requiredRoles knownRoles toolEnabled
        have text : role = .str principal.role := represents.role
        rw [Option.getD_some, text]
        rfl

/-- Claims that are well typed and make a caller make a well-formed one. -/
theorem TypedClaims.represents {claims : Obj} (typed : TypedClaims claims) {claimed : ClaimedPrincipal}
    (made : principalFromClaims claims = .ok claimed) : ∃ principal, claimed.Represents principal := by
  have settled := (claims_settled_iff claims).mpr typed
  unfold Settled at settled
  rw [made] at settled
  obtain ⟨principal, represents, _⟩ := settled
  exact ⟨principal, represents⟩

/-- A role in a list is handed on, and the policy raises over it. A number for the scopes raises
before the role is looked at. -/
theorem badly_typed_claims_raise :
    (¬ Settled [("sub", .str "alice"), ("agent_role", .arr [.str "hr_agent"])] ∧
      ∀ py requiredRoles knownRoles toolEnabled, ∃ exc,
        evaluateClaimed py (.arr [.str "hr_agent"]) requiredRoles knownRoles toolEnabled = .error exc) ∧
    ¬ Settled [("sub", .str "alice"), ("agent_role", .str "hr_agent"), ("scp", .int 1)] := by
  refine ⟨⟨?_, fun _ _ _ _ => ⟨_, rfl⟩⟩, id⟩
  rintro ⟨principal, represents, _⟩
  cases represents.role

end Nervora
