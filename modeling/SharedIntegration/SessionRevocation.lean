import SharedIntegration.HostileCredentials

/-!
# Revoking a session over HTTP

`revoke_session` as a sequence of transactions beside the exchanges and the administrative operations.
The bearer token is tried as a session of its own and then as an identity client, which names its target
in the body; each credential is read in one transaction and the target is revoked in a later one.
-/

namespace SharedIntegration

open Relational Transition

namespace Revocation

/-- The body of a revocation request, or nothing if it does not validate. -/
def parseBody : Option (Option String) → Option (Option SessionRevokeRequest)
  | none => some none
  | some none => some (some ⟨none, by simp⟩)
  | some (some text) =>
    if h : 40 ≤ text.length ∧ text.length ≤ 80 then some (some ⟨some text, by simpa using h⟩) else none

/-- The bearer token, or the empty text. -/
def bearer (request : RevokeCall) : String := request.token.getD ""

/-- The local variables of the handler. -/
structure Locals where
  sessionPrincipal : Option UserSessionPrincipal
  bridge : Option IdentityClientPrincipal
  target : Option UserSessionPrincipal

/-- Where the handler stands: the transaction that comes next, and what earlier ones returned. -/
inductive Pc
  | authenticatingSession
  | revokingOwn (principal : UserSessionPrincipal)
  | authenticatingClient
  | authenticatingTarget (bridge : IdentityClientPrincipal) (text : String)
  | revokingTarget (bridge : IdentityClientPrincipal) (target : UserSessionPrincipal)
  | answered (answer : JsonAnswer) (locals : Locals)

/-- What the handler has bound to its local variables. -/
def Pc.locals : Pc → Locals
  | .authenticatingSession | .authenticatingClient => ⟨none, none, none⟩
  | .revokingOwn principal => ⟨some principal, none, none⟩
  | .authenticatingTarget bridge _ => ⟨none, some bridge, none⟩
  | .revokingTarget bridge target => ⟨none, some bridge, some target⟩
  | .answered _ locals => locals

/-- A call of the handler. -/
structure Call where
  request : RevokeCall
  pc : Pc

/-- The answer to a body that is not accepted. -/
def validationFailed (requestId : String) : JsonAnswer :=
  errorAnswer 422 "VALIDATION_ERROR" "Request validation failed" requestId false []

/-- The actor that a session revokes itself as. -/
def sessionActor (principal : UserSessionPrincipal) : String :=
  "user:" ++ principal.userId ++ ";session:" ++ principal.sessionId ++ ";client:" ++ principal.identityClientId

/-- The call on arrival; a body that does not validate is answered at once, and so is every other
request without a repository. -/
def Call.arrive (configured : Bool) (token : Option String) (body : Option (Option String))
    (requestId : String) : Call :=
  match parseBody body with
  | none => ⟨⟨token, none, requestId⟩, .answered (validationFailed requestId) ⟨none, none, none⟩⟩
  | some body =>
    let request : RevokeCall := ⟨token, body, requestId⟩
    ⟨request, if configured then .authenticatingSession else .answered request.unavailable ⟨none, none, none⟩⟩

/-- What an accepted session may do: revoke itself, unless the body names another token. -/
def ownDecision (request : RevokeCall) (principal : UserSessionPrincipal) : Pc :=
  match request.named with
  | none => .revokingOwn principal
  | some text =>
    match compareDigest text (bearer request) with
    | .error _ => .answered Exchange.serverError ⟨some principal, none, none⟩
    | .ok false => .answered request.accessDenied ⟨some principal, none, none⟩
    | .ok true => .revokingOwn principal

/-- The next transaction of a call. -/
def Call.advance (lib : SecretLibrary) (db : IdentityDatabase) (draw : IdentityDraw) (call : Call) :
    Option (IdentityDatabase × Pc) :=
  let request := call.request
  match call.pc with
  | .answered _ _ => none
  | .authenticatingSession =>
    match Identity.authenticateUserSession lib db draw.now (bearer request) with
    | (db', none) => some (db', .authenticatingClient)
    | (db', some principal) => some (db', ownDecision request principal)
  | .revokingOwn principal =>
    some ((Identity.revokeUserSession db draw principal.tenantId principal.sessionId (sessionActor principal)
      (some request.requestId)).1, .answered RevokeCall.revoked call.pc.locals)
  | .authenticatingClient =>
    match Identity.authenticateIdentityClient lib db draw.now (bearer request) none, request.named with
    | (db', some bridge), some text => some (db', .authenticatingTarget bridge text)
    | (db', bridge), _ => some (db', .answered request.authenticationFailed ⟨none, bridge, none⟩)
  | .authenticatingTarget bridge text =>
    match Identity.authenticateUserSession lib db draw.now text with
    | (db', none) => some (db', .answered request.authenticationFailed call.pc.locals)
    | (db', some target) =>
      if target.identityClientId = bridge.identityClientId then some (db', .revokingTarget bridge target)
      else some (db', .answered request.authenticationFailed ⟨none, some bridge, some target⟩)
  | .revokingTarget bridge target =>
    some ((Identity.revokeUserSession db draw target.tenantId target.sessionId (Exchange.clientActor bridge)
      (some request.requestId)).1, .answered RevokeCall.revoked call.pc.locals)

/-- The exchanges and the revocations in progress on one database. -/
structure System extends Exchange.System where
  revocations : List Call

/-- What can happen next. -/
inductive Label
  | exchange (label : Exchange.Label)
  | start (token : Option String) (body : Option (Option String)) (requestId : String)
  | advance (index : ℕ) (draw : IdentityDraw)

/-- Perform one step of an exchange or of a revocation, or one administrative operation. -/
def System.step (lib : SecretLibrary) (configured : Bool) (s : System) : Label → Option System
  | .exchange label => do
    let exchanges ← s.toSystem.step lib configured label
    return { s with toSystem := exchanges }
  | .start token body requestId =>
    some { s with revocations := s.revocations ++ [Call.arrive configured token body requestId] }
  | .advance index draw => do
    guard (Exchange.Fresh s.drawn draw)
    let call ← s.revocations[index]?
    let (db, pc) ← call.advance lib s.db draw
    return ⟨⟨db, s.calls, s.drawn ++ [draw]⟩, s.revocations.set index ⟨call.request, pc⟩⟩

section

variable {lib : SecretLibrary} {configured : Bool} {s s' : System} {index : ℕ} {draw : IdentityDraw}

/-- The exchanges make a step of their own. -/
theorem System.step_exchange {label : Exchange.Label} (h : s.step lib configured (.exchange label) = some s') :
    ∃ exchanges, s.toSystem.step lib configured label = some exchanges ∧ s' = { s with toSystem := exchanges } := by
  simp only [System.step, Option.bind_eq_bind, Option.bind_eq_some_iff, Option.pure_def, Option.some.injEq] at h
  obtain ⟨exchanges, hexchange, rfl⟩ := h
  exact ⟨exchanges, hexchange, rfl⟩

/-- The next transaction of a revocation runs, with a fresh draw. -/
theorem System.step_advance (h : s.step lib configured (.advance index draw) = some s') :
    Exchange.Fresh s.drawn draw ∧ ∃ call db pc, s.revocations[index]? = some call ∧
      call.advance lib s.db draw = some (db, pc) ∧
      s' = ⟨⟨db, s.calls, s.drawn ++ [draw]⟩, s.revocations.set index ⟨call.request, pc⟩⟩ := by
  simp only [System.step, Option.bind_eq_bind, Option.bind_eq_some_iff, Option.guard_eq_some', Option.pure_def,
    Option.some.injEq] at h
  obtain ⟨_, hfresh, call, hcall, ⟨db, pc⟩, hadvance, rfl⟩ := h
  exact ⟨hfresh, call, db, pc, hcall, hadvance, rfl⟩

end

/-- Nothing has happened yet on a freshly migrated database. -/
def System.initial : System := ⟨.initial .empty, []⟩

/-- The sessions whose `revoked_at` is set between two databases, as they were before. -/
def stampedBetween (db db' : IdentityDatabase) : List UserSessionRow :=
  db.userSessions.rows.filter fun row => row.revokedAt.isNone &&
    db'.userSessions.rows.any fun row' => row'.id = row.id && row'.revokedAt.isSome

/-- The sessions whose `revoked_at` a step of this revocation sets. -/
def stamped (lib : SecretLibrary) (configured : Bool) (index : ℕ) (s : System) (l : Label) :
    List UserSessionRow :=
  match l with
  | .advance i _ => if i = index then (s.step lib configured l).elim [] fun s' => stampedBetween s.db s'.db else []
  | _ => []

/-- Perform the transactions of one call, with what other calls do before each of them. -/
def drive (lib : SecretLibrary) (world : Surroundings) : (fuel index : ℕ) → IdentityDatabase → Call →
    IdentityDatabase × Call
  | 0, _, db, call => (db, call)
  | fuel + 1, index, db, call =>
    match call.advance lib (world.others index db) (world.draws index) with
    | none => (db, call)
    | some (db', pc) => drive lib world fuel (index + 1) db' ⟨call.request, pc⟩

/-- What the server answers. -/
def served : Except AuthError JsonAnswer → JsonAnswer
  | .ok answer => answer
  | .error _ => Exchange.serverError

/-- A call that is answered has no further transaction. -/
theorem drive_answered (lib : SecretLibrary) (world : Surroundings) (fuel index : ℕ) (db : IdentityDatabase)
    (request : RevokeCall) (answer : JsonAnswer) (locals : Locals) :
    drive lib world fuel index db ⟨request, .answered answer locals⟩ =
      (db, ⟨request, .answered answer locals⟩) := by
  cases fuel with
  | zero => rfl
  | succ fuel => rfl

/-- The next transaction of a call comes before the others. -/
theorem drive_succ {lib : SecretLibrary} {world : Surroundings} {fuel index : ℕ} {db db' : IdentityDatabase}
    {call : Call} {pc : Pc} (h : call.advance lib (world.others index db) (world.draws index) = some (db', pc)) :
    drive lib world (fuel + 1) index db call = drive lib world fuel (index + 1) db' ⟨call.request, pc⟩ := by
  rw [drive, h]

/-- A session revokes itself in one more transaction, if at all. -/
theorem drive_ownDecision (lib : SecretLibrary) (world : Surroundings) (fuel : ℕ) (db : IdentityDatabase)
    (request : RevokeCall) (principal : UserSessionPrincipal) :
    ∃ locals, drive lib world (fuel + 1) 1 db ⟨request, ownDecision request principal⟩ =
      ((RevokeCall.bySession world db request principal).1,
        ⟨request, .answered (served (RevokeCall.bySession world db request principal).2) locals⟩) := by
  have hrevoking : drive lib world (fuel + 1) 1 db ⟨request, .revokingOwn principal⟩ =
      ((RevokeCall.revoke world db 1 request principal (sessionActor principal)).1,
        ⟨request, .answered RevokeCall.revoked ⟨some principal, none, none⟩⟩) :=
    drive_answered lib world fuel 2 _ request _ _
  unfold ownDecision RevokeCall.bySession bearer
  cases request.named with
  | none => exact ⟨_, hrevoking⟩
  | some text =>
    dsimp only
    cases compareDigest text (request.token.getD "") with
    | error e => exact ⟨_, drive_answered lib world (fuel + 1) 1 db request _ _⟩
    | ok same =>
      cases same with
      | false => exact ⟨_, drive_answered lib world (fuel + 1) 1 db request _ _⟩
      | true => exact ⟨_, hrevoking⟩

/-- An identity client revokes its target in three more transactions, if at all. -/
theorem drive_byBridge (lib : SecretLibrary) (world : Surroundings) (db : IdentityDatabase)
    (request : RevokeCall) :
    ∃ locals, drive lib world 3 1 db ⟨request, .authenticatingClient⟩ =
      ((RevokeCall.byBridge lib world db request).1,
        ⟨request, .answered (served (RevokeCall.byBridge lib world db request).2) locals⟩) := by
  unfold RevokeCall.byBridge
  cases hclient : Identity.authenticateIdentityClient lib (world.others 1 db) (world.draws 1).now
    (request.token.getD "") none with
  | mk db₁ bridge =>
    cases bridge with
    | none =>
      refine ⟨⟨none, none, none⟩, (drive_succ ?_).trans (drive_answered lib world 2 2 db₁ request _ _)⟩
      simp [Call.advance, bearer, hclient, served]
    | some bridge =>
      cases hnamed : request.named with
      | none =>
        refine ⟨⟨none, some bridge, none⟩, (drive_succ ?_).trans (drive_answered lib world 2 2 db₁ request _ _)⟩
        simp [Call.advance, bearer, hclient, hnamed, served]
      | some text =>
        have hnext : drive lib world 3 1 db ⟨request, .authenticatingClient⟩ =
            drive lib world 2 2 db₁ ⟨request, .authenticatingTarget bridge text⟩ :=
          drive_succ (by simp [Call.advance, bearer, hclient, hnamed])
        rw [hnext]
        dsimp only
        cases htarget : Identity.authenticateUserSession lib (world.others 2 db₁) (world.draws 2).now text with
        | mk db₂ target =>
          cases target with
          | none =>
            refine ⟨⟨none, some bridge, none⟩, (drive_succ ?_).trans (drive_answered lib world 1 3 db₂ request _ _)⟩
            simp [Call.advance, htarget, served, Pc.locals]
          | some target =>
            by_cases hissuer : target.identityClientId = bridge.identityClientId
            · have hrevoking : drive lib world 2 2 db₁ ⟨request, .authenticatingTarget bridge text⟩ =
                  drive lib world 1 3 db₂ ⟨request, .revokingTarget bridge target⟩ :=
                drive_succ (by simp [Call.advance, htarget, hissuer])
              rw [hrevoking]
              simp only [hissuer, ne_eq, not_true_eq_false, if_false]
              exact ⟨_, drive_answered lib world 0 4 _ request _ _⟩
            · simp only [ne_eq, hissuer, not_false_eq_true, if_true]
              refine ⟨⟨none, some bridge, some target⟩,
                (drive_succ ?_).trans (drive_answered lib world 1 3 db₂ request _ _)⟩
              simp [Call.advance, htarget, hissuer, served]

/-- Four transactions at most perform the whole handler. -/
theorem drive_eq_revokeSession (lib : SecretLibrary) (world : Surroundings) (db : IdentityDatabase)
    (request : RevokeCall) :
    ∃ locals, drive lib world 4 0 db ⟨request, .authenticatingSession⟩ =
      ((RevokeCall.revokeSession lib true world db request).1,
        ⟨request, .answered (served (RevokeCall.revokeSession lib true world db request).2) locals⟩) := by
  unfold RevokeCall.revokeSession
  rw [if_pos rfl]
  cases hsession : Identity.authenticateUserSession lib (world.others 0 db) (world.draws 0).now
    (request.token.getD "") with
  | mk db₁ principal =>
    cases principal with
    | none =>
      obtain ⟨locals, hrest⟩ := drive_byBridge lib world db₁ request
      exact ⟨locals, (drive_succ (by simp [Call.advance, bearer, hsession])).trans hrest⟩
    | some principal =>
      obtain ⟨locals, hrest⟩ := drive_ownDecision lib world 2 db₁ request principal
      exact ⟨locals, (drive_succ (by simp [Call.advance, bearer, hsession])).trans hrest⟩

end Revocation

end SharedIntegration
