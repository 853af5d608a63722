import CtpSystem.Domain.Types

/-!
# Client sessions and the access whitelist

`SessionManager` records which client is bound to which account and the
connection state of each account.  Its access rules come from the server
configuration; the permission checks read them and nothing else.
-/

namespace CtpSystem

/-- One connected trading terminal. -/
structure ClientSession where
  clientId : ClientId
  boundAccounts : List AccountId
  deriving DecidableEq

/-- Maps clients ↔ accounts and tracks the CTP connection state per account. -/
structure SessionManager where
  clients : HashMap String ClientSession := ∅
  accountStates : HashMap String ConnectionState := ∅
  accountSubscribers : HashMap String (List ClientId) := ∅
  accessRules : HashMap String (HashMap String ClientPermission) := ∅

namespace SessionManager

/-- Start a session record; a client that says hello again loses its bindings. -/
def registerClient (sessions : SessionManager) (clientId : ClientId) : SessionManager :=
  { sessions with
    clients := sessions.clients.insert clientId.asStr ⟨clientId, []⟩ }

/-- Record one whitelist entry; a later entry for the same pair replaces it. -/
def allowClientAccount (sessions : SessionManager) (clientId : ClientId)
    (accountId : AccountId) (permission : ClientPermission) : SessionManager :=
  let accounts := (sessions.accessRules.lookup clientId.asStr).getD ∅
  { sessions with
    accessRules :=
      sessions.accessRules.insert clientId.asStr
        (accounts.insert accountId.asStr permission) }

/-- Bind an account to a client, on both sides of the mapping. -/
def bindAccount (sessions : SessionManager) (clientId : ClientId)
    (accountId : AccountId) : SessionManager :=
  let clients :=
    match sessions.clients.lookup clientId.asStr with
    | none => sessions.clients
    | some session =>
        if accountId ∈ session.boundAccounts then sessions.clients
        else sessions.clients.insert clientId.asStr
          { session with boundAccounts := session.boundAccounts ++ [accountId] }
  let subscribers := (sessions.accountSubscribers.lookup accountId.asStr).getD []
  { sessions with
    clients := clients
    accountSubscribers :=
      sessions.accountSubscribers.insert accountId.asStr
        (if clientId ∈ subscribers then subscribers else subscribers ++ [clientId]) }

/-- Record the connection state of an account. -/
def setAccountState (sessions : SessionManager) (accountId : AccountId)
    (state : ConnectionState) : SessionManager :=
  { sessions with accountStates := sessions.accountStates.insert accountId.asStr state }

/-- The permission the whitelist gives a client on an account. -/
def permissionFor (sessions : SessionManager) (clientId : ClientId)
    (accountId : AccountId) : Option ClientPermission :=
  (sessions.accessRules.lookup clientId.asStr).bind (·.lookup accountId.asStr)

end SessionManager

/-- The variant name `{:?}` prints. -/
def ClientPermission.debug : ClientPermission → String
  | .full => "Full"
  | .queryOnly => "QueryOnly"
  | .tradeOnly => "TradeOnly"

/-- The error for a client without any entry for the account. -/
def permissionError (clientId : ClientId) (accountId : AccountId)
    (operation required : String) : String :=
  "permission denied: client " ++ clientId.asStr ++ " has no " ++ required ++
    " for account " ++ accountId.asStr ++ " while handling " ++ operation

/-- The error for a client whose entry does not cover the operation. -/
def permissionErrorWithMode (clientId : ClientId) (accountId : AccountId)
    (operation : String) (actual : ClientPermission) (required : String) : String :=
  "permission denied: client " ++ clientId.asStr ++ " has " ++ actual.debug ++
    " for account " ++ accountId.asStr ++ ", requires " ++ required ++
    " access for " ++ operation

/-- Permissions that allow queries. -/
def ClientPermission.allowsRead : ClientPermission → Bool
  | .full | .queryOnly => true
  | .tradeOnly => false

/-- Permissions that allow orders, cancels and logouts. -/
def ClientPermission.allowsWrite : ClientPermission → Bool
  | .full | .tradeOnly => true
  | .queryOnly => false

namespace SessionManager

/-- Any whitelist entry grants account access. -/
def ensureAccountAccess (sessions : SessionManager) (clientId : ClientId)
    (accountId : AccountId) (operation : String) : Except String Unit :=
  match sessions.permissionFor clientId accountId with
  | some _ => .ok ()
  | none => .error (permissionError clientId accountId operation "whitelist entry")

/-- Common part of the read and the write check. -/
def ensureMode (allows : ClientPermission → Bool) (mode : String)
    (sessions : SessionManager) (clientId : ClientId) (accountId : AccountId)
    (operation : String) : Except String Unit :=
  match sessions.permissionFor clientId accountId with
  | some permission =>
      if allows permission then .ok ()
      else .error (permissionErrorWithMode clientId accountId operation permission mode)
  | none => .error (permissionError clientId accountId operation (mode ++ " access"))

/-- Queries need `Full` or `QueryOnly`. -/
def ensureReadAccess : SessionManager → ClientId → AccountId → String → Except String Unit :=
  ensureMode ClientPermission.allowsRead "read"

/-- Orders, cancels and logouts need `Full` or `TradeOnly`. -/
def ensureWriteAccess : SessionManager → ClientId → AccountId → String → Except String Unit :=
  ensureMode ClientPermission.allowsWrite "write"

/-! ## What the checks decide -/

theorem ensureMode_ok_iff {allows : ClientPermission → Bool} {mode : String}
    {sessions : SessionManager} {clientId : ClientId} {accountId : AccountId}
    {operation : String} :
    ensureMode allows mode sessions clientId accountId operation = .ok () ↔
      ∃ permission, sessions.permissionFor clientId accountId = some permission ∧
        allows permission = true := by
  rw [ensureMode]
  cases sessions.permissionFor clientId accountId with
  | none => simp
  | some permission =>
      cases allowed : allows permission <;> simp [allowed]

theorem ensureAccountAccess_ok_iff {sessions : SessionManager} {clientId : ClientId}
    {accountId : AccountId} {operation : String} :
    sessions.ensureAccountAccess clientId accountId operation = .ok () ↔
      (sessions.permissionFor clientId accountId).isSome := by
  rw [ensureAccountAccess]
  cases sessions.permissionFor clientId accountId <;> simp

/-- A whitelist entry decides its own pair and no other. -/
theorem permissionFor_allowClientAccount (sessions : SessionManager)
    (clientId queryClient : ClientId) (accountId queryAccount : AccountId)
    (permission : ClientPermission) :
    (sessions.allowClientAccount clientId accountId permission).permissionFor
        queryClient queryAccount =
      if queryClient = clientId ∧ queryAccount = accountId then some permission
      else sessions.permissionFor queryClient queryAccount := by
  rcases clientId with ⟨client⟩
  rcases queryClient with ⟨query⟩
  rcases accountId with ⟨account⟩
  rcases queryAccount with ⟨queried⟩
  simp only [permissionFor, allowClientAccount, ClientId.mk.injEq, AccountId.mk.injEq]
  by_cases sameClient : query = client
  · subst sameClient
    rw [AList.lookup_insert, Option.bind_some]
    by_cases sameAccount : queried = account
    · subst sameAccount
      simp
    · rw [AList.lookup_insert_ne sameAccount]
      cases sessions.accessRules.lookup query <;> simp [sameAccount]
  · rw [AList.lookup_insert_ne sameClient]
    simp [sameClient]

end SessionManager

end CtpSystem
