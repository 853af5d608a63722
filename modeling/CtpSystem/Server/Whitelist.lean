import CtpSystem.Server.State

/-!
# The configured whitelist

`ServerActorState::from_config` turns the `[[clients]]` entries of the configuration
into access rules.  A pair of client and account is decided by the last entry that
names it, where ids are compared after trimming.
-/

namespace CtpSystem

/-- `char::is_whitespace`. -/
def isWhitespace (c : Char) : Bool :=
  (c.val ≥ 0x09 && c.val ≤ 0x0D) || c.val == 0x20 || c.val == 0x85 || c.val == 0xA0 ||
    c.val == 0x1680 || (c.val ≥ 0x2000 && c.val ≤ 0x200A) || c.val == 0x2028 ||
    c.val == 0x2029 || c.val == 0x202F || c.val == 0x205F || c.val == 0x3000

/-- `str::trim`. -/
def trim (value : String) : String :=
  String.ofList
    ((value.toList.dropWhile isWhitespace).reverse.dropWhile isWhitespace).reverse

example : trim " 1001\t\n" = "1001" := by decide

/-- One `[[clients]]` entry. -/
structure ClientAccessConfig where
  clientId : String
  accounts : List String
  permission : ClientPermission
  deriving DecidableEq

/-- The part of the server configuration that decides access. -/
structure ServerConfig where
  clients : List ClientAccessConfig
  deriving DecidableEq

/-- The inner loop of `from_config`. -/
def allowAccounts (client : ClientAccessConfig) (state : ServerActorState) :
    ServerActorState :=
  client.accounts.foldl
    (fun state account =>
      { state with
        sessions := state.sessions.allowClientAccount ⟨trim client.clientId⟩ ⟨trim account⟩
          client.permission })
    state

/-- `ServerActorState::from_config`. -/
def ServerActorState.fromConfig (config : ServerConfig) : ServerActorState :=
  config.clients.foldl (fun state client => allowAccounts client state) {}

/-- An entry names a client and an account. -/
def ClientAccessConfig.names (client : ClientAccessConfig) (clientId : ClientId)
    (accountId : AccountId) : Bool :=
  trim client.clientId = clientId.asStr && (client.accounts.map trim).contains accountId.asStr

/-- The last entry that names a client and an account. -/
def ServerConfig.lastEntry (config : ServerConfig) (clientId : ClientId)
    (accountId : AccountId) : Option ClientAccessConfig :=
  config.clients.reverse.find? (·.names clientId accountId)

/-! ## The access rules of a configuration -/

/-- One entry decides the pairs it names and no others. -/
theorem permissionFor_allowAccounts (client : ClientAccessConfig) (state : ServerActorState)
    (clientId : ClientId) (accountId : AccountId) :
    (allowAccounts client state).sessions.permissionFor clientId accountId =
      if client.names clientId accountId then some client.permission
      else state.sessions.permissionFor clientId accountId := by
  rcases client with ⟨name, accounts, permission⟩
  rcases clientId with ⟨queriedClient⟩
  rcases accountId with ⟨queried⟩
  simp only [allowAccounts, ClientAccessConfig.names]
  induction accounts generalizing state with
  | nil => simp
  | cons account rest ih =>
      rw [List.foldl_cons, ih]
      simp only [SessionManager.permissionFor_allowClientAccount, List.map_cons,
        List.contains_cons, ClientId.mk.injEq, AccountId.mk.injEq]
      by_cases sameClient : trim name = queriedClient
      · by_cases sameAccount : queried = trim account
        · simp [sameClient, sameAccount]
        · simp [sameClient, sameAccount]
      · have otherClient : queriedClient ≠ trim name := fun equal => sameClient equal.symm
        simp [sameClient, otherClient]

/-- The entries decide a pair by the last of them that names it. -/
theorem permissionFor_allowAll (clients : List ClientAccessConfig) (state : ServerActorState)
    (clientId : ClientId) (accountId : AccountId) :
    (clients.foldl (fun state client => allowAccounts client state)
        state).sessions.permissionFor clientId accountId =
      ((clients.reverse.find? (·.names clientId accountId)).map (·.permission)).or
        (state.sessions.permissionFor clientId accountId) := by
  induction clients generalizing state with
  | nil => rfl
  | cons client rest ih =>
      rw [List.foldl_cons, ih, permissionFor_allowAccounts, List.reverse_cons,
        List.find?_append]
      cases later : rest.reverse.find? (·.names clientId accountId) with
      | some entry => simp
      | none => cases named : client.names clientId accountId <;> simp [named]

/-- What does not depend on the access rules is in a configured state as in an empty
one. -/
theorem fromConfig_frame {α : Type} (read : ServerActorState → α)
    (blind : ∀ state clientId accountId permission,
      read { state with
        sessions := state.sessions.allowClientAccount clientId accountId permission } =
          read state)
    (config : ServerConfig) : read (.fromConfig config) = read {} := by
  have kept (client : ClientAccessConfig) (state : ServerActorState) :
      read (allowAccounts client state) = read state := by
    rw [allowAccounts]
    induction client.accounts generalizing state with
    | nil => rfl
    | cons account rest ih => rw [List.foldl_cons, ih, blind]
  have keptAll (clients : List ClientAccessConfig) (state : ServerActorState) :
      read (clients.foldl (fun state client => allowAccounts client state) state) =
        read state := by
    induction clients generalizing state with
    | nil => rfl
    | cons client rest ih => rw [List.foldl_cons, ih, kept]
  exact keptAll config.clients {}

/-- Access rules start no actors. -/
theorem tradeSessions_fromConfig (config : ServerConfig) :
    (ServerActorState.fromConfig config).tradeSessions = ∅ :=
  fromConfig_frame (·.tradeSessions) (fun _ _ _ _ => rfl) config

/-- The whitelist of a fresh server state is the configured one. -/
theorem permissionFor_fromConfig (config : ServerConfig) (clientId : ClientId)
    (accountId : AccountId) :
    (ServerActorState.fromConfig config).sessions.permissionFor clientId accountId =
      (config.lastEntry clientId accountId).map (·.permission) := by
  rw [ServerActorState.fromConfig, permissionFor_allowAll, ServerConfig.lastEntry]
  exact Option.or_none

end CtpSystem
