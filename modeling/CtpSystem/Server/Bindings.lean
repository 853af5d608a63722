import CtpSystem.Server.Access

/-!
# Clients and their accounts

`SessionManager` keeps the mapping between clients and accounts twice: the bound accounts in
a client's session, the subscribers under an account.  Binding writes both sides, but the
first only for a registered client, and registering a client again clears the first alone.
-/

namespace CtpSystem

open Reactive

theorem ClientId.eq_of_asStr {first second : ClientId} (same : first.asStr = second.asStr) :
    first = second := by
  cases first
  exact congrArg ClientId.mk same

theorem AccountId.eq_of_asStr {first second : AccountId} (same : first.asStr = second.asStr) :
    first = second := by
  cases first
  exact congrArg AccountId.mk same

/-- The operations on the sessions. -/
inductive SessionCall where
  | registerClient (clientId : ClientId)
  | allowClientAccount (clientId : ClientId) (accountId : AccountId)
      (permission : ClientPermission)
  | bindAccount (clientId : ClientId) (accountId : AccountId)
  | setAccountState (accountId : AccountId) (state : ConnectionState)
  deriving DecidableEq

namespace SessionManager

/-- Perform an operation. -/
def perform (sessions : SessionManager) : SessionCall → SessionManager
  | .registerClient clientId => sessions.registerClient clientId
  | .allowClientAccount clientId accountId permission =>
      sessions.allowClientAccount clientId accountId permission
  | .bindAccount clientId accountId => sessions.bindAccount clientId accountId
  | .setAccountState accountId state => sessions.setAccountState accountId state

/-- Sessions under any sequence of operations. -/
def machine : Machine SessionManager SessionCall Empty where
  init := {}
  step sessions call := (sessions.perform call, [])

/-! ## The two sides -/

/-- The bound accounts of a client; a client without a session has none. -/
def boundTo (sessions : SessionManager) (clientId : ClientId) : List AccountId :=
  (sessions.clients.lookup clientId.asStr).elim [] (·.boundAccounts)

/-- The subscribers of an account. -/
def subscribers (sessions : SessionManager) (accountId : AccountId) : List ClientId :=
  (sessions.accountSubscribers.lookup accountId.asStr).getD []

/-- An account is bound to a client exactly when the client subscribes to it. -/
def TwoWay (sessions : SessionManager) : Prop :=
  ∀ clientId accountId,
    accountId ∈ sessions.boundTo clientId ↔ clientId ∈ sessions.subscribers accountId

/-- No list on either side has duplicates. -/
structure NoDuplicates (sessions : SessionManager) : Prop where
  bound : ∀ clientId, (sessions.boundTo clientId).Nodup
  subscribed : ∀ accountId, (sessions.subscribers accountId).Nodup

section Calls

variable (sessions : SessionManager) (clientId : ClientId) (accountId : AccountId)

theorem boundTo_registerClient (query : ClientId) :
    (sessions.registerClient clientId).boundTo query =
      if query = clientId then [] else sessions.boundTo query := by
  by_cases same : query = clientId
  · subst same
    simp [boundTo, registerClient]
  · have different : query.asStr ≠ clientId.asStr := fun equal =>
      same (ClientId.eq_of_asStr equal)
    simp [boundTo, registerClient, same, AList.lookup_insert_ne different]

/-- Binding puts the account at the end of a registered client's list, once. -/
theorem boundTo_bindAccount (query : ClientId) :
    (sessions.bindAccount clientId accountId).boundTo query =
      if query = clientId ∧ clientId.asStr ∈ sessions.clients ∧
          accountId ∉ sessions.boundTo clientId then
        sessions.boundTo clientId ++ [accountId]
      else sessions.boundTo query := by
  rcases Option.eq_none_or_eq_some (sessions.clients.lookup clientId.asStr) with
    unknown | ⟨session, found⟩
  · have unregistered : clientId.asStr ∉ sessions.clients := AList.lookup_eq_none.mp unknown
    rw [if_neg fun added => unregistered added.2.1]
    simp only [boundTo, bindAccount, unknown]
  · have registered : clientId.asStr ∈ sessions.clients :=
      AList.lookup_isSome.mp (by rw [found, Option.isSome_some])
    have list : sessions.boundTo clientId = session.boundAccounts := by
      rw [boundTo, found]
      rfl
    by_cases bound : accountId ∈ session.boundAccounts
    · rw [if_neg fun added => added.2.2 (list ▸ bound)]
      simp only [boundTo, bindAccount, found, if_pos bound]
    · by_cases same : query = clientId
      · subst same
        rw [if_pos ⟨rfl, registered, list ▸ bound⟩, list]
        simp [boundTo, bindAccount, found, bound]
      · have different : query.asStr ≠ clientId.asStr := fun equal =>
          same (ClientId.eq_of_asStr equal)
        rw [if_neg fun added => same added.1]
        simp [boundTo, bindAccount, found, bound, AList.lookup_insert_ne different]

/-- Binding puts the client at the end of the account's list, once. -/
theorem subscribers_bindAccount (query : AccountId) :
    (sessions.bindAccount clientId accountId).subscribers query =
      if query = accountId ∧ clientId ∉ sessions.subscribers accountId then
        sessions.subscribers accountId ++ [clientId]
      else sessions.subscribers query := by
  simp only [subscribers, bindAccount]
  by_cases same : query = accountId
  · subst same
    simp only [AList.lookup_insert, Option.getD_some, true_and]
    split <;> simp_all
  · have different : query.asStr ≠ accountId.asStr := fun equal =>
      same (AccountId.eq_of_asStr equal)
    simp [same, AList.lookup_insert_ne different]

end Calls

/-! ## What each operation does to them -/

/-- An operation writes both sides or neither: a client is registered while it has no bound
account, and an account is bound to a registered client. -/
def WritesBoth (sessions : SessionManager) : SessionCall → Prop
  | .registerClient clientId => sessions.boundTo clientId = []
  | .bindAccount clientId _ => clientId.asStr ∈ sessions.clients
  | .allowClientAccount _ _ _ | .setAccountState _ _ => True

/-- Duplicates never appear. -/
theorem noDuplicates_perform {sessions : SessionManager} (distinct : sessions.NoDuplicates)
    (call : SessionCall) : (sessions.perform call).NoDuplicates := by
  cases call with
  | allowClientAccount | setAccountState => exact ⟨distinct.bound, distinct.subscribed⟩
  | registerClient clientId =>
      refine ⟨?_, distinct.subscribed⟩
      intro query
      rw [perform, boundTo_registerClient]
      split
      · exact List.nodup_nil
      · exact distinct.bound query
  | bindAccount clientId accountId =>
      constructor
      · intro query
        rw [perform, boundTo_bindAccount]
        split
        next added =>
          exact (distinct.bound clientId).append (List.nodup_singleton accountId)
            (List.disjoint_singleton.mpr added.2.2)
        · exact distinct.bound query
      · intro query
        rw [perform, subscribers_bindAccount]
        split
        next added =>
          exact (distinct.subscribed accountId).append (List.nodup_singleton clientId)
            (List.disjoint_singleton.mpr added.2)
        · exact distinct.subscribed query

/-- What is bound after a binding. -/
theorem mem_boundTo_bindAccount (sessions : SessionManager) (clientId query : ClientId)
    (accountId account : AccountId) :
    account ∈ (sessions.bindAccount clientId accountId).boundTo query ↔
      account ∈ sessions.boundTo query ∨
        query = clientId ∧ account = accountId ∧ clientId.asStr ∈ sessions.clients := by
  rw [boundTo_bindAccount]
  split
  next added =>
    rw [added.1, List.mem_append, List.mem_singleton]
    simp [added.2.1]
  next kept =>
    constructor
    · exact Or.inl
    · rintro (before | ⟨rfl, rfl, registered⟩)
      · exact before
      · by_contra absent
        exact kept ⟨rfl, registered, absent⟩

/-- Who subscribes after a binding. -/
theorem mem_subscribers_bindAccount (sessions : SessionManager) (clientId query : ClientId)
    (accountId account : AccountId) :
    query ∈ (sessions.bindAccount clientId accountId).subscribers account ↔
      query ∈ sessions.subscribers account ∨ query = clientId ∧ account = accountId := by
  rw [subscribers_bindAccount]
  split
  next added =>
    rw [added.1, List.mem_append, List.mem_singleton]
    simp
  next kept =>
    constructor
    · exact Or.inl
    · rintro (before | ⟨rfl, rfl⟩)
      · exact before
      · by_contra absent
        exact kept ⟨rfl, absent⟩

/-- A mapping that agrees on both sides does so after an operation exactly when the operation
writes both or neither. -/
theorem twoWay_perform_iff {sessions : SessionManager} (twoWay : sessions.TwoWay)
    (call : SessionCall) : (sessions.perform call).TwoWay ↔ sessions.WritesBoth call := by
  cases call with
  | allowClientAccount | setAccountState => exact iff_of_true twoWay trivial
  | registerClient clientId =>
      simp only [perform, TwoWay, boundTo_registerClient, WritesBoth]
      constructor
      · intro agrees
        rw [List.eq_nil_iff_forall_not_mem]
        intro account bound
        have listed := (twoWay clientId account).mp bound
        have cleared := (agrees clientId account).mpr listed
        rw [if_pos rfl] at cleared
        exact absurd cleared List.not_mem_nil
      · intro unbound query account
        by_cases same : query = clientId
        · rw [if_pos same, ← unbound, same]
          exact twoWay clientId account
        · rw [if_neg same]
          exact twoWay query account
  | bindAccount clientId accountId =>
      simp only [perform, TwoWay, mem_boundTo_bindAccount, mem_subscribers_bindAccount,
        WritesBoth]
      constructor
      · intro agrees
        rcases (agrees clientId accountId).mpr (Or.inr ⟨rfl, rfl⟩) with bound | added
        · by_contra unregistered
          rw [boundTo, AList.lookup_eq_none.mpr unregistered] at bound
          exact absurd bound List.not_mem_nil
        · exact added.2.2
      · intro registered query account
        rw [twoWay query account]
        simp [registered]

/-! ## Every sequence of operations -/

/-- Over every sequence of operations no list has duplicates, and the two sides agree
throughout exactly when every operation writes both sides or neither. -/
theorem two_way_iff (calls : List SessionCall) :
    (machine.Throughout TwoWay {} calls ↔ machine.Always WritesBoth {} calls) ∧
      machine.Throughout NoDuplicates {} calls := by
  have empty : TwoWay {} := by
    intro clientId accountId
    exact iff_of_false List.not_mem_nil List.not_mem_nil
  have distinct : NoDuplicates {} := by
    constructor
    · intro clientId
      exact List.nodup_nil
    · intro accountId
      exact List.nodup_nil
  constructor
  · have exact : ∀ sessions call, True → TwoWay sessions →
        (TwoWay (machine.next sessions call) ↔ WritesBoth sessions call) := by
      intro sessions call _ twoWay
      exact twoWay_perform_iff twoWay call
    exact machine.throughout_iff_always (fun _ _ _ => trivial) exact trivial empty calls
  · have every : machine.Always (fun _ _ => True) {} calls :=
      machine.always_of_forall (fun _ _ => trivial) {} calls
    have preserved : ∀ sessions call, NoDuplicates sessions → True →
        NoDuplicates (machine.next sessions call) := by
      intro sessions call kept _
      exact noDuplicates_perform kept call
    exact machine.throughout_of_always preserved (fun _ kept => kept) distinct every

/-- A client says hello, logs in and says hello again. -/
def helloAgain : List SessionCall :=
  [.allowClientAccount ⟨"CY"⟩ ⟨"1001"⟩ .full, .registerClient ⟨"CY"⟩,
    .bindAccount ⟨"CY"⟩ ⟨"1001"⟩, .registerClient ⟨"CY"⟩]

/-- The account still lists the client, which has no bound account any more. -/
theorem helloAgain_one_way :
    ¬ (machine.runFrom {} helloAgain).TwoWay := by
  intro twoWay
  have bound := (twoWay ⟨"CY"⟩ ⟨"1001"⟩).mpr (by decide)
  revert bound
  decide

end SessionManager

/-! ## The gateway -/

/-- An operation for a client changes the sessions by such calls. -/
theorem sessions_perform (world : GatewayWorld) (state : ServerActorState)
    (clientId : ClientId) (replyTo : EnvelopeTx) (call : AccountCall) :
    ∃ calls, (state.perform world clientId replyTo call).state.sessions =
      SessionManager.machine.runFrom state.sessions calls := by
  cases call with
  | bindAccount credentials =>
      simp only [ServerActorState.perform, ServerActorState.bindAccount]
      split
      · exact ⟨[], rfl⟩
      · split
        · exact ⟨[.bindAccount clientId credentials.accountId,
            .setAccountState credentials.accountId .connecting], rfl⟩
        · split
          · exact ⟨[.bindAccount clientId credentials.accountId,
              .setAccountState credentials.accountId .connecting,
              .setAccountState credentials.accountId .error], rfl⟩
          · exact ⟨[.bindAccount clientId credentials.accountId,
              .setAccountState credentials.accountId .connecting], rfl⟩
  | placeOrder | cancelOrder | queryAccount | queryPosition | queryOrders | queryTrades
  | logoutAccount => exact ⟨[], congrArg _ (sendChecked_state _ _ _)⟩

/-- So does every step of the gateway. -/
theorem sessions_gatewayStep (state : ServerActorState) (world : GatewayWorld)
    (input : GatewayInput) :
    ∃ calls, (gatewayStep state world input).1.sessions =
      SessionManager.machine.runFrom state.sessions calls := by
  cases input with
  | accountState accountId connection =>
      exact ⟨[.setAccountState accountId connection], rfl⟩
  | disconnected clientId =>
      refine ⟨[], ?_⟩
      simp only [gatewayStep, Handled.publish_state]
      rfl
  | envelope kind peer outbound envelope =>
      have handled := handleEnvelope_case world kind peer state outbound envelope
      simp only [gatewayStep]
      generalize (handleEnvelope world kind peer state outbound envelope).state = after
        at handled ⊢
      cases handled with
      | kept | registeredMarketData | subscribed | unsubscribed => exact ⟨[], rfl⟩
      | registered clientId => exact ⟨[.registerClient clientId], rfl⟩
      | performed clientId call => exact sessions_perform world state clientId outbound call

end CtpSystem
