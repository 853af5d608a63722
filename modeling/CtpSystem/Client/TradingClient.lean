import CtpSystem.Client.MarketDataClient
import CtpSystem.Library.LastWord

/-!
# The trading client

`TradingClient` keeps the credentials of one login in a slot and registers, after each call
that may change the slot, the envelopes its connection sends first when it comes back: a hello
and the login of the slot.  A login fills the slot and every logout empties it, whichever
account it is of.
-/

namespace CtpSystem

open Reactive

/-- The client of the trading endpoint. -/
structure TradingClient where
  clientId : ClientId
  connection : Option ClientConnection
  loginCredentials : Option AccountCredentials

/-- Outcome of a call: the client after it, what was enqueued, and the result. -/
structure TradingCalled where
  client : TradingClient
  sent : List Envelope
  result : Except ClientError Unit

namespace TradingClient

def new (clientId : ClientId) : TradingClient := ⟨clientId, none, none⟩

variable (world : ClientWorld) (client : TradingClient)

/-- A message under the client's id. -/
def envelope (message : Message) : Envelope := ⟨some client.clientId, message⟩

def helloEnvelope : Envelope := client.envelope (.hello client.clientId)

def sendEnvelope : Except ClientError Unit :=
  match client.connection with
  | none => .error (.send .closed)
  | some _ => world.send

/-- `reconnect_envelopes`. -/
def reconnectEnvelopes : List Envelope :=
  client.helloEnvelope ::
    match client.loginCredentials with
    | none => []
    | some credentials => [client.envelope (.accountLogin credentials)]

def updateReconnectEnvelopes : TradingClient × Except ClientError Unit :=
  match client.connection with
  | none => (client, .error (.send .closed))
  | some _ =>
      match world.register with
      | .error message => (client, .error (.other message))
      | .ok () => ({ client with connection := some ⟨client.reconnectEnvelopes⟩ }, .ok ())

/-- `connect`. -/
def connect : TradingCalled :=
  match world.connect with
  | .error message => ⟨client, [], .error (.connect message)⟩
  | .ok () =>
      let client := { client with connection := some {} }
      match client.sendEnvelope world with
      | .error error => ⟨client, [], .error error⟩
      | .ok () =>
          let (registered, result) := client.updateReconnectEnvelopes world
          ⟨registered, [client.helloEnvelope], result⟩

/-- Send a message and set the slot, as a login and a logout do. -/
def sendAndKeep (message : Message) (loginCredentials : Option AccountCredentials) :
    TradingCalled :=
  match client.sendEnvelope world with
  | .error error => ⟨client, [], .error error⟩
  | .ok () =>
      let (registered, result) :=
        updateReconnectEnvelopes world { client with loginCredentials := loginCredentials }
      ⟨registered, [client.envelope message], result⟩

def loginAccount (credentials : AccountCredentials) : TradingCalled :=
  client.sendAndKeep world (.accountLogin credentials) (some credentials)

def logoutAccount (accountId : AccountId) : TradingCalled :=
  client.sendAndKeep world (.accountLogout accountId) none

/-- Send a message, as the calls do that keep nothing. -/
def request (message : Message) : TradingCalled :=
  match client.sendEnvelope world with
  | .error error => ⟨client, [], .error error⟩
  | .ok () => ⟨client, [client.envelope message], .ok ()⟩

def placeOrder (order : OrderRequest) : TradingCalled :=
  client.request world (.placeOrder order)

def cancelOrder (cancel : CancelRequest) : TradingCalled :=
  client.request world (.cancelOrder cancel)

def queryAccount (accountId : AccountId) : TradingCalled :=
  client.request world (.queryAccount accountId)

def queryPosition (accountId : AccountId) (instrumentId : Option InstrumentId) :
    TradingCalled :=
  client.request world (.queryPosition accountId instrumentId)

def queryOrders (accountId : AccountId) : TradingCalled :=
  client.request world (.queryOrders accountId)

def queryTrades (accountId : AccountId) : TradingCalled :=
  client.request world (.queryTrades accountId)

end TradingClient

/-- The calls of a trading client that send envelopes. -/
inductive TradingCall where
  | connect
  | loginAccount (credentials : AccountCredentials)
  | logoutAccount (accountId : AccountId)
  | placeOrder (order : OrderRequest)
  | cancelOrder (cancel : CancelRequest)
  | queryAccount (accountId : AccountId)
  | queryPosition (accountId : AccountId) (instrumentId : Option InstrumentId)
  | queryOrders (accountId : AccountId)
  | queryTrades (accountId : AccountId)
  deriving DecidableEq

namespace TradingClient

/-- Make a call. -/
def call (world : ClientWorld) (client : TradingClient) : TradingCall → TradingCalled
  | .connect => client.connect world
  | .loginAccount credentials => client.loginAccount world credentials
  | .logoutAccount accountId => client.logoutAccount world accountId
  | .placeOrder order => client.placeOrder world order
  | .cancelOrder cancel => client.cancelOrder world cancel
  | .queryAccount accountId => client.queryAccount world accountId
  | .queryPosition accountId instrumentId => client.queryPosition world accountId instrumentId
  | .queryOrders accountId => client.queryOrders world accountId
  | .queryTrades accountId => client.queryTrades world accountId

/-- A client making calls, some of which may fail. -/
def machine (clientId : ClientId) :
    Machine TradingClient (ClientWorld × TradingCall) Envelope where
  init := .new clientId
  step client input :=
    let called := client.call input.1 input.2
    (called.client, called.sent)

/-- The client after its calls. -/
def after (clientId : ClientId) (calls : List (ClientWorld × TradingCall)) : TradingClient :=
  (machine clientId).runFrom (.new clientId) calls

/-- All the calls succeed. -/
def AllSucceed (clientId : ClientId) (calls : List (ClientWorld × TradingCall)) : Prop :=
  (machine clientId).Always
    (fun client input => (client.call input.1 input.2).result = .ok ()) (.new clientId) calls

end TradingClient

/-! ## The login to replay -/

/-- The credentials of the most recent login, and the calls made since. -/
def lastLogin : List TradingCall → Option (AccountCredentials × List TradingCall)
  | [] => none
  | .loginAccount credentials :: rest => (lastLogin rest).or (some (credentials, rest))
  | _ :: rest => lastLogin rest

/-- The credentials of the most recent login, unless its account was logged out since. -/
def loginToReplay (calls : List TradingCall) : Option AccountCredentials :=
  (lastLogin calls).bind fun (credentials, since) =>
    if .logoutAccount credentials.accountId ∈ since then none else some credentials

/-- A hello, and a login where there is one to replay. -/
def replayEnvelopes (clientId : ClientId) (login : Option AccountCredentials) : List Envelope :=
  ⟨some clientId, .hello clientId⟩ ::
    login.toList.map fun credentials => ⟨some clientId, .accountLogin credentials⟩

/-- The login to replay is in the envelopes the client would register, and in those its
connection has. -/
structure ReplaysLastLogin (clientId : ClientId) (calls : List (ClientWorld × TradingCall)) :
    Prop where
  current : (TradingClient.after clientId calls).reconnectEnvelopes =
    replayEnvelopes clientId (loginToReplay (calls.map Prod.snd))
  registered : ∀ connection,
    (TradingClient.after clientId calls).connection = some connection →
      connection.reconnectEnvelopes =
        replayEnvelopes clientId (loginToReplay (calls.map Prod.snd))

theorem lastLogin_append_singleton (calls : List TradingCall) (call : TradingCall) :
    lastLogin (calls ++ [call]) =
      match call with
      | .loginAccount credentials => some (credentials, [])
      | other => (lastLogin calls).map fun last => (last.1, last.2 ++ [other]) := by
  induction calls with
  | nil => cases call <;> rfl
  | cons first rest ih =>
      cases first with
      | loginAccount credentials =>
          rw [List.cons_append, lastLogin, ih, lastLogin]
          cases call <;> cases lastLogin rest <;> rfl
      | _ =>
          rw [List.cons_append, lastLogin, ih, lastLogin]
          all_goals rintro _ ⟨⟩

theorem loginToReplay_login (calls : List TradingCall) (credentials : AccountCredentials) :
    loginToReplay (calls ++ [.loginAccount credentials]) = some credentials := by
  rw [loginToReplay, lastLogin_append_singleton]
  rfl

/-- A logout drops the login of its own account and of no other. -/
theorem loginToReplay_logout (calls : List TradingCall) (accountId : AccountId) :
    loginToReplay (calls ++ [.logoutAccount accountId]) =
      (loginToReplay calls).filter fun credentials => credentials.accountId ≠ accountId := by
  rw [loginToReplay, lastLogin_append_singleton, loginToReplay]
  cases lastLogin calls with
  | none => rfl
  | some last =>
      rcases last with ⟨credentials, since⟩
      simp only [Option.map_some, Option.bind_some, List.mem_append, List.mem_singleton,
        TradingCall.logoutAccount.injEq]
      by_cases earlier : .logoutAccount credentials.accountId ∈ since
      · simp only [earlier, true_or, if_true, Option.filter_none]
      · by_cases same : credentials.accountId = accountId
        · subst same
          rw [if_pos (.inr rfl), if_neg earlier, Option.filter_some_neg (by simp)]
        · rw [if_neg (by simp [earlier, same]), if_neg earlier,
            Option.filter_some_pos (by simp [same])]

/-- What a call that succeeds sets the slot to, where it sets it. -/
def TradingCall.keeps : TradingCall → Option (Option AccountCredentials)
  | .loginAccount credentials => some (some credentials)
  | .logoutAccount _ => some none
  | _ => none

theorem loginToReplay_of_keeps (calls : List TradingCall) {call : TradingCall}
    (aside : call.keeps = none) :
    loginToReplay (calls ++ [call]) = loginToReplay calls := by
  rw [loginToReplay, lastLogin_append_singleton, loginToReplay]
  cases call with
  | loginAccount | logoutAccount => contradiction
  | _ =>
      cases lastLogin calls with
      | none => rfl
      | some last => simp

/-! ## What a successful call does -/

theorem TradingClient.registered_update {world : ClientWorld} {client : TradingClient}
    (succeeded : (client.updateReconnectEnvelopes world).2 = .ok ()) :
    (client.updateReconnectEnvelopes world).1 =
      { client with connection := some ⟨client.reconnectEnvelopes⟩ } := by
  rw [updateReconnectEnvelopes] at succeeded ⊢
  cases connected : client.connection with
  | none =>
      rw [connected] at succeeded
      contradiction
  | some connection =>
      cases answered : world.register with
      | error message =>
          rw [connected, answered] at succeeded
          contradiction
      | ok _ => rfl

theorem TradingClient.sendAndKeep_of_ok {world : ClientWorld} {client : TradingClient}
    {message : Message} {loginCredentials : Option AccountCredentials}
    (succeeded : (client.sendAndKeep world message loginCredentials).result = .ok ()) :
    (client.sendAndKeep world message loginCredentials).client.clientId = client.clientId ∧
      (client.sendAndKeep world message loginCredentials).client.loginCredentials =
        loginCredentials ∧
      (client.sendAndKeep world message loginCredentials).client.connection =
        some ⟨(client.sendAndKeep world message loginCredentials).client.reconnectEnvelopes⟩ := by
  simp only [sendAndKeep] at succeeded ⊢
  cases answered : client.sendEnvelope world with
  | error error => simp [answered] at succeeded
  | ok _ =>
      simp only [answered] at succeeded ⊢
      rw [registered_update succeeded]
      exact ⟨rfl, rfl, rfl⟩

theorem TradingClient.request_client (world : ClientWorld) (client : TradingClient)
    (message : Message) : (client.request world message).client = client := by
  rw [request]
  cases client.sendEnvelope world <;> rfl

/-- Where the connection has what the client would register, a call that succeeds keeps it
so, and sets the slot to what the call keeps. -/
theorem TradingClient.call_of_ok {world : ClientWorld} {client : TradingClient}
    {call : TradingCall} (succeeded : (client.call world call).result = .ok ()) :
    (client.call world call).client.clientId = client.clientId ∧
      (client.call world call).client.loginCredentials =
        call.keeps.getD client.loginCredentials ∧
      ((client.call world call).client = client ∨
        (client.call world call).client.connection =
          some ⟨(client.call world call).client.reconnectEnvelopes⟩) := by
  cases call with
  | connect =>
      simp only [TradingClient.call, connect] at succeeded ⊢
      cases opened : world.connect with
      | error message => simp [opened] at succeeded
      | ok _ =>
          simp only [opened, sendEnvelope] at succeeded ⊢
          cases answered : world.send with
          | error error => simp [answered] at succeeded
          | ok _ =>
              simp only [answered] at succeeded ⊢
              rw [registered_update succeeded]
              exact ⟨rfl, rfl, .inr rfl⟩
  | loginAccount credentials =>
      rcases sendAndKeep_of_ok succeeded with ⟨named, kept, registered⟩
      exact ⟨named, kept, .inr registered⟩
  | logoutAccount accountId =>
      rcases sendAndKeep_of_ok succeeded with ⟨named, kept, registered⟩
      exact ⟨named, kept, .inr registered⟩
  | _ =>
      have same := request_client world client
      refine ⟨?_, ?_, .inl (same _)⟩
      · exact congrArg TradingClient.clientId (same _)
      · exact congrArg TradingClient.loginCredentials (same _)

/-! ## Runs -/

/-- What holds of a client whose calls all succeeded. -/
structure KeepsLastWord (clientId : ClientId) (calls : List TradingCall)
    (client : TradingClient) : Prop where
  named : client.clientId = clientId
  slot : client.loginCredentials = (lastWord TradingCall.keeps calls).getD none
  registered : ∀ connection, client.connection = some connection →
    connection.reconnectEnvelopes = client.reconnectEnvelopes

theorem TradingClient.reconnectEnvelopes_eq (client : TradingClient) :
    client.reconnectEnvelopes = replayEnvelopes client.clientId client.loginCredentials := by
  rw [reconnectEnvelopes, replayEnvelopes]
  cases client.loginCredentials <;> rfl

/-- The envelopes tell which login they replay. -/
theorem replayEnvelopes_inj {clientId : ClientId} {login other : Option AccountCredentials} :
    replayEnvelopes clientId login = replayEnvelopes clientId other ↔ login = other := by
  cases login <;> cases other <;> simp [replayEnvelopes]

/-- A call that succeeds is the last word from then on, if it sets the slot. -/
theorem keepsLastWord_call {clientId : ClientId} {calls : List TradingCall}
    {client : TradingClient} (kept : KeepsLastWord clientId calls client)
    {world : ClientWorld} {call : TradingCall}
    (succeeded : (client.call world call).result = .ok ()) :
    KeepsLastWord clientId (calls ++ [call]) (client.call world call).client := by
  rcases TradingClient.call_of_ok succeeded with ⟨named, slot, connected⟩
  refine ⟨named.trans kept.named, ?_, ?_⟩
  · rw [lastWord_append_singleton, slot, kept.slot]
    cases call.keeps <;> rfl
  · intro connection present
    rcases connected with same | registered
    · rw [same] at present ⊢
      exact kept.registered connection present
    · cases registered.symm.trans present
      rfl

/-- The slot holds what the last login or logout set it to. -/
theorem keepsLastWord_after {clientId : ClientId} {calls : List (ClientWorld × TradingCall)}
    (succeeded : TradingClient.AllSucceed clientId calls) :
    KeepsLastWord clientId (calls.map Prod.snd) (.after clientId calls) := by
  induction calls using List.reverseRecOn with
  | nil => exact ⟨rfl, rfl, by rintro _ ⟨⟩⟩
  | append_singleton before input ih =>
      rcases (Machine.always_append _).mp succeeded with ⟨earlier, now, -⟩
      have next : TradingClient.after clientId (before ++ [input]) =
          ((TradingClient.after clientId before).call input.1 input.2).client :=
        Machine.runFrom_append ..
      rw [next, List.map_append]
      exact keepsLastWord_call (ih earlier) now

/-- The client replays the last login exactly when the slot holds it. -/
theorem replaysLastLogin_iff {clientId : ClientId} {calls : List (ClientWorld × TradingCall)}
    (succeeded : TradingClient.AllSucceed clientId calls) :
    ReplaysLastLogin clientId calls ↔
      (lastWord TradingCall.keeps (calls.map Prod.snd)).getD none =
        loginToReplay (calls.map Prod.snd) := by
  have kept := keepsLastWord_after succeeded
  have current : (TradingClient.after clientId calls).reconnectEnvelopes =
      replayEnvelopes clientId
        ((lastWord TradingCall.keeps (calls.map Prod.snd)).getD none) := by
    rw [TradingClient.reconnectEnvelopes_eq, kept.named, kept.slot]
  constructor
  · intro replays
    exact replayEnvelopes_inj.mp (current.symm.trans replays.current)
  · intro same
    rw [same] at current
    refine ⟨current, ?_⟩
    intro connection present
    rw [kept.registered connection present, current]

/-- The last word is the login to replay after every call but a logout of another account
than the one to replay. -/
theorem lastWord_snoc_iff (calls : List TradingCall) (call : TradingCall) :
    (lastWord TradingCall.keeps (calls ++ [call])).getD none = loginToReplay (calls ++ [call]) ↔
      match call with
      | .loginAccount _ => True
      | .logoutAccount accountId =>
          ∀ credentials, loginToReplay calls = some credentials →
            credentials.accountId = accountId
      | _ => (lastWord TradingCall.keeps calls).getD none = loginToReplay calls := by
  rw [lastWord_append_singleton]
  cases call with
  | loginAccount credentials =>
      rw [loginToReplay_login]
      exact iff_of_true rfl trivial
  | logoutAccount accountId =>
      rw [loginToReplay_logout]
      cases loginToReplay calls with
      | none => simp [TradingCall.keeps]
      | some credentials =>
          by_cases same : credentials.accountId = accountId <;>
            simp [TradingCall.keeps, Option.filter_some, same]
  | _ =>
      rw [loginToReplay_of_keeps calls rfl, TradingCall.keeps, Option.none_or]
      all_goals rintro _ ⟨⟩

/-- Along a run of successful calls the last login is replayed exactly when no logout is of
another account than the one whose login is to be replayed. -/
theorem last_login_replayed_iff (clientId : ClientId)
    {calls : List (ClientWorld × TradingCall)}
    (succeeded : TradingClient.AllSucceed clientId calls) :
    (∀ before, before <+: calls → ReplaysLastLogin clientId before) ↔
      ∀ before world accountId after,
        calls = before ++ (world, .logoutAccount accountId) :: after →
          ∀ credentials, loginToReplay (before.map Prod.snd) = some credentials →
            credentials.accountId = accountId := by
  have succeeds (before : List (ClientWorld × TradingCall)) (start : before <+: calls) :
      TradingClient.AllSucceed clientId before := by
    rcases start with ⟨rest, rfl⟩
    exact ((Machine.always_append _).mp succeeded).1
  constructor
  · intro replays before world accountId after split
    have start : before ++ [(world, .logoutAccount accountId)] <+: calls :=
      ⟨after, by rw [split, List.append_assoc, List.singleton_append]⟩
    have slot := (replaysLastLogin_iff (succeeds _ start)).mp (replays _ start)
    rw [List.map_append, List.map_singleton, lastWord_snoc_iff] at slot
    exact slot
  · intro own before start
    rw [replaysLastLogin_iff (succeeds before start)]
    induction before using List.reverseRecOn with
    | nil => rfl
    | append_singleton before input ih =>
        have earlier := ih ((List.prefix_append before [input]).trans start)
        rcases input with ⟨world, call⟩
        rw [List.map_append, List.map_singleton, lastWord_snoc_iff]
        cases call with
        | loginAccount credentials => trivial
        | logoutAccount accountId =>
            rcases start with ⟨after, split⟩
            apply own before world accountId after
            rw [← split, List.append_assoc, List.singleton_append]
        | _ => exact earlier

/-- Surroundings in which every call succeeds. -/
def ClientWorld.answering : ClientWorld := ⟨.ok (), .ok (), .ok ()⟩

def AccountCredentials.sample (accountId : String) : AccountCredentials :=
  ⟨⟨accountId⟩, "", "9999", "", ""⟩

/-- The calls, all of which succeed. -/
def answeredCalls (calls : List TradingCall) : List (ClientWorld × TradingCall) :=
  calls.map fun call => (.answering, call)

/-- A login and the logout of its account. -/
def ownLogout : List (ClientWorld × TradingCall) :=
  answeredCalls [.connect, .loginAccount (.sample "1001"), .logoutAccount ⟨"1001"⟩]

theorem own_logout_replayed :
    TradingClient.AllSucceed ⟨"desk"⟩ ownLogout ∧
      ∀ before, before <+: ownLogout → ReplaysLastLogin ⟨"desk"⟩ before := by
  have succeeded : TradingClient.AllSucceed ⟨"desk"⟩ ownLogout := by
    unfold TradingClient.AllSucceed
    decide
  refine ⟨succeeded, (last_login_replayed_iff ⟨"desk"⟩ succeeded).mpr ?_⟩
  intro before world accountId after split credentials replayed
  rcases before with _ | ⟨first, _ | ⟨second, _ | ⟨third, rest⟩⟩⟩
  · cases split
  · cases split
  · cases split
    cases replayed
    rfl
  · simp [ownLogout, answeredCalls] at split

/-- The logout of one account takes the login of another out of the replay. -/
theorem other_logout_unreplayed :
    TradingClient.AllSucceed ⟨"desk"⟩ (answeredCalls [.connect, .loginAccount (.sample "1001"),
        .loginAccount (.sample "1002"), .logoutAccount ⟨"1001"⟩]) ∧
      ¬ReplaysLastLogin ⟨"desk"⟩ (answeredCalls [.connect, .loginAccount (.sample "1001"),
        .loginAccount (.sample "1002"), .logoutAccount ⟨"1001"⟩]) := by
  constructor
  · unfold TradingClient.AllSucceed
    decide
  · intro replays
    have current := replays.current
    revert current
    decide

end CtpSystem
