import CtpSystem.Client.Flow

/-!
# Blocks of calls

The session sends its requests in blocks of calls with a `?` after each.  A block sends
what its calls send, in order, and stops where one fails; nothing but the connections
changes on the way.
-/

namespace CtpSystem

open Reactive

/-! ## What a call sends -/

/-- The message a call sends. -/
def TradingCall.message (clientId : ClientId) : TradingCall → Message
  | .connect => .hello clientId
  | .loginAccount credentials => .accountLogin credentials
  | .logoutAccount accountId => .accountLogout accountId
  | .placeOrder order => .placeOrder order
  | .cancelOrder cancel => .cancelOrder cancel
  | .queryAccount accountId => .queryAccount accountId
  | .queryPosition accountId instrumentId => .queryPosition accountId instrumentId
  | .queryOrders accountId => .queryOrders accountId
  | .queryTrades accountId => .queryTrades accountId

/-- The message a call sends. -/
def ClientCall.message (clientId : ClientId) : ClientCall → Message
  | .connect => .marketDataHello clientId
  | .subscribe instruments => .subscribeMarketData instruments
  | .unsubscribe instruments => .unsubscribeMarketData instruments

theorem TradingClient.updateReconnectEnvelopes_clientId (world : ClientWorld)
    (client : TradingClient) :
    (client.updateReconnectEnvelopes world).1.clientId = client.clientId := by
  rw [updateReconnectEnvelopes]
  cases client.connection with
  | none => rfl
  | some connection => cases world.register <;> rfl

/-- A call sends its message or nothing, and only a call that fails sends nothing. -/
theorem TradingClient.call_sent (world : ClientWorld) (client : TradingClient)
    (call : TradingCall) :
    (client.call world call).client.clientId = client.clientId ∧
      ((client.call world call).sent =
          [⟨some client.clientId, call.message client.clientId⟩] ∨
        (client.call world call).sent = [] ∧
          ∃ error, (client.call world call).result = .error error) := by
  have request (message : Message) :
      (client.request world message).client.clientId = client.clientId ∧
        ((client.request world message).sent = [⟨some client.clientId, message⟩] ∨
          (client.request world message).sent = [] ∧
            ∃ error, (client.request world message).result = .error error) := by
    rw [TradingClient.request]
    cases client.sendEnvelope world with
    | error error => exact ⟨rfl, Or.inr ⟨rfl, error, rfl⟩⟩
    | ok => exact ⟨rfl, Or.inl rfl⟩
  have keep (message : Message) (login : Option AccountCredentials) :
      (client.sendAndKeep world message login).client.clientId = client.clientId ∧
        ((client.sendAndKeep world message login).sent = [⟨some client.clientId, message⟩] ∨
          (client.sendAndKeep world message login).sent = [] ∧
            ∃ error, (client.sendAndKeep world message login).result = .error error) := by
    rw [TradingClient.sendAndKeep]
    cases client.sendEnvelope world with
    | error error => exact ⟨rfl, Or.inr ⟨rfl, error, rfl⟩⟩
    | ok => exact ⟨updateReconnectEnvelopes_clientId world _, Or.inl rfl⟩
  cases call with
  | connect =>
      simp only [TradingClient.call, TradingClient.connect]
      cases world.connect with
      | error message => exact ⟨rfl, Or.inr ⟨rfl, _, rfl⟩⟩
      | ok =>
          simp only [TradingClient.sendEnvelope]
          cases world.send with
          | error error => exact ⟨rfl, Or.inr ⟨rfl, error, rfl⟩⟩
          | ok => exact ⟨updateReconnectEnvelopes_clientId world _, Or.inl rfl⟩
  | loginAccount | logoutAccount => exact keep _ _
  | _ => exact request _

theorem MarketDataClient.call_sent (world : ClientWorld) (client : MarketDataClient)
    (call : ClientCall) :
    (client.call world call).client.clientId = client.clientId ∧
      ((client.call world call).sent =
          [⟨some client.clientId, call.message client.clientId⟩] ∨
        (client.call world call).sent = [] ∧
          ∃ error, (client.call world call).result = .error error) := by
  refine ⟨(call_case world client call).1, ?_⟩
  cases call with
  | connect =>
      simp only [MarketDataClient.call, MarketDataClient.connect]
      cases world.connect with
      | error message => exact Or.inr ⟨rfl, _, rfl⟩
      | ok =>
          simp only [MarketDataClient.sendEnvelope]
          cases world.send with
          | error error => exact Or.inr ⟨rfl, error, rfl⟩
          | ok => exact Or.inl rfl
  | subscribe instruments =>
      simp only [MarketDataClient.call, MarketDataClient.subscribe]
      cases client.sendEnvelope world with
      | error error => exact Or.inr ⟨rfl, error, rfl⟩
      | ok => exact Or.inl rfl
  | unsubscribe instruments =>
      simp only [MarketDataClient.call, MarketDataClient.unsubscribe]
      cases client.sendEnvelope world with
      | error error => exact Or.inr ⟨rfl, error, rfl⟩
      | ok => exact Or.inl rfl

/-! ## Blocks of calls -/

namespace Flow

/-- Both clients carry the client id. -/
def Named (clientId : ClientId) (flow : Flow) : Prop :=
  flow.trading.clientId = clientId ∧ flow.marketData.clientId = clientId

/-- Only the connections differ. -/
def SameVariables (flow after : Flow) : Prop :=
  ∃ trading marketData, after = { flow with trading := trading, marketData := marketData }

theorem SameVariables.trans {first second third : Flow} (left : first.SameVariables second)
    (right : second.SameVariables third) : first.SameVariables third := by
  rcases left with ⟨trading, marketData, rfl⟩
  rcases right with ⟨trading, marketData, rfl⟩
  exact ⟨trading, marketData, rfl⟩

/-- A block of calls sends the requests in order; where it fails, some of the first. -/
def Sends (clientId : ClientId) (block : Flow → FlowAttempt) (requests : List FlowRequest) :
    Prop :=
  ∀ flow history, flow.Named clientId →
    (block flow).Meets
      (fun after sent => after.Named clientId ∧ flow.SameVariables after ∧
        sent = history ++ requests)
      (fun after sent => after.Named clientId ∧ flow.SameVariables after ∧
        ∃ part, part <+: requests ∧ sent = history ++ part)
      history

theorem sends_callTrading (clientId : ClientId) (world : FlowWorld) (call : TradingCall) :
    Sends clientId (callTrading world call)
      [.trading ⟨some clientId, call.message clientId⟩] := by
  rintro flow history ⟨trading, marketData⟩
  rcases TradingClient.call_sent (world.trading call) flow.trading call with ⟨named, sent⟩
  rw [trading] at named sent
  rw [Attempt.Meets, callTrading]
  cases ended : (flow.trading.call (world.trading call) call).result with
  | error error =>
      refine ⟨⟨named, marketData⟩, ⟨_, _, rfl⟩, ?_⟩
      rcases sent with one | ⟨nothing, -⟩
      · exact ⟨_, List.prefix_rfl, by rw [one]; rfl⟩
      · exact ⟨[], List.nil_prefix, by rw [nothing]; rfl⟩
  | ok =>
      refine ⟨⟨named, marketData⟩, ⟨_, _, rfl⟩, ?_⟩
      rcases sent with one | ⟨-, error, failed⟩
      · rw [one]
        rfl
      · rw [ended] at failed
        cases failed

theorem sends_callMarketData (clientId : ClientId) (world : FlowWorld) (call : ClientCall) :
    Sends clientId (callMarketData world call)
      [.marketData ⟨some clientId, call.message clientId⟩] := by
  rintro flow history ⟨trading, marketData⟩
  rcases MarketDataClient.call_sent (world.marketData call) flow.marketData call with
    ⟨named, sent⟩
  rw [marketData] at named sent
  rw [Attempt.Meets, callMarketData]
  cases ended : (flow.marketData.call (world.marketData call) call).result with
  | error error =>
      refine ⟨⟨trading, named⟩, ⟨_, _, rfl⟩, ?_⟩
      rcases sent with one | ⟨nothing, -⟩
      · exact ⟨_, List.prefix_rfl, by rw [one]; rfl⟩
      · exact ⟨[], List.nil_prefix, by rw [nothing]; rfl⟩
  | ok =>
      refine ⟨⟨trading, named⟩, ⟨_, _, rfl⟩, ?_⟩
      rcases sent with one | ⟨-, error, failed⟩
      · rw [one]
        rfl
      · rw [ended] at failed
        cases failed

/-- Blocks in sequence send their requests in sequence. -/
theorem Sends.andThen {clientId : ClientId} {block next : Flow → FlowAttempt}
    {requests later : List FlowRequest} (first : Sends clientId block requests)
    (second : Sends clientId next later) :
    Sends clientId (fun flow => (block flow).andThen next) (requests ++ later) := by
  intro flow history named
  have begun : (block flow).Meets
      (fun after sent => after.Named clientId ∧ flow.SameVariables after ∧
        sent = history ++ requests)
      (fun after sent => after.Named clientId ∧ flow.SameVariables after ∧
        ∃ part, part <+: requests ++ later ∧ sent = history ++ part) history := by
    apply (first flow history named).mono
    · intro after outputs reached
      exact reached
    · rintro after outputs ⟨still, same, part, shorter, sent⟩
      exact ⟨still, same, part, shorter.trans (List.prefix_append _ _), sent⟩
  apply begun.andThen
  rintro after outputs ⟨still, same, sent⟩
  have outputs_eq : outputs = requests := List.append_cancel_left sent
  subst outputs_eq
  refine (second after _ still).mono ?_ ?_
  · rintro last rest ⟨named, stays, sent⟩
    exact ⟨named, same.trans stays, by rw [sent, List.append_assoc]⟩
  · rintro last rest ⟨named, stays, part, shorter, sent⟩
    refine ⟨named, same.trans stays, outputs ++ part, ?_, by rw [sent, List.append_assoc]⟩
    exact (List.prefix_append_right_inj outputs).mpr shorter

/-- The rule for going on after a block. -/
theorem Sends.run {clientId : ClientId} {block next : Flow → FlowAttempt}
    {requests : List FlowRequest} (sends : Sends clientId block requests) {flow : Flow}
    {history : List FlowRequest} (named : flow.Named clientId)
    {success failure : Flow → List FlowRequest → Prop}
    (rest : ∀ trading marketData,
      Named clientId { flow with trading := trading, marketData := marketData } →
        (next { flow with trading := trading, marketData := marketData }).Meets success failure
          (history ++ requests))
    (broken : ∀ after part, part <+: requests → failure after (history ++ part)) :
    ((block flow).andThen next).Meets success failure history := by
  have begun : (block flow).Meets
      (fun after sent => after.Named clientId ∧ flow.SameVariables after ∧
        sent = history ++ requests) failure history := by
    apply (sends flow history named).mono
    · intro after outputs reached
      exact reached
    · rintro after outputs ⟨-, -, part, shorter, sent⟩
      rw [sent]
      exact broken after part shorter
  apply begun.andThen
  rintro after outputs ⟨still, ⟨trading, marketData, rfl⟩, sent⟩
  rw [sent]
  exact rest trading marketData still

end Flow

end CtpSystem
