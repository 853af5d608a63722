import CtpSystem.Server.State

/-!
# The market-data subscription table

Which clients subscribed to which instrument.  The table operations also decide what
the exchange has to be told: an instrument is subscribed there for its first client
and released with its last.
-/

namespace CtpSystem

/-- Subscribers by instrument. -/
abbrev SubscriptionTable := HashMap String (Finset String)

/-- The loop of `subscribe_market_data`, with the instruments to subscribe at the
exchange. -/
def subscribeInstruments (clientId : ClientId) :
    SubscriptionTable → List InstrumentId → SubscriptionTable × List InstrumentId
  | table, [] => (table, [])
  | table, instrument :: rest =>
      let clients := (table.lookup instrument.asStr).getD ∅
      let later := subscribeInstruments clientId
        (table.insert instrument.asStr (insert clientId.asStr clients)) rest
      (later.1,
        if clients = ∅ ∧ clientId.asStr ∉ clients then instrument :: later.2 else later.2)

/-- The loop of `unsubscribe_market_data`, with the instruments to release. -/
def unsubscribeInstruments (clientId : ClientId) :
    SubscriptionTable → List InstrumentId → SubscriptionTable × List InstrumentId
  | table, [] => (table, [])
  | table, instrument :: rest =>
      match (table.lookup instrument.asStr).map (·.erase clientId.asStr) with
      | none => unsubscribeInstruments clientId table rest
      | some clients =>
          if clients = ∅ then
            let later :=
              unsubscribeInstruments clientId (table.erase instrument.asStr) rest
            (later.1, instrument :: later.2)
          else
            unsubscribeInstruments clientId (table.insert instrument.asStr clients) rest

/-- The first loop of `remove_market_data_client_subscriptions`. -/
def removeClient (clientId : ClientId) (table : SubscriptionTable) : SubscriptionTable :=
  ⟨table.entries.map (.map id fun _ clients => clients.erase clientId.asStr),
    table.nodupKeys.map₂ _ _⟩

/-- The instruments the first loop leaves without subscribers. -/
def emptyInstruments (table : SubscriptionTable) : List String :=
  (table.entries.filter fun entry => entry.2 = ∅).map (·.1)

/-- `remove_market_data_client_subscriptions`. -/
def removeClientSubscriptions (clientId : ClientId) (table : SubscriptionTable) :
    SubscriptionTable × List InstrumentId :=
  let shrunk := removeClient clientId table
  let empties := emptyInstruments shrunk
  (empties.foldl (fun table instrument => table.erase instrument) shrunk,
    empties.map (⟨·⟩))

namespace ServerActorState

def subscribeMarketData (state : ServerActorState) (clientId : ClientId)
    (instruments : List InstrumentId) : ServerActorState × List InstrumentId :=
  let (table, exchange) :=
    subscribeInstruments clientId state.marketDataSubscriptions instruments
  ({ state with marketDataSubscriptions := table }, exchange)

def unsubscribeMarketData (state : ServerActorState) (clientId : ClientId)
    (instruments : List InstrumentId) : ServerActorState × List InstrumentId :=
  let (table, exchange) :=
    unsubscribeInstruments clientId state.marketDataSubscriptions instruments
  ({ state with marketDataSubscriptions := table }, exchange)

def removeMarketDataClientSubscriptions (state : ServerActorState) (clientId : ClientId) :
    ServerActorState × List InstrumentId :=
  let (table, exchange) :=
    removeClientSubscriptions clientId state.marketDataSubscriptions
  ({ state with marketDataSubscriptions := table }, exchange)

def currentMarketDataSubscriptions (state : ServerActorState) : List InstrumentId :=
  state.marketDataSubscriptions.keys.map (⟨·⟩)

/-! ## Exchange deltas

Each of the three calls below holds the lock while it updates the table and returns
the command it enqueues on the market-data actor after releasing it. -/

/-- `subscribe_exchange_market_data`; the first call spawns the actor. -/
def subscribeExchangeMarketData (state : ServerActorState) (clientId : ClientId)
    (instruments : List InstrumentId) :
    ServerActorState × Option MarketDataSessionCommand :=
  let (state, exchange) := state.subscribeMarketData clientId instruments
  ({ state with marketDataSession := some (state.marketDataSession.getD {}) },
    if exchange = [] then none else some (.subscribe exchange))

/-- `unsubscribe_exchange_market_data`. -/
def unsubscribeExchangeMarketData (state : ServerActorState) (clientId : ClientId)
    (instruments : List InstrumentId) :
    ServerActorState × Option MarketDataSessionCommand :=
  let (state, exchange) := state.unsubscribeMarketData clientId instruments
  (state,
    if state.marketDataSession.isSome ∧ exchange ≠ [] then some (.unsubscribe exchange)
    else none)

/-- `remove_exchange_market_data_client`. -/
def removeExchangeMarketDataClient (state : ServerActorState) (clientId : ClientId) :
    ServerActorState × Option MarketDataSessionCommand :=
  let state :=
    { state with marketDataClients := state.marketDataClients.erase clientId.asStr }
  let (state, exchange) := state.removeMarketDataClientSubscriptions clientId
  (state,
    if state.marketDataSession.isSome ∧ exchange ≠ [] then some (.unsubscribe exchange)
    else none)

end ServerActorState

/-! ## Tables without empty sets -/

/-- No instrument is kept without a subscriber. -/
def NoEmptySet (table : SubscriptionTable) : Prop :=
  ∀ key, table.lookup key ≠ some ∅

theorem noEmptySet_insert {table : SubscriptionTable} (noEmpty : NoEmptySet table)
    (key : String) {clients : Finset String} (present : clients ≠ ∅) :
    NoEmptySet (table.insert key clients) := by
  intro query
  by_cases same : query = key
  · rw [same, AList.lookup_insert]
    intro equal
    exact present (Option.some.inj equal)
  · rw [AList.lookup_insert_ne same]
    exact noEmpty query

theorem noEmptySet_erase {table : SubscriptionTable} (noEmpty : NoEmptySet table)
    (key : String) : NoEmptySet (table.erase key) := by
  intro query
  by_cases same : query = key
  · rw [same, AList.lookup_erase]
    exact nofun
  · rw [AList.lookup_erase_ne same]
    exact noEmpty query

/-- Without empty sets, an instrument has no subscribers exactly when it is not in the
table. -/
theorem getD_eq_empty_iff {table : SubscriptionTable} (noEmpty : NoEmptySet table)
    (key : String) : (table.lookup key).getD ∅ = ∅ ↔ key ∉ table := by
  cases found : table.lookup key with
  | none => simpa using AList.lookup_eq_none.mp found
  | some clients =>
      have present : key ∈ table := AList.lookup_isSome.mp (by simp [found])
      have some : clients ≠ ∅ := by
        intro empty
        apply noEmpty key
        rw [found, empty]
      simp [some, present]

theorem noEmptySet_subscribe (clientId : ClientId) {table : SubscriptionTable}
    (noEmpty : NoEmptySet table) (instruments : List InstrumentId) :
    NoEmptySet (subscribeInstruments clientId table instruments).1 := by
  induction instruments generalizing table with
  | nil => exact noEmpty
  | cons instrument rest ih =>
      exact ih (noEmptySet_insert noEmpty _ (Finset.insert_ne_empty _ _))

theorem noEmptySet_unsubscribe (clientId : ClientId) {table : SubscriptionTable}
    (noEmpty : NoEmptySet table) (instruments : List InstrumentId) :
    NoEmptySet (unsubscribeInstruments clientId table instruments).1 := by
  induction instruments generalizing table with
  | nil => exact noEmpty
  | cons instrument rest ih =>
      simp only [unsubscribeInstruments]
      split
      · exact ih noEmpty
      · split
        · exact ih (noEmptySet_erase noEmpty _)
        next present => exact ih (noEmptySet_insert noEmpty _ present)

/-! ## What is subscribed and released -/

/-- Every requested instrument ends up in the table, and nothing leaves it. -/
theorem mem_subscribeInstruments (clientId : ClientId) (table : SubscriptionTable)
    (instruments : List InstrumentId) (key : String) :
    key ∈ (subscribeInstruments clientId table instruments).1 ↔
      key ∈ table ∨ ⟨key⟩ ∈ instruments := by
  induction instruments generalizing table with
  | nil => simp [subscribeInstruments]
  | cons instrument rest ih =>
      rcases instrument with ⟨name⟩
      simp only [subscribeInstruments, ih, AList.mem_insert, List.mem_cons,
        InstrumentId.mk.injEq]
      tauto

/-- What the exchange is told to subscribe are the instruments new to the table. -/
theorem mem_subscribeInstruments_delta (clientId : ClientId) {table : SubscriptionTable}
    (noEmpty : NoEmptySet table) (instruments : List InstrumentId) (key : String) :
    ⟨key⟩ ∈ (subscribeInstruments clientId table instruments).2 ↔
      key ∉ table ∧ ⟨key⟩ ∈ instruments := by
  induction instruments generalizing table with
  | nil => simp [subscribeInstruments]
  | cons instrument rest ih =>
      rcases instrument with ⟨name⟩
      have later := ih (noEmptySet_insert noEmpty name
        (Finset.insert_ne_empty clientId.asStr ((table.lookup name).getD ∅)))
      have fresh : (table.lookup name).getD ∅ = ∅ ∧
          clientId.asStr ∉ (table.lookup name).getD ∅ ↔ name ∉ table := by
        rw [← getD_eq_empty_iff noEmpty name]
        constructor
        · intro both
          exact both.1
        · intro empty
          exact ⟨empty, by simp [empty]⟩
      simp only [subscribeInstruments, fresh]
      split <;>
        simp only [List.mem_cons, InstrumentId.mk.injEq, later, AList.mem_insert]
      next absent =>
        by_cases same : key = name
        · simp [same, absent]
        · simp [same]
      next present =>
        by_cases same : key = name
        · simp_all
        · simp [same]

/-- Unsubscribing takes no instrument into the table, and the instruments that leave it
are those the exchange is told to release. -/
theorem mem_unsubscribeInstruments (clientId : ClientId) {table : SubscriptionTable}
    (noEmpty : NoEmptySet table) (instruments : List InstrumentId) (key : String) :
    key ∈ (unsubscribeInstruments clientId table instruments).1 ↔
      key ∈ table ∧ ⟨key⟩ ∉ (unsubscribeInstruments clientId table instruments).2 := by
  induction instruments generalizing table with
  | nil => simp [unsubscribeInstruments]
  | cons instrument rest ih =>
      rcases instrument with ⟨name⟩
      simp only [unsubscribeInstruments]
      split
      · exact ih noEmpty
      next clients found =>
        split
        · simp only [ih (noEmptySet_erase noEmpty name), AList.mem_erase, List.mem_cons,
            InstrumentId.mk.injEq]
          tauto
        next remaining =>
          simp only [ih (noEmptySet_insert noEmpty name remaining), AList.mem_insert]
          rcases Option.map_eq_some_iff.mp found with ⟨before, stored, -⟩
          have present : name ∈ table := AList.lookup_isSome.mp (by simp [stored])
          constructor
          · rintro ⟨same | member, kept⟩
            · exact ⟨same ▸ present, kept⟩
            · exact ⟨member, kept⟩
          · intro both
            exact ⟨Or.inr both.1, both.2⟩

/-- What the exchange is told to release was in the table. -/
theorem mem_of_unsubscribed (clientId : ClientId) {table : SubscriptionTable}
    (instruments : List InstrumentId) {key : String}
    (released : ⟨key⟩ ∈ (unsubscribeInstruments clientId table instruments).2) :
    key ∈ table := by
  induction instruments generalizing table with
  | nil => simp [unsubscribeInstruments] at released
  | cons instrument rest ih =>
      rcases instrument with ⟨name⟩
      simp only [unsubscribeInstruments] at released
      split at released
      · exact ih released
      next clients found =>
        rcases Option.map_eq_some_iff.mp found with ⟨before, stored, -⟩
        have present : name ∈ table := AList.lookup_isSome.mp (by simp [stored])
        split at released
        · rcases List.mem_cons.mp released with same | later
          · exact InstrumentId.mk.inj same ▸ present
          · exact (AList.mem_erase.mp (ih later)).2
        · rcases (AList.mem_insert _).mp (ih released) with same | member
          · exact same ▸ present
          · exact member

/-! ## Removing a client -/

@[simp] theorem lookup_removeClient (clientId : ClientId) (table : SubscriptionTable)
    (key : String) :
    (removeClient clientId table).lookup key =
      (table.lookup key).map (·.erase clientId.asStr) :=
  List.dlookup_map₂ key

theorem mem_removeClient {clientId : ClientId} {table : SubscriptionTable} {key : String} :
    key ∈ removeClient clientId table ↔ key ∈ table := by
  rw [← AList.lookup_isSome, ← AList.lookup_isSome, lookup_removeClient, Option.isSome_map]

theorem mem_emptyInstruments {table : SubscriptionTable} {key : String} :
    key ∈ emptyInstruments table ↔ table.lookup key = some ∅ := by
  simp only [emptyInstruments, List.mem_map, List.mem_filter, decide_eq_true_eq]
  constructor
  · rintro ⟨⟨name, clients⟩, ⟨member, empty⟩, rfl⟩
    simp only at empty
    subst empty
    exact AList.mem_lookup_iff.mpr member
  · intro found
    exact ⟨⟨key, ∅⟩, ⟨AList.mem_lookup_iff.mp found, rfl⟩, rfl⟩

/-- Erasing some instruments leaves the others. -/
theorem lookup_eraseAll (table : SubscriptionTable) (instruments : List String)
    (key : String) :
    (instruments.foldl (fun table instrument => table.erase instrument) table).lookup key =
      if key ∈ instruments then none else table.lookup key := by
  induction instruments generalizing table with
  | nil => simp
  | cons name rest ih =>
      rw [List.foldl_cons, ih]
      by_cases same : key = name
      · subst same
        simp
      · simp [same, AList.lookup_erase_ne]

/-- Removing a client leaves its other instruments' remaining subscribers. -/
theorem lookup_removeClientSubscriptions (clientId : ClientId) (table : SubscriptionTable)
    (key : String) :
    (removeClientSubscriptions clientId table).1.lookup key =
      ((table.lookup key).map (·.erase clientId.asStr)).filter (· ≠ ∅) := by
  simp only [removeClientSubscriptions, lookup_eraseAll, mem_emptyInstruments,
    lookup_removeClient]
  cases (table.lookup key).map (·.erase clientId.asStr) with
  | none => simp
  | some clients =>
      by_cases empty : clients = ∅ <;> simp [Option.filter, empty]

theorem noEmptySet_removeClientSubscriptions (clientId : ClientId)
    (table : SubscriptionTable) :
    NoEmptySet (removeClientSubscriptions clientId table).1 := by
  intro key empty
  rw [lookup_removeClientSubscriptions] at empty
  simpa using (Option.filter_eq_some_iff.mp empty).2

/-- Removing a client takes no instrument into the table, and the instruments that leave
it are those the exchange is told to release. -/
theorem mem_removeClientSubscriptions {clientId : ClientId} {table : SubscriptionTable}
    {key : String} :
    key ∈ (removeClientSubscriptions clientId table).1 ↔
      key ∈ table ∧ ⟨key⟩ ∉ (removeClientSubscriptions clientId table).2 := by
  have released : ⟨key⟩ ∈ (removeClientSubscriptions clientId table).2 ↔
      (removeClient clientId table).lookup key = some ∅ := by
    rw [← mem_emptyInstruments]
    simp [removeClientSubscriptions]
  rw [released, ← AList.lookup_isSome, ← AList.lookup_isSome,
    lookup_removeClientSubscriptions, lookup_removeClient]
  cases table.lookup key with
  | none => simp
  | some clients =>
      by_cases empty : clients.erase clientId.asStr = ∅ <;> simp [Option.filter, empty]

/-- What the exchange is told to release was in the table. -/
theorem mem_of_removed {clientId : ClientId} {table : SubscriptionTable} {key : String}
    (released : ⟨key⟩ ∈ (removeClientSubscriptions clientId table).2) : key ∈ table := by
  have empty : (removeClient clientId table).lookup key = some ∅ := by
    rw [← mem_emptyInstruments]
    simpa [removeClientSubscriptions] using released
  have present : ((removeClient clientId table).lookup key).isSome := by
    rw [empty, Option.isSome_some]
  exact mem_removeClient.mp (AList.lookup_isSome.mp present)

end CtpSystem
