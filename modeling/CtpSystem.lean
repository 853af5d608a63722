import CtpSystem.Client.Admission
import CtpSystem.Client.Reconnect
import CtpSystem.MarketData.Aggregation
import CtpSystem.MarketData.EventChannel
import CtpSystem.MarketData.Poisoning
import CtpSystem.MarketData.Ticks
import CtpSystem.Network.Attempts
import CtpSystem.Network.Backoff
import CtpSystem.Network.Inbound
import CtpSystem.Network.Readers
import CtpSystem.Network.Payloads
import CtpSystem.Server.Bindings
import CtpSystem.Server.Cleanup
import CtpSystem.Server.Connections
import CtpSystem.Server.LoginOrder
import CtpSystem.Trade.CancelTargets
import CtpSystem.Trade.Cancels
import CtpSystem.Trade.Conversation
import CtpSystem.Trade.Credentials
import CtpSystem.Trade.Disconnection
import CtpSystem.Trade.Link
import CtpSystem.Trade.LoginAnswers
import CtpSystem.Trade.LoginIds
import CtpSystem.Trade.Logout
import CtpSystem.Trade.OrderIds
import CtpSystem.Trade.QueriedOrders
import CtpSystem.Trade.Queries
import CtpSystem.Trade.Refusals
import CtpSystem.Trade.Routing
