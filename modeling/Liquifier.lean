import Liquifier.Chain.Spending
import Liquifier.Common.NativeTokens
import Liquifier.Engine.Accounting
import Liquifier.Engine.Bridges
import Liquifier.Engine.ExcessRefunds
import Liquifier.Engine.Impact
import Liquifier.Engine.Market
import Liquifier.Engine.MarketCap
import Liquifier.Engine.PathCodec
import Liquifier.Engine.ReceivedAmounts
import Liquifier.Engine.Starvation
import Liquifier.Engine.TradeStatus
import Liquifier.Engine.TransferLogs
import Liquifier.Engine.Volume
import Liquifier.Frontend.LiveAmounts
import Liquifier.Frontend.Redelivery
import Liquifier.Frontend.Wei
import Liquifier.Gateway.AbiStrings
import Liquifier.Gateway.Commitments
import Liquifier.Gateway.Confidentiality
import Liquifier.Gateway.Custody
import Liquifier.Gateway.EtherText
import Liquifier.Gateway.GasFunding
import Liquifier.Gateway.OraclePools
import Liquifier.Gateway.OraclePrices
import Liquifier.Gateway.Pipeline
import Liquifier.Gateway.Verification
import Liquifier.Indexer.Amounts
import Liquifier.Indexer.Poller
import Liquifier.Indexer.TransientErrors
import Liquifier.SessionApi.Creation
import Liquifier.SessionApi.RankedPaths
import Liquifier.Store.Deduplication
import Liquifier.Websocket.Delivery
import Liquifier.Websocket.Sharing
