import EthersProviders.Types
import EthersProviders.Hex
import EthersProviders.Json
import EthersProviders.Abi
import EthersProviders.AbiCodec
import EthersProviders.AbiString
import EthersProviders.Rpc
import EthersProviders.Dispatch
import EthersProviders.Middleware
import EthersProviders.Resolution
import EthersProviders.Records
import EthersProviders.EnsDeployment
import EthersProviders.SendTransaction
import EthersProviders.Storage
import EthersProviders.Signing
import EthersProviders.Session
import EthersProviders.SessionMethods
