import RelayReputation.Text.Blank
import RelayReputation.Text.Lower
import RelayReputation.Text.Quoted
import RelayReputation.Numeral.Integer
import RelayReputation.Numeral.Layout
import RelayReputation.Address.Parser
import RelayReputation.Address.Printer
import RelayReputation.Address.Exempt
import RelayReputation.Address.Reverse
import RelayReputation.RelayHost
import RelayReputation.Received
import RelayReputation.Keyed
import RelayReputation.Resolution.Backend
import RelayReputation.BlockList.Service
import RelayReputation.BlockList.Queries
import RelayReputation.Yaml.Token
import RelayReputation.Yaml.Token.Scalar
import RelayReputation.Yaml.Token.Reader
import RelayReputation.Yaml.Node
import RelayReputation.Yaml.Scalar
import RelayReputation.Yaml.Document
import RelayReputation.Yaml.Printer
import RelayReputation.Checker.Batch
import RelayReputation.Setup
import RelayReputation.Session.Run
import RelayReputation.Proofs.Listing
import RelayReputation.Proofs.FaultTolerance
import RelayReputation.Proofs.Freshness
import RelayReputation.Proofs.ExplicitLists
import RelayReputation.Proofs.Inquiries
import RelayReputation.Proofs.ReverseNames
import RelayReputation.Proofs.ExemptRanges
import RelayReputation.Proofs.AddressLiterals
import RelayReputation.Proofs.ExemptAddresses
import RelayReputation.Proofs.BatchOrder
import RelayReputation.Proofs.StoreWrites
import RelayReputation.Proofs.BuiltLists
import RelayReputation.Proofs.Enablement
import RelayReputation.Proofs.CacheAnswers
import RelayReputation.Proofs.FailedChanges
import RelayReputation.Proofs.CacheLooks
import RelayReputation.Proofs.Persistence
import RelayReputation.Proofs.RelayWords
import RelayReputation.Proofs.AddressSpellings
import RelayReputation.Proofs.Folding
import RelayReputation.Proofs.RecordAddresses
import RelayReputation.Proofs.SocketAddresses
import RelayReputation.Proofs.LookupResults
import RelayReputation.Proofs.FaultReports
import RelayReputation.Proofs.ServerLists
import RelayReputation.Proofs.HexadecimalValues
import RelayReputation.Proofs.LoadedSwitches
import RelayReputation.Proofs.HostTexts
