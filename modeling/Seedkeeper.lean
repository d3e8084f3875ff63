import Seedkeeper.Batch
import Seedkeeper.Calendar.Clock
import Seedkeeper.Calendar.Date
import Seedkeeper.Calendar.Zone
import Seedkeeper.Client.Basic
import Seedkeeper.Client.Filters
import Seedkeeper.Client.Memory
import Seedkeeper.CommandLine.Command
import Seedkeeper.CommandLine.Reading
import Seedkeeper.Config.Basic
import Seedkeeper.Config.Decode
import Seedkeeper.Config.Environment
import Seedkeeper.Config.Shown
import Seedkeeper.CrossSeed.Check
import Seedkeeper.CrossSeed.Verdict
import Seedkeeper.Http.Cookie
import Seedkeeper.Http.Exchange
import Seedkeeper.Http.Status
import Seedkeeper.Json.Basic
import Seedkeeper.Json.Fields
import Seedkeeper.Json.Reader
import Seedkeeper.Main
import Seedkeeper.Metainfo.Bencode
import Seedkeeper.Metainfo.Sha1
import Seedkeeper.Metainfo.Torrent
import Seedkeeper.Number.Binary
import Seedkeeper.Number.ByteCount
import Seedkeeper.Number.Decimal
import Seedkeeper.Number.Word
import Seedkeeper.Program.Disk
import Seedkeeper.Program.Dispatch
import Seedkeeper.Program.Output
import Seedkeeper.Proofs.Batch.Agreement
import Seedkeeper.Proofs.Batch.Attempts
import Seedkeeper.Proofs.Batch.Deletions
import Seedkeeper.Proofs.Batch.InMemory
import Seedkeeper.Proofs.Batch.Removed
import Seedkeeper.Proofs.Calendar.Civil
import Seedkeeper.Proofs.Calendar.DayStart
import Seedkeeper.Proofs.Calendar.InOrder
import Seedkeeper.Proofs.Calendar.Written
import Seedkeeper.Proofs.Client.Actions
import Seedkeeper.Proofs.Client.Histories
import Seedkeeper.Proofs.Client.Memory
import Seedkeeper.Proofs.Client.Operations
import Seedkeeper.Proofs.Client.Runs
import Seedkeeper.Proofs.Config.Validity
import Seedkeeper.Proofs.CrossSeed.AnyOrder
import Seedkeeper.Proofs.CrossSeed.Folders
import Seedkeeper.Proofs.CrossSeed.Roots
import Seedkeeper.Proofs.Json.Document
import Seedkeeper.Proofs.Json.Leaves
import Seedkeeper.Proofs.Json.Records
import Seedkeeper.Proofs.Metainfo.Accepted
import Seedkeeper.Proofs.Metainfo.Document
import Seedkeeper.Proofs.Metainfo.Grammar
import Seedkeeper.Proofs.Metainfo.Written
import Seedkeeper.Proofs.QBittorrent.Answers
import Seedkeeper.Proofs.QBittorrent.Conduct
import Seedkeeper.Proofs.QBittorrent.Dialogue
import Seedkeeper.Proofs.QBittorrent.Expiry
import Seedkeeper.Proofs.QBittorrent.Lookups
import Seedkeeper.Proofs.QBittorrent.NotFound
import Seedkeeper.Proofs.QBittorrent.Protocol
import Seedkeeper.Proofs.QBittorrent.Requests
import Seedkeeper.Proofs.QBittorrent.Tags
import Seedkeeper.Proofs.Selection.ByName
import Seedkeeper.Proofs.Selection.Chosen
import Seedkeeper.Proofs.Selection.Everything
import Seedkeeper.Proofs.Selection.Feedback
import Seedkeeper.Proofs.Selection.Fetched
import Seedkeeper.Proofs.Selection.Reach
import Seedkeeper.Proofs.Selection.StateWords
import Seedkeeper.Proofs.Selection.Words
import Seedkeeper.Proofs.Text.Decoded
import Seedkeeper.Proofs.Text.FinalSigma
import Seedkeeper.Proofs.Text.Lowercase
import Seedkeeper.Proofs.Text.Trim
import Seedkeeper.Proofs.Torrent.Site
import Seedkeeper.Proofs.Traffic.Accepted
import Seedkeeper.Proofs.Traffic.AllTime
import Seedkeeper.Proofs.Traffic.Closings
import Seedkeeper.Proofs.Traffic.Contribution
import Seedkeeper.Proofs.Traffic.EvenShares
import Seedkeeper.Proofs.Traffic.EventLine
import Seedkeeper.Proofs.Traffic.LastDay
import Seedkeeper.Proofs.Traffic.Lines
import Seedkeeper.Proofs.Traffic.LogRun
import Seedkeeper.Proofs.Traffic.Outcome
import Seedkeeper.Proofs.Traffic.Reordered
import Seedkeeper.Proofs.Traffic.Repeated
import Seedkeeper.Proofs.Traffic.Split
import Seedkeeper.Proofs.Traffic.Stretches
import Seedkeeper.Proofs.Traffic.Summary
import Seedkeeper.Proofs.Traffic.Tally
import Seedkeeper.Proofs.Traffic.TornLog
import Seedkeeper.Proofs.Traffic.Windows
import Seedkeeper.Proofs.Url.Parameters
import Seedkeeper.Proofs.Url.Percent
import Seedkeeper.Proofs.Url.Target
import Seedkeeper.QBittorrent.Client
import Seedkeeper.QBittorrent.Progress
import Seedkeeper.QBittorrent.Records
import Seedkeeper.QBittorrent.Session
import Seedkeeper.Record
import Seedkeeper.Selection.Query
import Seedkeeper.Selection.Token
import Seedkeeper.Text.Ascii
import Seedkeeper.Text.Blank
import Seedkeeper.Text.CaseTable
import Seedkeeper.Text.Composition
import Seedkeeper.Text.CompositionTable
import Seedkeeper.Text.Lowercase
import Seedkeeper.Text.Marked
import Seedkeeper.Text.Scan
import Seedkeeper.Text.Table
import Seedkeeper.Text.Utf8
import Seedkeeper.Toml.Document
import Seedkeeper.Toml.Scalar
import Seedkeeper.Toml.Table
import Seedkeeper.Toml.Value
import Seedkeeper.Toml.Written
import Seedkeeper.Torrent.Basic
import Seedkeeper.Torrent.Json
import Seedkeeper.Torrent.State
import Seedkeeper.Torrent.Tracker
import Seedkeeper.Traffic.Counter
import Seedkeeper.Traffic.Event
import Seedkeeper.Traffic.Ledger
import Seedkeeper.Traffic.Log
import Seedkeeper.Traffic.Replay
import Seedkeeper.Traffic.Report
import Seedkeeper.Traffic.Split
import Seedkeeper.Url.Address
import Seedkeeper.Url.Basic
import Seedkeeper.Url.DomainName
import Seedkeeper.Url.DomainName.Label
import Seedkeeper.Url.DomainName.Mapping
import Seedkeeper.Url.DomainName.MappingTable
import Seedkeeper.Url.DomainName.PropertyTable
import Seedkeeper.Url.Host
import Seedkeeper.Url.Percent
import Seedkeeper.Url.Punycode
