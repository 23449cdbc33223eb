import WsBlast.Lib.EvenSplit
import WsBlast.Lib.Hdr
import WsBlast.Lib.TallyMap
import WsBlast.Basic
import WsBlast.Chaos
import WsBlast.Template
import WsBlast.Base64
import WsBlast.Config
import WsBlast.Plan
import WsBlast.Histogram
import WsBlast.Intervals
import WsBlast.Metrics
import WsBlast.Totals
import WsBlast.WireTotals
import WsBlast.TimeSeries
import WsBlast.Sampler
import WsBlast.SeriesLatency
import WsBlast.Lag
import WsBlast.Lib.Proc
import WsBlast.Message
import WsBlast.Session
import WsBlast.Modes
import WsBlast.SocketIo
import WsBlast.Worker
import WsBlast.Ledger
import WsBlast.SessionLedger
import WsBlast.ModesLedger
import WsBlast.Lib.Interleave
import WsBlast.Summary
import WsBlast.WorkerLedger
import WsBlast.Fleet
import WsBlast.FleetRuns
import WsBlast.ErrorRate
import WsBlast.RequestCap
import WsBlast.Slots
import WsBlast.SocketIoRuns
import WsBlast.FailureCounts
import WsBlast.DataRows
import WsBlast.LiveCounters
import WsBlast.Control
import WsBlast.Outcome
import WsBlast.Slo
import WsBlast.Phase
import WsBlast.ScenarioMerge
import WsBlast.ScenarioAgreement
import WsBlast.OneMachine
import WsBlast.SloGate
import WsBlast.Lib.Checked
import WsBlast.Host
import WsBlast.DataFile
import WsBlast.Builder
import WsBlast.ScenarioFile
import WsBlast.CommandLine
import WsBlast.ChaosState
import WsBlast.ScenarioSeed
import WsBlast.PhasePayload
import WsBlast.Capture
import WsBlast.CaptureAccounting
import WsBlast.CaptureFile
import WsBlast.Lib.OrderedMap
import WsBlast.MergedAccounting
import WsBlast.Replay
import WsBlast.SharedRecorder
import WsBlast.SocketIoCounts
import WsBlast.EchoCounts
import WsBlast.FaultDecisions
import WsBlast.SendTimes
import WsBlast.ArrivalLoop
import WsBlast.SeriesMerge
import WsBlast.WorkerIds
import WsBlast.CompressionOffer
import WsBlast.DeflateAgreement
import WsBlast.DeflateChunks
import WsBlast.DeflateErrors
import WsBlast.DeflateRoundTrip
import WsBlast.ReplayCapture
import WsBlast.MockReplies
import WsBlast.CsvTables
import WsBlast.IntervalRuns
import WsBlast.WorstAgent
import WsBlast.Corruption
import WsBlast.ReadPauses
import WsBlast.FallbackOffers
import WsBlast.LagAccounting
import WsBlast.SocketIoWire
import WsBlast.FinalBlocks
import WsBlast.SocketIoAgreement
import WsBlast.AgentRules
import WsBlast.AgentToken
import WsBlast.JsonPointers
import WsBlast.HandshakeHeaders
import WsBlast.AuthTemplates
import WsBlast.Seeds
import WsBlast.SeriesLength
import WsBlast.StageTargets
import WsBlast.StagedRun
import WsBlast.ConnectRace
import WsBlast.ComparisonVerdicts
import WsBlast.TokenRefresh
import WsBlast.ArrivalClock
import WsBlast.Clock
import WsBlast.ClusterCounters
import WsBlast.AgentConfig
import WsBlast.WireTrip
import WsBlast.Credentials
import WsBlast.PhaseScripts
import WsBlast.Vetting
import WsBlast.Lib.FormQuery
import WsBlast.SiteUrls
import WsBlast.AgentAcceptance
import WsBlast.AgentSettings
import WsBlast.LiveIntervals
import WsBlast.Dashboard
import WsBlast.WatchedRun
import WsBlast.WatchedFrames
import WsBlast.DashboardHistory
import WsBlast.DashboardWindow
import WsBlast.Lib.FirstPrefix
import WsBlast.Scrape
import WsBlast.ScrapeAnswers
import WsBlast.ScrapeSlots
import WsBlast.MockRulesFile
import WsBlast.MockSessions
import WsBlast.MockServer
import WsBlast.Lib.KeepLast
import WsBlast.ClusterIntervals
import WsBlast.JwtTokens
