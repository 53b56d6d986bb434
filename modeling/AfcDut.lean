import AfcDut.Py.Raises
import AfcDut.Py.Json
import AfcDut.Py.Builtins
import AfcDut.Service.Inquiry
import AfcDut.Service.Response
import AfcDut.Simulator.Channels
import AfcDut.Simulator.State
import AfcDut.Simulator.Random
import AfcDut.Simulator.Post
import AfcDut.Lts.Trace
import AfcDut.Simulator.System
import AfcDut.FcAp.Routes
import AfcDut.FcAp.System
import AfcDut.Simulator.Frame
import AfcDut.Simulator.Theorems.ValidRequest
import AfcDut.Rf.Validation
import AfcDut.Spectrum.Mask
import AfcDut.Rf.Verdict
import AfcDut.Rf.Theorems.FalsePass
import AfcDut.Rf.Theorems.MaskCut
import AfcDut.Rf.Theorems.Conjunction
import AfcDut.Py.TwoRuns
import AfcDut.Rf.Scan
import AfcDut.Rf.Relaxed
import AfcDut.Rf.Theorems.Monotone
import AfcDut.Rf.Theorems.AdjacentGrid
import AfcDut.Service.Spec
import AfcDut.Service.Theorems.ResponseFilter
import AfcDut.FcAp.Theorems.Agreement
import AfcDut.FcAp.Theorems.RefusedCalls
import AfcDut.Service.WellFormed
import AfcDut.Simulator.RandomSpec
import AfcDut.Simulator.RandomRuns
import AfcDut.Simulator.Theorems.Acceptance
import AfcDut.Simulator.Flight
import AfcDut.Simulator.Theorems.HeldInquiries
import AfcDut.Simulator.Theorems.StatusPair
import AfcDut.Simulator.Phases
import AfcDut.Simulator.Theorems.TwoPhases
import AfcDut.Simulator.RandomOffers
import AfcDut.Simulator.RandomLimits
import AfcDut.Simulator.Admission
import AfcDut.Simulator.Calls
import AfcDut.Simulator.Theorems.RandomMode
import AfcDut.Simulator.Theorems.RandomVector
import AfcDut.Simulator.Theorems.Admission
import AfcDut.Simulator.Theorems.ResetIsolation
import AfcDut.Simulator.Theorems.ReplyNames
import AfcDut.Wire.Codec
import AfcDut.Indigo.Packet
import AfcDut.Indigo.Grammar
import AfcDut.Indigo.Parse
import AfcDut.Indigo.Assemble
import AfcDut.Indigo.TestClient
import AfcDut.Indigo.Theorems.RoundTrip
import AfcDut.Indigo.Theorems.Datagrams
import AfcDut.Indigo.Fill
import AfcDut.Indigo.Theorems.ShortBuffers
import AfcDut.Indigo.Server
import AfcDut.Indigo.Theorems.ControlProtocol
import AfcDut.Py.Text
import AfcDut.Data.ListDict
import AfcDut.Data.ListModify
import AfcDut.Analyzer.Litepoint
import AfcDut.Analyzer.Sweep
import AfcDut.Analyzer.Theorems.FailClosed
import AfcDut.Analyzer.Capture
import AfcDut.Analyzer.Tool
import AfcDut.Analyzer.Theorems.Grouping
import AfcDut.ControlApp.Interfaces
import AfcDut.ControlApp.ApHandlers
import AfcDut.ControlApp.Accounting
import AfcDut.ControlApp.ConfFiles
import AfcDut.ControlApp.Pointers
import AfcDut.ControlApp.Placing
import AfcDut.ControlApp.TableChanges
import AfcDut.ControlApp.Books
import AfcDut.ControlApp.Theorems.ConfigFiles
import AfcDut.ControlApp.Theorems.InterfaceTable
import AfcDut.ControlApp.Icmp
import AfcDut.Data.OnesComplement
import AfcDut.ControlApp.Theorems.IcmpChecksum
import AfcDut.Data.Search
import AfcDut.ControlApp.KeyValue
import AfcDut.ControlApp.Theorems.KeyValue
import AfcDut.ControlApp.HapdCommand
import AfcDut.ControlApp.Theorems.HapdCommand
import AfcDut.Indigo.Accepted
import AfcDut.ControlApp.AfcHandlers
import AfcDut.ControlApp.Theorems.AfcCopies
import AfcDut.Conf.Profiles
import AfcDut.Conf.Hostapd
import AfcDut.Conf.HapdStep
import AfcDut.Data.Gathered
import AfcDut.Conf.HapdRun
import AfcDut.Conf.HapdChars
import AfcDut.Conf.Theorems.TextBounds
import AfcDut.Conf.HapdLines
import AfcDut.Conf.Headings
import AfcDut.Conf.Placement
import AfcDut.Conf.Theorems.RequestOnly
import AfcDut.Conf.Band
import AfcDut.Conf.Decided
import AfcDut.Conf.Undecided
import AfcDut.Data.Lines
import AfcDut.Conf.HapdPieces
import AfcDut.Conf.HapdOrder
import AfcDut.Conf.HapdSwap
import AfcDut.Conf.Theorems.TlvOrder
import AfcDut.Conf.Wpas
import AfcDut.Conf.Credentials
import AfcDut.Conf.ReadBack
import AfcDut.Conf.Entries
import AfcDut.Conf.FileEntries
import AfcDut.Conf.Theorems.CredentialsBack
import AfcDut.Data.TimerQueue
import AfcDut.Eloop.State
import AfcDut.Eloop.Run
import AfcDut.Data.Scan
import AfcDut.Eloop.Numbered
import AfcDut.Eloop.Theorems.Timeouts
import AfcDut.Eloop.Theorems.Readers
import AfcDut.Eloop.Theorems.Signals
import AfcDut.ControlApp.Loopback
import AfcDut.ControlApp.LoopbackBooks
import AfcDut.ControlApp.Theorems.Loopback
import AfcDut.ControlApp.WpaCtrl
import AfcDut.ControlApp.Theorems.WpaCtrl
import AfcDut.Conf.TextFiles
import AfcDut.Conf.Theorems.Sections
import AfcDut.Analyzer.Script
import AfcDut.Analyzer.Theorems.Centre
import AfcDut.Analyzer.Theorems.Script
import AfcDut.Rf.Document
import AfcDut.Analyzer.Theorems.Drawn
