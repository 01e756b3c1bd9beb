import SipSimple.Library.BlockStream
import SipSimple.Library.Runs
import SipSimple.Library.TreePaths
import SipSimple.Library.SortedDict
import SipSimple.Library.KeyedList
import SipSimple.Library.LiveStore
import SipSimple.Library.Loops
import SipSimple.Payloads.AddressBook
import SipSimple.Payloads.ResourceLists
import SipSimple.Account.Xcap.Objects
import SipSimple.Account.Xcap.Handlers
import SipSimple.Account.Xcap.Document
import SipSimple.Account.Xcap.DerivedLists
import SipSimple.Account.Xcap.DirtyTracking
import SipSimple.Account.Xcap.UploadRuns
import SipSimple.Account.Xcap.Manager
import SipSimple.Account.Xcap.ManagerProgress
import SipSimple.Account.Xcap.ManagerQuiet
import SipSimple.AddressBook.Objects
import SipSimple.AddressBook.ContactCards
import SipSimple.AddressBook.SaveOperations
import SipSimple.AddressBook.Snapshots
import SipSimple.AddressBook.Manager
import SipSimple.AddressBook.ManagerInvariant
import SipSimple.AddressBook.ReloadConvergence
import SipSimple.AddressBook.Convergence
import SipSimple.Configuration.FileBackend
import SipSimple.Configuration.FileTokens
import SipSimple.Configuration.FileRoundTrip
import SipSimple.Configuration.FileLosses
import SipSimple.Configuration.Manager
import SipSimple.Configuration.MergeSemantics
import SipSimple.Configuration.Settings
import SipSimple.Configuration.SaveReload
import SipSimple.Configuration.ModifiedReports
import SipSimple.Configuration.ExactReports
import SipSimple.Configuration.SharedItems
import SipSimple.Configuration.SettingsObject
import SipSimple.Configuration.ObjectIds
import SipSimple.Core.Invitation
import SipSimple.Core.AudioMixer
import SipSimple.Core.InvitationTermination
import SipSimple.Core.NotifierLifecycle
import SipSimple.Streams.FileTransfer
import SipSimple.Streams.FileTransferIntegrity
import SipSimple.Streams.ChatStream
import SipSimple.Streams.ChatDelivery
import SipSimple.Audio.Bridge
import SipSimple.Audio.Forest
import SipSimple.Audio.MeshSteps
import SipSimple.Audio.Mesh
import SipSimple.Streams.RTPStream
import SipSimple.Streams.AudioHold
import SipSimple.Streams.AudioHoldRuns
import SipSimple.Streams.RTPInitialization
import SipSimple.Account.Bonjour
import SipSimple.Account.BonjourQuiet
import SipSimple.Account.BonjourNeighbours
import SipSimple.Account.BonjourMirror
import SipSimple.Core.Primitives
import SipSimple.Account.RequestLoop
import SipSimple.Account.RequestLoopInvariant
import SipSimple.Account.RequestLoopHandlers
import SipSimple.Account.RequestLoopInputs
import SipSimple.Account.RequestLoopRules
import SipSimple.Account.Registration
import SipSimple.Account.Publication
import SipSimple.Account.CommandLoops
import SipSimple.Account.RegistrationQuiet
import SipSimple.Util.Sha1
import SipSimple.Core.Subscription
import SipSimple.Account.SubscriptionLoop
import SipSimple.Account.Subscribers
import SipSimple.Account.SubscriptionEvents
import SipSimple.Account.VersionedState
import SipSimple.Account.VersionOrder
import SipSimple.Account.Accounts
import SipSimple.Account.DefaultAccount
import SipSimple.Application.SIPApplication
import SipSimple.Application.LifeCycle
import SipSimple.Streams.OutgoingFileTransfer
import SipSimple.Streams.SentRanges
import SipSimple.AddressBook.LocalStore
import SipSimple.AddressBook.ReferentialIntegrity
import SipSimple.Library.Patterns
import SipSimple.Configuration.Addresses
import SipSimple.Core.SIPURI
import SipSimple.Core.Headers
import SipSimple.Core.HeaderLaws
import SipSimple.Core.HeaderCodecs
import SipSimple.Core.SIPURIMatching
import SipSimple.Core.AddressGroups
import SipSimple.Core.PlainURIs
import SipSimple.Core.SIPURIRecognition
import SipSimple.Core.Request
import SipSimple.Core.RequestLifeCycle
import SipSimple.Streams.ChatReassembly
import SipSimple.Library.UnicodeCodecs
import SipSimple.Streams.CPIMCodec
import SipSimple.Library.RingQueue
import SipSimple.Core.Baudot
import SipSimple.Core.BaudotSignal
import SipSimple.Core.TTYModulator
import SipSimple.Library.TextSearch
import SipSimple.Streams.FileSelector
import SipSimple.Core.SDP
import SipSimple.Core.SDPUpdates
import SipSimple.Library.OrderedForest
import SipSimple.Payloads.ListElements
import SipSimple.Payloads.ListRepresentation
import SipSimple.Payloads.ListRuns
import SipSimple.Library.XMLText
import SipSimple.Payloads.ResourcePaths
import SipSimple.Payloads.ResourceSearch
import SipSimple.Payloads.NodeSelectors
import SipSimple.Payloads.ResourceIdentity
import SipSimple.Library.StableSort
import SipSimple.Library.LoggedAttempts
import SipSimple.Lookup.Routes
import SipSimple.Lookup.DNSLookup
import SipSimple.Lookup.Contents
import SipSimple.Lookup.RouteOrder
import SipSimple.Lookup.SIPProxy
import SipSimple.Lookup.DNSCache
import SipSimple.Lookup.AdditionalRecords
import SipSimple.Lookup.Servers
import SipSimple.Core.InvitationTransfer
import SipSimple.Core.TransferOutcomes
import SipSimple.Library.SerialLine
import SipSimple.Core.BaudotReceiver
import SipSimple.Core.BaudotText
