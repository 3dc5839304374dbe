import ConnectSDK.Foundation.Run
import ConnectSDK.Foundation.Heap
import ConnectSDK.Foundation.Dictionary
import ConnectSDK.Foundation.JSON
import ConnectSDK.Services.Config.ServiceConfig
import ConnectSDK.Services.Config.ServiceDescription
import ConnectSDK.Services.DeviceService
import ConnectSDK.Devices.ConnectableDevice
import ConnectSDK.Devices.ObjectGraph
import ConnectSDK.Devices.StoreWriter
import ConnectSDK.Devices.DefaultConnectableDeviceStore
import ConnectSDK.Devices.StoredServices
import ConnectSDK.Devices.StoreSession
import ConnectSDK.Devices.DeviceRemoval
import ConnectSDK.Devices.RecordExpiry
import ConnectSDK.Discovery.DiscoveryManager
import ConnectSDK.Discovery.DeviceRegistration
import ConnectSDK.Discovery.DeviceReports
import ConnectSDK.Discovery.Soundness
import ConnectSDK.Discovery.DeviceKeys
import ConnectSDK.Discovery.Compatibility
import ConnectSDK.Discovery.Notifications
import ConnectSDK.Discovery.AccurateRegistrations
import ConnectSDK.Discovery.ReplacedServices
import ConnectSDK.Services.Helpers.ImpostorHello
import ConnectSDK.Services.Helpers.SettledCommands
import ConnectSDK.Services.Helpers.RegisteredCalls
import ConnectSDK.Services.Helpers.SubmittedStrings
import ConnectSDK.Services.Helpers.RestoredSubscriptions
import ConnectSDK.Services.Helpers.UnsubscribedCallbacks
import ConnectSDK.Services.Helpers.LGCast.CallbackRouting
import ConnectSDK.Services.Helpers.LGCast.LateReplies
import ConnectSDK.Services.Helpers.LGCast.RunningServices
import ConnectSDK.Services.Helpers.LGCast.Teardowns
import ConnectSDK.Discovery.RunningProviders
import ConnectSDK.Discovery.PickedDevices
import ConnectSDK.Devices.CapabilityUpdates
import ConnectSDK.Discovery.SSDPDepartures
import ConnectSDK.Discovery.SSDPResponses
import ConnectSDK.Discovery.ResolvedServices
import ConnectSDK.Services.EventSubscriptions
import ConnectSDK.Services.LostConnections
import ConnectSDK.Devices.DisconnectedMessages
import ConnectSDK.Services.Config.ConfigObservers
import ConnectSDK.Services.KeyboardStrokes
import ConnectSDK.Services.TextInputCallbacks
import ConnectSDK.Discovery.USNHeaders
import ConnectSDK.Discovery.CapabilityFamilies
import ConnectSDK.Services.Helpers.SubscriptionReferences
import ConnectSDK.Services.Helpers.ConnectionReports
import ConnectSDK.Services.SessionIds
import ConnectSDK.Services.RegisteredSessions
import ConnectSDK.Services.Sessions.MediaCommandAnswers
import ConnectSDK.Services.Config.DescriptionRecords
import ConnectSDK.Discovery.AnnouncedCopies
import ConnectSDK.Devices.DeviceRecords
import ConnectSDK.Services.Sessions.LaunchSession
import ConnectSDK.Devices.LatestServices
import ConnectSDK.Devices.UpdatedRecords
import ConnectSDK.Discovery.SharedDescriptions
import ConnectSDK.Discovery.FilterRequirements
import ConnectSDK.Discovery.DeviceDescriptions
import ConnectSDK.Services.Config.ConfigSetters
import ConnectSDK.Services.Helpers.AirPlayServiceHTTP
import ConnectSDK.Services.Commands.CommandCalls
import ConnectSDK.Helpers.KeyPredicateSearch
import ConnectSDK.Helpers.EntityEscapes
import ConnectSDK.Services.LaunchQueries
import ConnectSDK.Discovery.TXTRecords
import ConnectSDK.Helpers.SSDPSocketListener
import ConnectSDK.Services.Helpers.LGCast.CameraParameters
import ConnectSDK.Discovery.SSIDTimers
import ConnectSDK.Services.Helpers.EventKeys
import ConnectSDK.Services.PlayedMedia
import ConnectSDK.Services.DLNAReplies
import ConnectSDK.Foundation.UTF16
import ConnectSDK.Services.NetcastKeyboard
import ConnectSDK.Foundation.DecimalText
import ConnectSDK.Services.NetcastLists
import ConnectSDK.Services.NetcastMouse
import ConnectSDK.Services.NetcastToggles
import ConnectSDK.Services.Sessions.MessageCallbacks
import ConnectSDK.Services.MouseCallbacks
import ConnectSDK.Services.NetcastEnvelopes
import ConnectSDK.Services.TransportTimes
import ConnectSDK.Devices.CapabilityAccessors
import ConnectSDK.Helpers.SubscriptionDeduplicator
import ConnectSDK.Helpers.UnicodeEscapes
import ConnectSDK.Frameworks.DelegateCalls
import ConnectSDK.Frameworks.Deliveries
import ConnectSDK.Frameworks.CTXMLReader
import ConnectSDK.Frameworks.XMLDictionaries
import ConnectSDK.Frameworks.XMLPaths
import ConnectSDK.Frameworks.CTGuid
import ConnectSDK.Frameworks.ResponseBodies
