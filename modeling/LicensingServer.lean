import LicensingServer.Foundations.BigEndian
import LicensingServer.Foundations.TransitionSystem
import LicensingServer.Foundations.CipherMode
import LicensingServer.Database.Tables
import LicensingServer.Database.TableLookups
import LicensingServer.Authorization.Decision
import LicensingServer.Foundations.Transducer
import LicensingServer.Server.Provenance
import LicensingServer.Server.HonestClients
import LicensingServer.Server.Malformed
import LicensingServer.Crypto.Library
import LicensingServer.Foundations.StraightLine
import LicensingServer.Crypto.Object
import LicensingServer.Crypto.KeyExchange
import LicensingServer.Crypto.KeyAgreement
import LicensingServer.Crypto.Reference
import LicensingServer.Server.Threads
import LicensingServer.Server.HandOff
import LicensingServer.Server.CryptoState
import LicensingServer.Server.ReplyKeys
import LicensingServer.Foundations.Multipart
import LicensingServer.Server.Outgoing
import LicensingServer.Authorization.Calls
import LicensingServer.Server.Survival
import LicensingServer.Sessions.Client
import LicensingServer.Sessions.World
import LicensingServer.Sessions.ClientState
import LicensingServer.Sessions.Turns
import LicensingServer.Sessions.Orderly
import LicensingServer.Sessions.Served
import LicensingServer.Server.Refinement
import LicensingServer.Authorization.Identities
import LicensingServer.Authorization.Outcomes
import LicensingServer.Crypto.Codec
import LicensingServer.Crypto.Ownership
import LicensingServer.Crypto.PeerBlocks
import LicensingServer.Foundations.Unwinding
import LicensingServer.Sessions.Observer
import LicensingServer.Crypto.Golden
import LicensingServer.Crypto.Messages
import LicensingServer.Database.Holdings
import LicensingServer.Database.Lifecycle
import LicensingServer.Database.Lifetime
import LicensingServer.Deployment.Acceptance
import LicensingServer.Deployment.Ending
import LicensingServer.Server.Failures
import LicensingServer.Server.KeyObject
import LicensingServer.Sessions.Impostor
import LicensingServer.Sessions.Progress
