import KisAuth.Interaction.Conformance
import KisAuth.Store.WriteLog
import KisAuth.Service.Handler
import KisAuth.Service.Chronicle
import KisAuth.Service.Answers
import KisAuth.Service.Conduct
import KisAuth.Service.BrowserConduct
import KisAuth.Service.RouteConduct
import KisAuth.Service.InternalConduct
import KisAuth.Service.RunProtocol
import KisAuth.Provenance.Record
import KisAuth.Provenance.Sessions
import KisAuth.Provenance.Grants
import KisAuth.Guarantees.TokenProvenance
import KisAuth.Guarantees.LinkAuthority
import KisAuth.Provenance.Redemptions
import KisAuth.Guarantees.SingleRedemption
import KisAuth.Guarantees.ReplayMemory
import KisAuth.Guarantees.TicketSingleUse
import KisAuth.Security.CanonicalText
import KisAuth.Guarantees.SignatureBinding
import KisAuth.Guarantees.SessionCompletion
import KisAuth.Provenance.Tenants
import KisAuth.Guarantees.TenantBinding
import KisAuth.Guarantees.RegisteredHandOff
import KisAuth.Guarantees.TenantIsolation
import KisAuth.Identity.IdentityRuns
import KisAuth.Identity.TableHistory
import KisAuth.Guarantees.IdentityTable
import KisAuth.Guarantees.LinkConflict
import KisAuth.Guarantees.TenantTokens
import KisAuth.Guarantees.RegistrationProvenance
import KisAuth.Guarantees.CodeDelivery
import KisAuth.Guarantees.ClaimShapes
import KisAuth.Guarantees.DisabledClients
import KisAuth.Guarantees.RevokedIdentities
import KisAuth.Interaction.Timeline
import KisAuth.Service.ServiceTimeline
import KisAuth.Guarantees.SessionLifetime
import KisAuth.Interaction.Erasure
import KisAuth.Runtime.AlikeWorlds
import KisAuth.Service.RedemptionConduct
import KisAuth.Guarantees.ForgedTraffic
import KisAuth.Guarantees.TenantResolution
import KisAuth.Guarantees.NonceLog
import KisAuth.Security.JsonTransport
import KisAuth.Guarantees.SignatureRoundTrip
import KisAuth.Security.SecurityEvents
import KisAuth.Guarantees.OutboundSignatures
import KisAuth.Service.Footprint
import KisAuth.Guarantees.UnsignedRefusals
import KisAuth.Guarantees.InertRefusals
import KisAuth.Store.FixedWindow
import KisAuth.Guarantees.RateWindows
import KisAuth.Guarantees.EventHonesty
import KisAuth.Guarantees.ChallengeUpdates
import KisAuth.Guarantees.SiblingWorlds
import KisAuth.Guarantees.SiblingCallbacks
import KisAuth.Config.PreviousKeys
import KisAuth.Guarantees.KeySpaces
import KisAuth.Guarantees.StatusPage
import KisAuth.Guarantees.PreviousKeys
import KisAuth.Db.Migrate
import KisAuth.Guarantees.Migrations
import KisAuth.Http.PercentCoding
import KisAuth.Guarantees.SessionCookie
import KisAuth.Text.CharacterReferences
import KisAuth.Text.Markup
import KisAuth.Web.Page
import KisAuth.Guarantees.PageMarkup
import KisAuth.Text.FormUrlencoded
import KisAuth.Text.Urls
import KisAuth.Web.HandOff
import KisAuth.Guarantees.HandOffLinks
import KisAuth.Guarantees.CachedLookups
import KisAuth.Service.Terms
import KisAuth.Guarantees.StoreContents
import KisAuth.Guarantees.ProviderRequests
import KisAuth.Interaction.Positions
import KisAuth.Guarantees.TokenTimes
import KisAuth.Interaction.Confined
import KisAuth.Service.Unlimited
import KisAuth.Service.Refusals
import KisAuth.Guarantees.LimitedWork
import KisAuth.Config.Environment
import KisAuth.Guarantees.Startup
import KisAuth.Jwt.Keys
import KisAuth.Guarantees.KeyRotation
import KisAuth.Interaction.OneTimeGrants
import KisAuth.Guarantees.Brokerage
import KisAuth.Guarantees.SignInPossible
import KisAuth.Guarantees.BrowserSessions
import KisAuth.Guarantees.ClientRegistry
