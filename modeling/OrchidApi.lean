import OrchidApi.AuthTraffic
import OrchidApi.AuthViews
import OrchidApi.AuthenticatedChats
import OrchidApi.BloomStream
import OrchidApi.ChatIsolation
import OrchidApi.ChatTitle
import OrchidApi.EndpointAgreement
import OrchidApi.EventsTraffic
import OrchidApi.FileValidation
import OrchidApi.GatewayOverlay
import OrchidApi.GatewayProvenance
import OrchidApi.HandoffText
import OrchidApi.HotReload
import OrchidApi.HttpIngestion
import OrchidApi.InterruptPayloads
import OrchidApi.LimitIsolation
import OrchidApi.LimiterRefinement
import OrchidApi.Listings
import OrchidApi.McpAccess
import OrchidApi.MessageQuota
import OrchidApi.OAuthBinding
import OrchidApi.OAuthPages
import OrchidApi.OAuthReplies
import OrchidApi.Redaction
import OrchidApi.RetryAfter
import OrchidApi.RunCancel
import OrchidApi.ScheduleCadence
import OrchidApi.ScopePromotion
import OrchidApi.SseFrames
import OrchidApi.StreamingDurability
import OrchidApi.StreamingHandoffs
import OrchidApi.StreamingStatus
import OrchidApi.UploadResults
