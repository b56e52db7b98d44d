import LiveStreaming.Basic
import LiveStreaming.Chat.Room
import LiveStreaming.Chat.Operations
import LiveStreaming.Chat.Failure
import LiveStreaming.Chat.Run
import LiveStreaming.Chat.Admission
import LiveStreaming.Chat.Moderation
import LiveStreaming.Chat.Provenance
import LiveStreaming.Chat.FanOut
import LiveStreaming.Chat.History
import LiveStreaming.StreamKey.Manager
import LiveStreaming.StreamKey.Revoke
import LiveStreaming.StreamKey.Expiry
import LiveStreaming.StreamKey.Index
import LiveStreaming.StreamKey.Encoding
import LiveStreaming.Vod.Service
import LiveStreaming.Vod.Run
import LiveStreaming.Vod.Lifecycle
import LiveStreaming.Vod.Playback
import LiveStreaming.Vod.Index
import LiveStreaming.Api.Recording
import LiveStreaming.Api.StreamKeys
import LiveStreaming.Api.Chat
import LiveStreaming.Analytics.Service
import LiveStreaming.Analytics.Viewers
import LiveStreaming.Analytics.Run
import LiveStreaming.Reactions.Service
import LiveStreaming.Reactions.RateLimit
import LiveStreaming.Reactions.Room
import LiveStreaming.Reactions.Recent
import LiveStreaming.Reactions.Binding
import LiveStreaming.Reactions.Leaderboard
import LiveStreaming.Reactions.Pacing
import LiveStreaming.Notifications.Service
import LiveStreaming.Notifications.Followers
import LiveStreaming.Notifications.Interleaving
import LiveStreaming.Notifications.Store
import LiveStreaming.Server.Env
import LiveStreaming.Server.Auth
import LiveStreaming.Server.Accounts
import LiveStreaming.Server.Registry
