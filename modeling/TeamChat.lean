import TeamChat.Live.Dispatcher
import TeamChat.Live.Stream
import TeamChat.Main
import TeamChat.Workspace
import TeamChat.Limiter.Schedule
import TeamChat.Proofs.Limiter.Contention
import TeamChat.Proofs.Limiter.Window
import TeamChat.Proofs.Live.Relay
import TeamChat.Proofs.Session.Along
import TeamChat.Proofs.Session.History
import TeamChat.Proofs.Session.Messages
import TeamChat.Proofs.Session.Names
import TeamChat.Proofs.Session.Listing
import TeamChat.Proofs.Session.Nesting
import TeamChat.Proofs.Session.Run
import TeamChat.Proofs.Text.Runs
import TeamChat.Proofs.Slash.Grammar
import TeamChat.Proofs.Thread.Alias
import TeamChat.Proofs.Body.Hygiene
import TeamChat.Proofs.Channel.Arrange
import TeamChat.Proofs.Channel.Sidebar
import TeamChat.Proofs.Session.Building
import TeamChat.Proofs.Session.Payment
import TeamChat.Proofs.Session.Replies
import TeamChat.Proofs.Directory.Rows
import TeamChat.Proofs.Session.Inquiries
import TeamChat.Proofs.Session.Placeholder
import TeamChat.Proofs.Directory.Desk
import TeamChat.Proofs.Channel.Refetch
import TeamChat.Proofs.View.Selection
import TeamChat.Proofs.View.Screen
import TeamChat.Proofs.Live.Stream
import TeamChat.Proofs.Terminal.Loads
import TeamChat.Proofs.Live.Line
import TeamChat.Proofs.Calendar.Form
import TeamChat.Proofs.Json.Records
import TeamChat.Proofs.Json.Legible
import TeamChat.Proofs.Wire.Frames
import TeamChat.Proofs.Message.Restored
import TeamChat.Proofs.Remote.Form
import TeamChat.Proofs.Remote.Requests
import TeamChat.Proofs.Channel.MultiParty
import TeamChat.Proofs.Session.Script
import TeamChat.Proofs.Session.Pages
import TeamChat.Proofs.Session.Layout
import TeamChat.Proofs.Body.Decoding
import TeamChat.Proofs.Emoji.Codes
import TeamChat.Proofs.Session.Edited
import TeamChat.Proofs.Binary64.Rounding
import TeamChat.Proofs.Thread.Words
import TeamChat.Proofs.Stamp.Seconds
import TeamChat.Proofs.Slash.Meaning
import TeamChat.Proofs.Channel.Exclusion
import TeamChat.Proofs.View.Past
import TeamChat.Proofs.Session.ByStamp
import TeamChat.Proofs.Limiter.Refills
import TeamChat.Proofs.Emoji.Stability
import TeamChat.Proofs.Emoji.Colons
import TeamChat.Proofs.Directory.Ledger
import TeamChat.Proofs.Directory.Freshness
