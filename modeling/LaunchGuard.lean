import LaunchGuard.Main
import LaunchGuard.Lock.Run
import LaunchGuard.Settings.Run
import LaunchGuard.Proofs.Message.Cut
import LaunchGuard.Proofs.Message.RoundTrip
import LaunchGuard.Proofs.Channel.Attempts
import LaunchGuard.Proofs.Channel.Reading
import LaunchGuard.Proofs.Channel.Service
import LaunchGuard.Proofs.Channel.Query
import LaunchGuard.Proofs.Entries
import LaunchGuard.Proofs.Files.Keeping
import LaunchGuard.Proofs.Lock.Moves
import LaunchGuard.Proofs.Lock.Exclusion
import LaunchGuard.Proofs.Channel.Notify
import LaunchGuard.Proofs.Channel.Duplicate
import LaunchGuard.Proofs.Number.Digits
import LaunchGuard.Proofs.Toml.Words
import LaunchGuard.Proofs.Toml.Lines
import LaunchGuard.Proofs.Toml.PlainDocument
import LaunchGuard.Proofs.Toml.WellFormed
import LaunchGuard.Proofs.Settings.RoundTrip
import LaunchGuard.Proofs.Files.Growing
import LaunchGuard.Proofs.Files.InFolder
import LaunchGuard.Proofs.Files.Content
import LaunchGuard.Proofs.Settings.Store
import LaunchGuard.Proofs.Channel.Retrying
import LaunchGuard.Proofs.Text.Shown
import LaunchGuard.Proofs.Channel.Lines
import LaunchGuard.Proofs.Files.Adding
import LaunchGuard.Proofs.Lock.Groups
import LaunchGuard.Proofs.Lock.Independence
import LaunchGuard.Proofs.Lock.Claiming
import LaunchGuard.Proofs.Log.Sources
import LaunchGuard.Proofs.Startup.Launching
import LaunchGuard.Proofs.Startup.Enforcement
import LaunchGuard.Proofs.Channel.Exchanging
import LaunchGuard.Proofs.Settings.Values
import LaunchGuard.Proofs.Settings.Schema
import LaunchGuard.Proofs.Lock.LiveClaim
import LaunchGuard.Proofs.Text.InvalidParts
import LaunchGuard.Proofs.Message.Decoding
import LaunchGuard.Proofs.Lock.Balance
import LaunchGuard.Proofs.Files.Obstacles
import LaunchGuard.Proofs.Lock.Failing
import LaunchGuard.Proofs.Settings.Override
import LaunchGuard.Proofs.Channel.Verdict
import LaunchGuard.Proofs.Startup.FirstMatch
import LaunchGuard.Proofs.Channel.Raising
import LaunchGuard.Proofs.Text.Escaped
import LaunchGuard.Proofs.Startup.UserName
import LaunchGuard.Proofs.Lock.Naming
