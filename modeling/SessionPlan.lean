import SessionPlan.Arguments
import SessionPlan.Binary64
import SessionPlan.Binary64.Numeral
import SessionPlan.Binary64.Shortest
import SessionPlan.Binary64.Shown
import SessionPlan.CommandTimeout
import SessionPlan.Configuration
import SessionPlan.Dsn
import SessionPlan.Dsn.Layout
import SessionPlan.Dsn.Printer
import SessionPlan.Duration
import SessionPlan.Environment
import SessionPlan.HostList
import SessionPlan.ParameterError
import SessionPlan.Parameters
import SessionPlan.Plan
import SessionPlan.PortSpec
import SessionPlan.Proofs.AddressRank
import SessionPlan.Proofs.CredentialRank
import SessionPlan.Proofs.DsnGrammar
import SessionPlan.Proofs.DsnRoundTrip
import SessionPlan.Proofs.EmptyVariables
import SessionPlan.Proofs.EnvironmentReach
import SessionPlan.Proofs.Feedback
import SessionPlan.Proofs.HostList
import SessionPlan.Proofs.HostSources
import SessionPlan.Proofs.Layout
import SessionPlan.Proofs.LayoutChange
import SessionPlan.Proofs.NamedHosts
import SessionPlan.Proofs.NonEmptyNames
import SessionPlan.Proofs.Outcome
import SessionPlan.Proofs.Percent
import SessionPlan.Proofs.PortSources
import SessionPlan.Proofs.Query
import SessionPlan.Proofs.TextMap
import SessionPlan.Proofs.Utf8
import SessionPlan.Resolution
import SessionPlan.Resolution.Addresses
import SessionPlan.Resolution.Credentials
import SessionPlan.Target
import SessionPlan.Text.Blank
import SessionPlan.Text.GraphemeExtend
import SessionPlan.Text.Percent
import SessionPlan.Text.Quoted
import SessionPlan.Text.Ranges
import SessionPlan.Text.Split
import SessionPlan.Text.Unprintable
import SessionPlan.Text.Utf8
import SessionPlan.TextMap
import SessionPlan.Toml.Arguments
import SessionPlan.Toml.DateTime
import SessionPlan.Toml.Document
import SessionPlan.Toml.Fields
import SessionPlan.Toml.Literal
import SessionPlan.Toml.Reader
import SessionPlan.Toml.Settings
import SessionPlan.Toml.Tree
import SessionPlan.Toml.Value
import SessionPlan.Proofs.ForwardedSettings
import SessionPlan.Proofs.ListedHosts
import SessionPlan.Proofs.PortText
import SessionPlan.Proofs.PrintedTargets
import SessionPlan.Proofs.PasswordPlaces
import SessionPlan.Proofs.PasswordFlow
import SessionPlan.Proofs.PasswordFaults
import SessionPlan.Proofs.DistinctKeys
import SessionPlan.Proofs.SettingsTable
import SessionPlan.Proofs.DocumentReaders
import SessionPlan.Proofs.DocumentStages
import SessionPlan.Proofs.PortGrammar
import SessionPlan.Proofs.EmptyHosts
import SessionPlan.Proofs.HostEntries
import SessionPlan.Proofs.QueryValues
import SessionPlan.Proofs.SameTargets
import SessionPlan.Proofs.ByteOrder
import SessionPlan.Proofs.StringTables
import SessionPlan.Proofs.Rounding
import SessionPlan.Proofs.WholeTimeouts
import SessionPlan.Proofs.TimeoutDuration
import SessionPlan.Proofs.ShortestDigits
import SessionPlan.Proofs.Numerals
import SessionPlan.Proofs.ShownNumbers
