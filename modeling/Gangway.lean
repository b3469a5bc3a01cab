import Gangway.Cipher.Aes
import Gangway.Cipher.Blowfish
import Gangway.Cipher.ChaCha
import Gangway.Cipher.Modes
import Gangway.Cipher.PassphraseKey
import Gangway.Config.Arguments
import Gangway.Config.Help
import Gangway.Config.Load
import Gangway.Config.Settings
import Gangway.Config.Value
import Gangway.Config.Variables
import Gangway.Curve.Edwards
import Gangway.Curve.Modular
import Gangway.Curve.Weierstrass
import Gangway.Digest.Hmac
import Gangway.Digest.Sha1
import Gangway.Digest.Sha256
import Gangway.Digest.Sha512
import Gangway.Digest.Words
import Gangway.Encoding.Base64
import Gangway.Encoding.Der
import Gangway.Encoding.Hex
import Gangway.Encoding.Json
import Gangway.Engine.Classification
import Gangway.Engine.Client
import Gangway.Engine.ClientError
import Gangway.Engine.Connection
import Gangway.Engine.Destinations
import Gangway.Engine.Document
import Gangway.Engine.Listener
import Gangway.Engine.Liveness
import Gangway.Engine.Resolver
import Gangway.Engine.Transport
import Gangway.Entries
import Gangway.Environment
import Gangway.Error
import Gangway.Files.Basic
import Gangway.Files.Path
import Gangway.Files.Snapshot
import Gangway.Files.Tree
import Gangway.Main
import Gangway.OsText
import Gangway.Program
import Gangway.Proofs.Config.Agreement
import Gangway.Proofs.Config.Dependence
import Gangway.Proofs.Config.Discovery
import Gangway.Proofs.Config.Leaves
import Gangway.Proofs.Config.Merging
import Gangway.Proofs.Config.OneFile
import Gangway.Proofs.Config.Precedence
import Gangway.Proofs.Config.Reordering
import Gangway.Proofs.Config.Supply
import Gangway.Proofs.Config.VariableLayer
import Gangway.Proofs.Connection.BarePath
import Gangway.Proofs.Connection.Building
import Gangway.Proofs.Connection.Facade
import Gangway.Proofs.Connection.OneKey
import Gangway.Proofs.Connection.Passphrase
import Gangway.Proofs.Connection.Runs
import Gangway.Proofs.Connection.Schemes
import Gangway.Proofs.Connection.Spelling
import Gangway.Proofs.Connection.Stages
import Gangway.Proofs.Connection.Tunnel
import Gangway.Proofs.Encoding.Base64
import Gangway.Proofs.Engine.Diagnosis
import Gangway.Proofs.Files.Paths
import Gangway.Proofs.Files.Reaching
import Gangway.Proofs.Handshake.Authentication
import Gangway.Proofs.Handshake.Offering
import Gangway.Proofs.Handshake.Outcome
import Gangway.Proofs.Identities.KeySet
import Gangway.Proofs.Identities.Passphrase
import Gangway.Proofs.Identities.PublicHalf
import Gangway.Proofs.Identities.Redaction
import Gangway.Proofs.Keyed
import Gangway.Proofs.Outcomes
import Gangway.Proofs.Params.Encoded
import Gangway.Proofs.Params.Parts
import Gangway.Proofs.Params.Security
import Gangway.Proofs.Params.SocketPath
import Gangway.Proofs.Params.Written
import Gangway.Proofs.Program.Prediction
import Gangway.Proofs.Relay.Isolation
import Gangway.Proofs.Relay.Ledger
import Gangway.Proofs.Relay.Moves
import Gangway.Proofs.Resolution.Choice
import Gangway.Proofs.Resolution.Composition
import Gangway.Proofs.Resolution.Interpretation
import Gangway.Proofs.Resolution.Relabelling
import Gangway.Proofs.Resolution.Schemes
import Gangway.Proofs.Resolution.Selection
import Gangway.Proofs.Resolution.Sources
import Gangway.Proofs.Resolution.SshScan
import Gangway.Proofs.Resolution.UnixChain
import Gangway.Proofs.Text.ByteOrder
import Gangway.Proofs.Text.Cutting
import Gangway.Proofs.Text.Digits
import Gangway.Proofs.Text.Glob
import Gangway.Proofs.Text.Letters
import Gangway.Proofs.Text.Lines
import Gangway.Proofs.Text.Quoted
import Gangway.Proofs.Text.Utf8
import Gangway.Proofs.Text.Words
import Gangway.Proofs.Toml.Keys
import Gangway.Proofs.Trust.Decision
import Gangway.Proofs.Trust.LookupNames
import Gangway.Proofs.Trust.Skipping
import Gangway.Proofs.Trust.Store
import Gangway.Proofs.Trust.Written
import Gangway.Proofs.Uri.Address
import Gangway.Proofs.Uri.Authority
import Gangway.Proofs.Uri.Encoding
import Gangway.Proofs.Uri.Form
import Gangway.Proofs.Uri.Paths
import Gangway.Proofs.Uri.Query
import Gangway.Proofs.Uri.Reading
import Gangway.Proofs.Uri.Shape
import Gangway.Ssh.AuthMethods
import Gangway.Ssh.Bastion
import Gangway.Ssh.Handshake
import Gangway.Ssh.HostKeyPolicy
import Gangway.Ssh.HostPattern
import Gangway.Ssh.LookupName
import Gangway.Ssh.Params
import Gangway.Ssh.PublicKey
import Gangway.Ssh.Relay.Place
import Gangway.Ssh.Relay.State
import Gangway.Ssh.Relay.Trip
import Gangway.Ssh.Signer.Armour
import Gangway.Ssh.Signer.Basic
import Gangway.Ssh.Signer.Container
import Gangway.Ssh.Signer.Load
import Gangway.Ssh.Signer.Structured
import Gangway.Ssh.TrustStore
import Gangway.Ssh.Wire
import Gangway.Text.Blank
import Gangway.Text.Case
import Gangway.Text.Cut
import Gangway.Text.Glob
import Gangway.Text.Lines
import Gangway.Text.Printable
import Gangway.Text.Quoted
import Gangway.Text.Utf8
import Gangway.Timed
import Gangway.Toml.Build
import Gangway.Toml.Document
import Gangway.Toml.Quoted
import Gangway.Toml.Scalar
import Gangway.Toml.Value
import Gangway.Uri.Basic
import Gangway.Uri.Host
import Gangway.Uri.Ipv6
import Gangway.Uri.Path
import Gangway.Uri.Percent
import Gangway.Uri.Punycode
import Gangway.Uri.Query
import Gangway.Proofs.Text.Wildcards
import Gangway.Proofs.Trust.Patterns
import Gangway.Proofs.Trust.LetterCase
import Gangway.Proofs.Config.Insertion
