import GatewayProvisioning.Admin.Client
import GatewayProvisioning.Admin.Consumers
import GatewayProvisioning.Admin.Provisioning
import GatewayProvisioning.Admin.SecretStore
import GatewayProvisioning.CommandLine.Command
import GatewayProvisioning.CommandLine.Grammar
import GatewayProvisioning.CommandLine.Run
import GatewayProvisioning.CommandLine.Span
import GatewayProvisioning.Configuration.Basic
import GatewayProvisioning.Configuration.Fault
import GatewayProvisioning.Configuration.Reader
import GatewayProvisioning.Decimal.Digits
import GatewayProvisioning.Decimal.Number
import GatewayProvisioning.Decimal.Shortest
import GatewayProvisioning.Der.Element
import GatewayProvisioning.Digest.Hmac
import GatewayProvisioning.Digest.Sha256
import GatewayProvisioning.Document.Codec
import GatewayProvisioning.Document.Node
import GatewayProvisioning.Document.ReadError
import GatewayProvisioning.Document.Scalar
import GatewayProvisioning.Failure
import GatewayProvisioning.Files.Disk
import GatewayProvisioning.Files.Effect
import GatewayProvisioning.Files.Fault
import GatewayProvisioning.Files.Install
import GatewayProvisioning.Files.Path
import GatewayProvisioning.Files.Source
import GatewayProvisioning.Gateway.Auth
import GatewayProvisioning.Gateway.Certificate
import GatewayProvisioning.Gateway.Consumer
import GatewayProvisioning.Gateway.Listing
import GatewayProvisioning.Gateway.Plugin
import GatewayProvisioning.Gateway.Route
import GatewayProvisioning.Gateway.RouteList
import GatewayProvisioning.Gateway.Settings
import GatewayProvisioning.Http.Dialogue
import GatewayProvisioning.Http.Request
import GatewayProvisioning.Http.Wire
import GatewayProvisioning.Json.Basic
import GatewayProvisioning.Json.Reader
import GatewayProvisioning.Logging
import GatewayProvisioning.Main
import GatewayProvisioning.NameMap
import GatewayProvisioning.Pem.Base64
import GatewayProvisioning.Pem.Envelope
import GatewayProvisioning.Pem.Fault
import GatewayProvisioning.Pem.Section
import GatewayProvisioning.Signature.Curve
import GatewayProvisioning.Signature.Ecdsa
import GatewayProvisioning.Signature.Fault
import GatewayProvisioning.Signature.Modular
import GatewayProvisioning.Signature.Rsa
import GatewayProvisioning.Text.Base64
import GatewayProvisioning.Text.Basic
import GatewayProvisioning.Text.CaseTable
import GatewayProvisioning.Text.Composition
import GatewayProvisioning.Text.CompositionTable
import GatewayProvisioning.Text.Lowercase
import GatewayProvisioning.Text.PrintTable
import GatewayProvisioning.Text.Quoted
import GatewayProvisioning.Text.Ranges
import GatewayProvisioning.Text.Utf8
import GatewayProvisioning.Tls.Anchor
import GatewayProvisioning.Tls.Install
import GatewayProvisioning.Tls.Options
import GatewayProvisioning.Token.Admin
import GatewayProvisioning.Token.Claims
import GatewayProvisioning.Token.Consumer
import GatewayProvisioning.Token.File
import GatewayProvisioning.Toml.Item
import GatewayProvisioning.Toml.Reader
import GatewayProvisioning.Toml.Scalar
import GatewayProvisioning.Url.Address
import GatewayProvisioning.Url.Basic
import GatewayProvisioning.Url.Fault
import GatewayProvisioning.Url.Host
import GatewayProvisioning.Url.Idna.ClassTable
import GatewayProvisioning.Url.Idna.Label
import GatewayProvisioning.Url.Idna.MappingTable
import GatewayProvisioning.Url.Idna.Name
import GatewayProvisioning.Url.Idna.Punycode
import GatewayProvisioning.Url.Percent
import GatewayProvisioning.Url.Reader
import GatewayProvisioning.Yaml.Mark
import GatewayProvisioning.Yaml.Meaning
import GatewayProvisioning.Yaml.Reader
import GatewayProvisioning.Yaml.Scalar
import GatewayProvisioning.Yaml.Token
import GatewayProvisioning.Proofs.AdminCalls
import GatewayProvisioning.Proofs.AsciiForms
import GatewayProvisioning.Proofs.Asking
import GatewayProvisioning.Proofs.BarredHosts
import GatewayProvisioning.Proofs.Base64Text
import GatewayProvisioning.Proofs.Below
import GatewayProvisioning.Proofs.CommandGate
import GatewayProvisioning.Proofs.Cutting
import GatewayProvisioning.Proofs.Demands
import GatewayProvisioning.Proofs.Dialogue
import GatewayProvisioning.Proofs.Digits
import GatewayProvisioning.Proofs.Disks
import GatewayProvisioning.Proofs.DottedNames
import GatewayProvisioning.Proofs.EffectiveRoutes
import GatewayProvisioning.Proofs.Emptying
import GatewayProvisioning.Proofs.EncodedNames
import GatewayProvisioning.Proofs.EntryByEntry
import GatewayProvisioning.Proofs.Exposure
import GatewayProvisioning.Proofs.FormText
import GatewayProvisioning.Proofs.GatewayAnswers
import GatewayProvisioning.Proofs.HeaderStep
import GatewayProvisioning.Proofs.InitPlan
import GatewayProvisioning.Proofs.InitTwice
import GatewayProvisioning.Proofs.InstalledPair
import GatewayProvisioning.Proofs.Installing
import GatewayProvisioning.Proofs.Inventory
import GatewayProvisioning.Proofs.JoinedAddresses
import GatewayProvisioning.Proofs.JsonReading
import GatewayProvisioning.Proofs.JsonSpelling
import GatewayProvisioning.Proofs.JsonText
import GatewayProvisioning.Proofs.LastWord
import GatewayProvisioning.Proofs.Ledger
import GatewayProvisioning.Proofs.ListingWalk
import GatewayProvisioning.Proofs.Lossless
import GatewayProvisioning.Proofs.MissingToken
import GatewayProvisioning.Proofs.ModelText
import GatewayProvisioning.Proofs.NameMaps
import GatewayProvisioning.Proofs.NamedMembers
import GatewayProvisioning.Proofs.NewUser
import GatewayProvisioning.Proofs.Pages
import GatewayProvisioning.Proofs.PairInPlace
import GatewayProvisioning.Proofs.Parts
import GatewayProvisioning.Proofs.PemBase64
import GatewayProvisioning.Proofs.PemSections
import GatewayProvisioning.Proofs.Percent
import GatewayProvisioning.Proofs.PlainHosts
import GatewayProvisioning.Proofs.PluginForm
import GatewayProvisioning.Proofs.ResetRounds
import GatewayProvisioning.Proofs.Results
import GatewayProvisioning.Proofs.RouteText
import GatewayProvisioning.Proofs.Segments
import GatewayProvisioning.Proofs.ServerNames
import GatewayProvisioning.Proofs.ServicePlugins
import GatewayProvisioning.Proofs.Sessions
import GatewayProvisioning.Proofs.SignedTokens
import GatewayProvisioning.Proofs.StaticRoutes
import GatewayProvisioning.Proofs.Store
import GatewayProvisioning.Proofs.Targets
import GatewayProvisioning.Proofs.TokenFiles
import GatewayProvisioning.Proofs.TokenFlow
import GatewayProvisioning.Proofs.ToldLifetime
import GatewayProvisioning.Proofs.Transcript
import GatewayProvisioning.Proofs.TwoRuns
import GatewayProvisioning.Proofs.UsableRoutes
import GatewayProvisioning.Proofs.Utf8
import GatewayProvisioning.Proofs.Walk
import GatewayProvisioning.Proofs.WrittenPorts
