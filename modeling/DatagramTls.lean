import DatagramTls.Algorithm
import DatagramTls.Distinct
import DatagramTls.Digest
import DatagramTls.Protocol
import DatagramTls.CipherSuite
import DatagramTls.Provider
import DatagramTls.Error
import DatagramTls.Certificate
import DatagramTls.Der
import DatagramTls.X509.Encoding
import DatagramTls.Credential
import DatagramTls.Config.Endpoint
import DatagramTls.Config.Role
import DatagramTls.Config.Negotiation
import DatagramTls.Config.Transport
import DatagramTls.Config.Protection
import DatagramTls.Options
import DatagramTls.Options.Slot
import DatagramTls.Options.Objection
import DatagramTls.Options.Request
import DatagramTls.Config
import DatagramTls.Build.Event
import DatagramTls.Build.Attempt
import DatagramTls.Build.Suites
import DatagramTls.Build.Lists
import DatagramTls.Build
import DatagramTls.Session
import DatagramTls.Proofs.Build.Suites
import DatagramTls.Proofs.Build.Lists
import DatagramTls.Proofs.Build.Rules
import DatagramTls.Proofs.Build.Outcome
import DatagramTls.Proofs.StepEffects
import DatagramTls.Proofs.Consistency
import DatagramTls.Proofs.Contradictions
import DatagramTls.Proofs.History
import DatagramTls.Proofs.ExplicitOptions
import DatagramTls.Proofs.Registrations
import DatagramTls.Proofs.CredentialPosture
import DatagramTls.Proofs.RoundTrip
import DatagramTls.Proofs.AlgorithmLists
import DatagramTls.Proofs.Protections
import DatagramTls.Proofs.Relocation
import DatagramTls.Proofs.SuiteDerivation
import DatagramTls.Proofs.SuiteSelection
import DatagramTls.Proofs.OwnChain
import DatagramTls.Proofs.ClientAuthentication
import DatagramTls.Proofs.Limits
import DatagramTls.Proofs.DerivedLists
import DatagramTls.Proofs.WiderProvider
import DatagramTls.Proofs.OwnSuites
import DatagramTls.Proofs.ProviderValidation
import DatagramTls.Proofs.RegistrationOrder
import DatagramTls.Proofs.KeyUsage
import DatagramTls.Proofs.Names
import DatagramTls.Proofs.SharedKeys
import DatagramTls.Proofs.ChainRoot
import DatagramTls.Proofs.Der
import DatagramTls.Proofs.X509.Layout
import DatagramTls.Proofs.UsageExtensions
import DatagramTls.Proofs.EmbeddedKey
import DatagramTls.Proofs.Warnings
import DatagramTls.Proofs.Fingerprint
