import SealedKeys.Action
import SealedKeys.AuthValue
import SealedKeys.Bytes
import SealedKeys.Certificate.AttributeType
import SealedKeys.Certificate.Body
import SealedKeys.Certificate.ExtensionType
import SealedKeys.Certificate.IpAddress
import SealedKeys.Certificate.Issuing
import SealedKeys.Certificate.Name
import SealedKeys.Certificate.Name.Parser
import SealedKeys.Certificate.Name.Printer
import SealedKeys.Certificate.Signer
import SealedKeys.Certificate.Time
import SealedKeys.CommandLine.Number
import SealedKeys.CommandLine.Report
import SealedKeys.CommandLine.Request
import SealedKeys.CommandLine.Run
import SealedKeys.CommandLine.Settings
import SealedKeys.CommandLine.Switch
import SealedKeys.CommandLine.UsageError
import SealedKeys.CommandLine.VisibleText
import SealedKeys.Credential
import SealedKeys.Der.Element
import SealedKeys.Der.Oid
import SealedKeys.Der.Reader
import SealedKeys.Digest.Algorithm
import SealedKeys.Digest.HashFunction
import SealedKeys.Digest.Padding
import SealedKeys.Digest.Sha1
import SealedKeys.Digest.Sha256
import SealedKeys.Digest.Sha512
import SealedKeys.Digest.Stretch
import SealedKeys.Digest.Word
import SealedKeys.Draws
import SealedKeys.Error
import SealedKeys.Event
import SealedKeys.Handle
import SealedKeys.Hex
import SealedKeys.Inspect
import SealedKeys.KeyAlgorithm
import SealedKeys.KeyTemplate
import SealedKeys.Main
import SealedKeys.OidName
import SealedKeys.OidName.Algorithm
import SealedKeys.OidName.Basic
import SealedKeys.OidName.Certificate
import SealedKeys.OidName.Directory
import SealedKeys.OidName.Message
import SealedKeys.OidName.Person
import SealedKeys.OidName.Pilot
import SealedKeys.OidName.Policy
import SealedKeys.OidName.Printer
import SealedKeys.OidName.Service
import SealedKeys.P256
import SealedKeys.Proofs.Action
import SealedKeys.Proofs.Arithmetic
import SealedKeys.Proofs.Certificate.Form
import SealedKeys.Proofs.Certificate.Issuing
import SealedKeys.Proofs.Certificate.Leaf
import SealedKeys.Proofs.Certificate.Name
import SealedKeys.Proofs.Certificate.Subject
import SealedKeys.Proofs.CommandLine.Signing
import SealedKeys.Proofs.Credential
import SealedKeys.Proofs.Der
import SealedKeys.Proofs.FrontEnds
import SealedKeys.Proofs.Hex
import SealedKeys.Proofs.Provisioning
import SealedKeys.Proofs.PublicKey
import SealedKeys.Proofs.PublicKey.Info
import SealedKeys.Proofs.PublicKey.Reconstruction
import SealedKeys.Proofs.Recorder
import SealedKeys.Proofs.Rsa.Encoding
import SealedKeys.Proofs.Rsa.Inversion
import SealedKeys.Proofs.Rsa.Joining
import SealedKeys.Proofs.Rsa.Salt
import SealedKeys.Proofs.Rsa.Signature
import SealedKeys.Proofs.Scheme
import SealedKeys.Proofs.Secrecy.Renaming
import SealedKeys.Proofs.Secrecy.Session
import SealedKeys.Proofs.SoftwareModule.Authority
import SealedKeys.Proofs.SoftwareModule.Clients
import SealedKeys.Proofs.SoftwareModule.Commands
import SealedKeys.Proofs.SoftwareModule.Completeness
import SealedKeys.Proofs.SoftwareModule.Description
import SealedKeys.Proofs.SoftwareModule.Effects
import SealedKeys.Proofs.SoftwareModule.Ledger
import SealedKeys.Proofs.SoftwareModule.Lockout
import SealedKeys.Proofs.SoftwareModule.Opened
import SealedKeys.Proofs.SoftwareModule.Pkcs1
import SealedKeys.Proofs.SoftwareModule.Pss
import SealedKeys.Proofs.SoftwareModule.PublicAreas
import SealedKeys.Proofs.SoftwareModule.Release
import SealedKeys.Proofs.SoftwareModule.Salt
import SealedKeys.Proofs.SoftwareModule.Sealed
import SealedKeys.Proofs.SoftwareModule.Signing
import SealedKeys.Proofs.SoftwareModule.Standing
import SealedKeys.Proofs.SoftwareModule.Transcript
import SealedKeys.Proofs.Text
import SealedKeys.Proofs.Tls.Choice
import SealedKeys.Proofs.Tls.Commitment
import SealedKeys.PublicArea
import SealedKeys.PublicKey
import SealedKeys.PublicKey.Info
import SealedKeys.PublicKey.Reconstruction
import SealedKeys.Recorder
import SealedKeys.Rehearsal
import SealedKeys.Rsa.Arithmetic
import SealedKeys.Rsa.Generation
import SealedKeys.Rsa.Key
import SealedKeys.Rsa.Pkcs1
import SealedKeys.Rsa.Pss
import SealedKeys.Rsa.Signature
import SealedKeys.Scheme
import SealedKeys.Scheme.Selection
import SealedKeys.SecureModule
import SealedKeys.SoftwareModule.Commands
import SealedKeys.SoftwareModule.Object
import SealedKeys.SoftwareModule.Signing
import SealedKeys.SoftwareModule.State
import SealedKeys.Tls.SignatureScheme
import SealedKeys.Tls.SigningKey
import SealedKeys.Tls.TrustAnchor
