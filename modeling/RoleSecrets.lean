import RoleSecrets.Api.EventLog
import RoleSecrets.Api.Responder
import RoleSecrets.History
import RoleSecrets.Host.Basic
import RoleSecrets.Main
import RoleSecrets.PodWatch
import RoleSecrets.Proofs.Accounts
import RoleSecrets.Proofs.Confidentiality
import RoleSecrets.Proofs.Confinement
import RoleSecrets.Proofs.CredentialsDocuments
import RoleSecrets.Proofs.Delivery
import RoleSecrets.Proofs.Discovery
import RoleSecrets.Proofs.DriftPlan
import RoleSecrets.Proofs.FaultFree
import RoleSecrets.Proofs.FirstListing
import RoleSecrets.Proofs.Isolation
import RoleSecrets.Proofs.LivePods
import RoleSecrets.Proofs.Partition
import RoleSecrets.Proofs.Races
import RoleSecrets.Proofs.RegistryContent
import RoleSecrets.Proofs.SecretData
import RoleSecrets.Proofs.SessionNameShares
import RoleSecrets.Proofs.SharedIssuance
import RoleSecrets.Proofs.SharedListing
import RoleSecrets.Proofs.ShownNames
import RoleSecrets.Proofs.Shutdown
import RoleSecrets.RoleQueue
import RoleSecrets.Run
import RoleSecrets.TokenService
