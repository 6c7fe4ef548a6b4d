import LoadBinding.Harness
import LoadBinding.Log.Logger
import LoadBinding.Proofs.Answering
import LoadBinding.Proofs.BatchSize
import LoadBinding.Proofs.Connecting
import LoadBinding.Proofs.DataKey
import LoadBinding.Proofs.EncryptedFields
import LoadBinding.Proofs.Flushing
import LoadBinding.Proofs.IntegerLists
import LoadBinding.Proofs.Isolation
import LoadBinding.Proofs.KeyValue
import LoadBinding.Proofs.Leaks
import LoadBinding.Proofs.Lifecycle
import LoadBinding.Proofs.Limits
import LoadBinding.Proofs.LoggingSetUp
import LoadBinding.Proofs.Registrations
import LoadBinding.Proofs.Reserved
import LoadBinding.Proofs.Rounds
import LoadBinding.Proofs.Schemes
import LoadBinding.Proofs.Shaping
import LoadBinding.Proofs.Sharding
import LoadBinding.Proofs.SharedCredentials
import LoadBinding.Proofs.Usable
import LoadBinding.Proofs.UserInfo
import LoadBinding.Proofs.Validating
import LoadBinding.Proofs.Verdicts
import LoadBinding.Proofs.Verification
import LoadBinding.Proofs.Weights
