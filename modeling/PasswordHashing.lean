import PasswordHashing.Config
import PasswordHashing.Inspection
import PasswordHashing.Profile.Run
import PasswordHashing.Proofs.HashText.Cost
import PasswordHashing.Proofs.HashText.Fields
import PasswordHashing.Proofs.Text.Base64
import PasswordHashing.Proofs.HashText.Grammar
import PasswordHashing.Proofs.HashText.RoundTrip
import PasswordHashing.Proofs.HashText.Canonical
import PasswordHashing.Proofs.KeyDerivation
import PasswordHashing.Proofs.Verification
import PasswordHashing.Proofs.Bcrypt
import PasswordHashing.Proofs.Parameters
import PasswordHashing.Proofs.Profile.Run
import PasswordHashing.Proofs.Profile.StoredTexts
import PasswordHashing.Proofs.HashText.Careful
import PasswordHashing.Proofs.Verification.Work
import PasswordHashing.Proofs.Verification.Agreement
import PasswordHashing.Proofs.Profile.ReadBack
import PasswordHashing.Proofs.Profile.Rebuilt
import PasswordHashing.Proofs.Verification.Truncation
import PasswordHashing.Proofs.Profile.State
import PasswordHashing.Proofs.Profile.Pinning
import PasswordHashing.Proofs.Disclosure
import PasswordHashing.Proofs.Verification.DigestField
import PasswordHashing.Proofs.KeyDerivation.Secrets
import PasswordHashing.Proofs.Profile.Prekeying
import PasswordHashing.Proofs.Verification.Representation
import PasswordHashing.Proofs.Verification.Secrets
import PasswordHashing.Proofs.Verification.Log
import PasswordHashing.Proofs.Json.RoundTrip
import PasswordHashing.Proofs.Config.Build
import PasswordHashing.Proofs.Config.RoundTrip
import PasswordHashing.Proofs.Config.Reading
