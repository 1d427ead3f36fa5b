import CredentialResolution.Configuration.Document
import CredentialResolution.Configuration.Shown
import CredentialResolution.Files.Change
import CredentialResolution.Proofs.Acceptance
import CredentialResolution.Proofs.Building
import CredentialResolution.Proofs.Enabling
import CredentialResolution.Proofs.Evaluation
import CredentialResolution.Proofs.Fidelity
import CredentialResolution.Proofs.Judgement
import CredentialResolution.Proofs.Lifecycle
import CredentialResolution.Proofs.Numeral
import CredentialResolution.Proofs.Selection
import CredentialResolution.Provider.Load
import CredentialResolution.Provider.Variables
import CredentialResolution.Service
import CredentialResolution.Proofs.Outcome
import CredentialResolution.Proofs.Loading
import CredentialResolution.Proofs.SessionNames
import CredentialResolution.Proofs.Proxying
import CredentialResolution.Proofs.Requests
import CredentialResolution.Proofs.Separation
import CredentialResolution.Proofs.Disclosure
import CredentialResolution.Proofs.Retrying
import CredentialResolution.Proofs.Rounds
import CredentialResolution.Proofs.TemplateGrammar
import CredentialResolution.Proofs.TemplateJoining
import CredentialResolution.Proofs.Ports
import CredentialResolution.Proofs.ResourceNames
import CredentialResolution.Proofs.FileReading
import CredentialResolution.Proofs.FileWriting
import CredentialResolution.Proofs.Conflicts
import CredentialResolution.Proofs.Demotion
import CredentialResolution.Proofs.FirstFailure
import CredentialResolution.Proofs.RetryPolicy
import CredentialResolution.Proofs.FileChecks
import CredentialResolution.Proofs.NamePattern
import CredentialResolution.Proofs.Quoting
import CredentialResolution.Proofs.Showing
import CredentialResolution.Proofs.Collecting
import CredentialResolution.Proofs.Spelling
import CredentialResolution.Proofs.Documents
