import Coffer.Filter.Draft
import Coffer.Main
import Coffer.Proofs.Filter.Description
import Coffer.Proofs.Filter.ViablePrefix
import Coffer.Proofs.Filter.Failure
import Coffer.Proofs.Vault.Call
import Coffer.Proofs.Bytes
import Coffer.Proofs.Disk
import Coffer.Proofs.Token.Partition
import Coffer.Proofs.Envelope
import Coffer.Proofs.Json.Number
import Coffer.Proofs.Json.Readable
import Coffer.Proofs.Record.RoundTrip
import Coffer.Proofs.Session.Authenticity
import Coffer.Proofs.Session.Durability
import Coffer.Proofs.Shell.Ending
import Coffer.Proofs.Vault.History
import Coffer.Proofs.Vault.Import
import Coffer.Proofs.Vault.Legacy
import Coffer.Proofs.Vault.RoundTrip
import Coffer.Proofs.Vault.WriteLog
import Coffer.Proofs.Shell.Secrecy
import Coffer.Proofs.Session.Readback
import Coffer.Proofs.Session.Unlock
import Coffer.Proofs.Session.Migration
import Coffer.Proofs.Command.Listing
import Coffer.Proofs.Display.RecordLine
import Coffer.Proofs.Session.Copies
import Coffer.Proofs.Filter.Chain
import Coffer.Proofs.RecordSpec.Acceptance
import Coffer.Proofs.Session.Failure
import Coffer.Proofs.Session.Rekeying
import Coffer.Proofs.Vault.Course
import Coffer.Proofs.Vault.Revision
import Coffer.Proofs.Vault.Chronology
import Coffer.Proofs.Vault.Reach
import Coffer.Proofs.Vault.Reimport
import Coffer.Proofs.Vault.Independence
import Coffer.Proofs.Log.Redaction
import Coffer.Proofs.Log.Settling
import Coffer.Proofs.Clipboard
import Coffer.Proofs.Shell.Copying
import Coffer.Proofs.Shell.Confirmation
import Coffer.Proofs.Seal.Opening
import Coffer.Proofs.Token.Quote
