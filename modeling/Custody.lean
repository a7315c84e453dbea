import Custody.Main
import Custody.Proofs.Host.Accounting
import Custody.Proofs.Teardown.Agreement
import Custody.Proofs.Memory.Blocks
import Custody.Proofs.Memory.Holdings
import Custody.Proofs.Memory.Safety
import Custody.Proofs.Host.Room
import Custody.Proofs.Twin.Host
import Custody.Proofs.Twin.World
import Custody.Proofs.Twin.Script
import Custody.Proofs.Twin.Session
import Custody.Proofs.Teardown.Request
import Custody.Proofs.Audit.Excursion
import Custody.Proofs.Audit.Runs
import Custody.Proofs.Audit.Regions
import Custody.Proofs.Audit.Probes
import Custody.Proofs.Audit.Objects
import Custody.Proofs.Audit.Lendings
import Custody.Proofs.Audit.Checks
import Custody.Proofs.Audit.Health
import Custody.Proofs.Audit.Crowding
import Custody.Proofs.Audit.Outcome
import Custody.Proofs.Host.Directory
import Custody.Proofs.Guest.Attachments
import Custody.Proofs.Host.Installation
import Custody.Proofs.Session.Conservation
import Custody.Proofs.Host.Flushing
import Custody.Proofs.Session.Succession
import Custody.Proofs.Audit.Verdict
import Custody.Proofs.Memory.Mirrors
import Custody.Proofs.Memory.Faithful
import Custody.Proofs.Host.Lookup
import Custody.Proofs.Host.Rejection
import Custody.Proofs.Host.Order
import Custody.Proofs.Teardown.Termination
import Custody.Proofs.Host.Tallies
import Custody.Proofs.Host.Admission
import Custody.Proofs.Memory.Chains
import Custody.Proofs.Session.Assertions
import Custody.Proofs.Audit.Recording
import Custody.Proofs.Config.Retelling
import Custody.Proofs.Host.Numbering
