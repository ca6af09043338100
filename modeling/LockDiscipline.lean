import LockDiscipline.Contest
import LockDiscipline.Session.Setup
import LockDiscipline.Settings.Reader
import LockDiscipline.Version
import LockDiscipline.Proofs.Installation
import LockDiscipline.Proofs.Contest.Stance
import LockDiscipline.Proofs.Machine
import LockDiscipline.Proofs.Contest.Race
import LockDiscipline.Proofs.Contest.Outcome
import LockDiscipline.Proofs.Discipline.Language
import LockDiscipline.Proofs.Discipline.Detection
import LockDiscipline.Proofs.CaseVerdict
import LockDiscipline.Proofs.Frame
import LockDiscipline.Proofs.Strategy.Blur
import LockDiscipline.Proofs.Strategy.Equivalence
import LockDiscipline.Proofs.Conservation
import LockDiscipline.Proofs.Findings
import LockDiscipline.Proofs.Custody.Run
import LockDiscipline.Proofs.Discipline.Hearing
import LockDiscipline.Proofs.Discipline.Skipping
import LockDiscipline.Proofs.Discipline.Tidy
import LockDiscipline.Proofs.Isolation
import LockDiscipline.Proofs.Automata
import LockDiscipline.Proofs.Transparency
import LockDiscipline.Proofs.Lifecycle.Restoration
import LockDiscipline.Proofs.Custody.Trespass
import LockDiscipline.Proofs.Lifecycle.Leftover
import LockDiscipline.Proofs.Indifference
import LockDiscipline.Proofs.Runners
import LockDiscipline.Proofs.Reentrance
import LockDiscipline.Proofs.History
import LockDiscipline.Proofs.Threads
import LockDiscipline.Proofs.Custody.Ownership
import LockDiscipline.Proofs.Surfacing
import LockDiscipline.Proofs.Scripts
import LockDiscipline.Proofs.Words
import LockDiscipline.Proofs.Settings.Reading
