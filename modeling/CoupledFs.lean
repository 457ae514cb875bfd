import CoupledFs.Host.Disk
import CoupledFs.Main
import CoupledFs.Proofs.AccessChecks
import CoupledFs.Proofs.Closing
import CoupledFs.Proofs.Commuting
import CoupledFs.Proofs.ConfigDocument
import CoupledFs.Proofs.DeadlockFreedom
import CoupledFs.Proofs.Descent
import CoupledFs.Proofs.DirectoryCount
import CoupledFs.Proofs.DotRewriting
import CoupledFs.Proofs.DriveRoots
import CoupledFs.Proofs.DriveText
import CoupledFs.Proofs.ForestInvariant
import CoupledFs.Proofs.Frame
import CoupledFs.Proofs.Isolation
import CoupledFs.Proofs.LogLocation
import CoupledFs.Proofs.MakingAndReading
import CoupledFs.Proofs.NamedRoots
import CoupledFs.Proofs.PathAlgebra
import CoupledFs.Proofs.Reentry
import CoupledFs.Proofs.RegistryAgreement
import CoupledFs.Proofs.Respelling
import CoupledFs.Proofs.RootTables
import CoupledFs.Proofs.Serialisability
import CoupledFs.Proofs.Spelling
import CoupledFs.Proofs.Stamps
import CoupledFs.Proofs.WorkloadFaults
import CoupledFs.Proofs.WorkloadLimit
import CoupledFs.Proofs.WorkloadReport
