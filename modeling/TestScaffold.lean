import TestScaffold.CommandLine.Run
import TestScaffold.Main
import TestScaffold.Proofs.CommandLine.Indifferent
import TestScaffold.Proofs.CommandLine.Trail
import TestScaffold.Proofs.Generator.Rerun
import TestScaffold.Proofs.Generator.Separate
import TestScaffold.Proofs.Layout.Holding
import TestScaffold.Proofs.Layout.Mirror
import TestScaffold.Proofs.Signature.Names
import TestScaffold.Proofs.Signature.Printing
import TestScaffold.Proofs.Signature.Barrier
import TestScaffold.Proofs.TestFile.Closed
import TestScaffold.Proofs.Layout.TestPlace
import TestScaffold.Proofs.Audit.SettingUp
import TestScaffold.Proofs.Audit.Settled
import TestScaffold.Proofs.Audit.Leftover
import TestScaffold.Proofs.Generator.Apart
import TestScaffold.Proofs.Layout.Segments
import TestScaffold.Proofs.BuildFile.Marker
import TestScaffold.Proofs.Settings.Acceptance
import TestScaffold.Proofs.Audit.Nearest
