import MockGen.Main
import MockGen.Proofs.Comparison.HelperText
import MockGen.Proofs.Expectation
import MockGen.Proofs.Files.Creating
import MockGen.Proofs.Header.Ellipsis
import MockGen.Proofs.Header.FirstDeclarations
import MockGen.Proofs.Header.InlineFunctions
import MockGen.Proofs.Header.LeadingText
import MockGen.Proofs.Header.NestedBraces
import MockGen.Proofs.Header.NormalLines
import MockGen.Proofs.Header.ParameterNames
import MockGen.Proofs.Header.QualifiedTypes
import MockGen.Proofs.Header.Scopes
import MockGen.Proofs.Mock.Details
import MockGen.Proofs.Mock.Interruption
import MockGen.Proofs.Mock.Regeneration
import MockGen.Proofs.Mock.Skeleton
import MockGen.Proofs.Mock.Strings
import MockGen.Proofs.Options.Resolved
import MockGen.Proofs.Plugin.ConstPointee
import MockGen.Proofs.Plugin.Loader
import MockGen.Proofs.Session.Defaults
import MockGen.Workload
