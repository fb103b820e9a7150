import RouteLoom.Main
import RouteLoom.Proofs.Assembly.EmptyClauses
import RouteLoom.Proofs.Assembly.Events
import RouteLoom.Proofs.Assembly.Parents
import RouteLoom.Proofs.Assembly.Reassembly
import RouteLoom.Proofs.Assembly.Reception
import RouteLoom.Proofs.Assembly.Selection
import RouteLoom.Proofs.Beans.Nearest
import RouteLoom.Proofs.CommandLine.Agreement
import RouteLoom.Proofs.CommandLine.ShownIds
import RouteLoom.Proofs.Context.Demands
import RouteLoom.Proofs.Context.Duplicates
import RouteLoom.Proofs.Format.MemberOrder
import RouteLoom.Proofs.Format.RoundTrip
import RouteLoom.Proofs.Interception.Cut
import RouteLoom.Proofs.Interception.Enabled
import RouteLoom.Proofs.Interception.Names
import RouteLoom.Proofs.Interception.Proxy
import RouteLoom.Proofs.Route.Appends
import RouteLoom.Proofs.Route.Outline
import RouteLoom.Proofs.Tree.Walk
import RouteLoom.Proofs.Weaving.Abort
import RouteLoom.Proofs.Weaving.Dropping
import RouteLoom.Proofs.Weaving.InPlace
import RouteLoom.Proofs.Weaving.Nesting
import RouteLoom.Proofs.Weaving.Noninterference
import RouteLoom.Proofs.Weaving.Sequence
