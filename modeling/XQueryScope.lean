import XQueryScope.Dialect.Reader
import XQueryScope.Main
import XQueryScope.Sample.Generated
import XQueryScope.Proofs.Cache.Survival
import XQueryScope.Proofs.Library.Hints
import XQueryScope.Proofs.Library.Registration
import XQueryScope.Proofs.Name.Grammar
import XQueryScope.Proofs.Scope.Applicable
import XQueryScope.Proofs.Scope.Attributes
import XQueryScope.Proofs.Scope.DefaultStack
import XQueryScope.Proofs.Scope.Expansion
import XQueryScope.Proofs.Scope.Family
import XQueryScope.Proofs.Scope.Imports
import XQueryScope.Proofs.Scope.Order
import XQueryScope.Proofs.Scope.Prefixes
import XQueryScope.Proofs.Scope.Rebinding
import XQueryScope.Proofs.Scope.Spelling
import XQueryScope.Proofs.Session.Interleaving
import XQueryScope.Proofs.Settings.Precedence
import XQueryScope.Proofs.Tree.Loading
import XQueryScope.Proofs.Tree.RoundTrip
import XQueryScope.Proofs.Tree.Outline
import XQueryScope.Proofs.Command.Arguments
import XQueryScope.Proofs.Tree.Subtree
import XQueryScope.Proofs.Sample.Probe
