import HostFilter.Compilation
import HostFilter.Condition.Printer
import HostFilter.Proofs.Compilation.Joining
import HostFilter.Proofs.Compilation.Order
import HostFilter.Proofs.Compilation.Truth
import HostFilter.Proofs.Condition.Identity
import HostFilter.Proofs.Condition.Source
import HostFilter.Proofs.Formula.Limits
import HostFilter.Proofs.Formula.RoundTrip
import HostFilter.Proofs.Formula.Viability
import HostFilter.Settings.Source
import HostFilter.Proofs.Compilation.Flattening
import HostFilter.Proofs.Compilation.Leaves
import HostFilter.Proofs.Compilation.Quoting
import HostFilter.Proofs.Condition.Substance
import HostFilter.Proofs.Settings.Variables
import HostFilter.Proofs.FactPath.Spelling
import HostFilter.Proofs.Formula.Reading
import HostFilter.Proofs.FactPath.Telling
import HostFilter.Proofs.Settings.Loading
import HostFilter.Proofs.Compilation.Lookups
import HostFilter.Proofs.Token.Quotes
import HostFilter.Proofs.Decimal.Spelling
import HostFilter.Proofs.Scalar.Spelling
import HostFilter.Proofs.Formula.Display
import HostFilter.Proofs.Condition.Bracketing
import HostFilter.Proofs.Compilation.Failures
import HostFilter.Proofs.Formula.Bookkeeping
