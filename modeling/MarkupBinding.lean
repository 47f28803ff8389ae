import MarkupBinding.Proofs.Binding.Assignment
import MarkupBinding.Proofs.Binding.Meaning
import MarkupBinding.Proofs.Binding.Selection
import MarkupBinding.Proofs.Expression.Addressing
import MarkupBinding.Proofs.Expression.Faithful
import MarkupBinding.Proofs.Expression.InBounds
import MarkupBinding.Proofs.Expression.Interleaving
import MarkupBinding.Proofs.Namespace.CanonicalForm
import MarkupBinding.Proofs.Prefixes.Scopes
import MarkupBinding.Proofs.Prefixes.Search
import MarkupBinding.Proofs.Resolution.ComponentKey
import MarkupBinding.Proofs.Resolution.LastAllocated
import MarkupBinding.Proofs.Resolution.OnePrefix
import MarkupBinding.Proofs.Resolution.Wrapper
import MarkupBinding.Proofs.Types.Registration
