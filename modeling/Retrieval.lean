import Retrieval.Corpus.Indexer
import Retrieval.Query.Processor
import Retrieval.Query.Traversal
import Retrieval.Query.Written
import Retrieval.Settings.Resolve
import Retrieval.Proofs.Corpus.Agreement
import Retrieval.Proofs.Match.Lookup
import Retrieval.Proofs.Match.History
import Retrieval.Proofs.Query.Grammar
import Retrieval.Proofs.Decimal.Double
import Retrieval.Proofs.Decimal.Numerals
import Retrieval.Proofs.Query.Lexing
import Retrieval.Proofs.Query.RoundTrip
import Retrieval.Proofs.Corpus.Positions
import Retrieval.Proofs.Text.ByteOrder
import Retrieval.Proofs.Text.Lowering
import Retrieval.Proofs.Corpus.Lexicon
import Retrieval.Proofs.Analysis.Chains
import Retrieval.Proofs.Query.Reading
import Retrieval.Proofs.Match.Attachment
import Retrieval.Proofs.Query.WordSearch
import Retrieval.Proofs.Match.Canonical
import Retrieval.Proofs.Match.Merging
import Retrieval.Proofs.Query.Merging
import Retrieval.Proofs.Text.Slices
import Retrieval.Proofs.Query.Places
import Retrieval.Proofs.Query.Chaining
import Retrieval.Proofs.Query.Failures
import Retrieval.Proofs.Query.Emptiness
import Retrieval.Proofs.Query.Layers
import Retrieval.Proofs.Query.WellShaped
import Retrieval.Proofs.Query.Normalising
import Retrieval.Proofs.Query.Progress
import Retrieval.Proofs.Query.Numbers
import Retrieval.Proofs.Settings.Acceptance
import Retrieval.Proofs.Settings.Precedence
import Retrieval.Proofs.Settings.Usability
import Retrieval.Proofs.Settings.RoundTrip
import Retrieval.Proofs.Corpus.Batches
import Retrieval.Proofs.Query.Requirements
import Retrieval.Proofs.Query.Extraction
import Retrieval.Proofs.Analysis.Stemming
import Retrieval.Proofs.Decimal.Order
import Retrieval.Proofs.Decimal.Quotient
import Retrieval.Proofs.Match.Scaling
import Retrieval.Proofs.Analysis.Tokens
import Retrieval.Proofs.Query.Hints
import Retrieval.Proofs.Query.Reports
