import Chunking.Chunker
import Chunking.Report
import Chunking.Proofs.Isolation
import Chunking.Proofs.Lending
import Chunking.Proofs.Attribution
import Chunking.Proofs.Barriers
import Chunking.Proofs.Neighbours
import Chunking.Proofs.Sections
import Chunking.Proofs.Blocks
import Chunking.Proofs.Partitions
import Chunking.Proofs.Numbers
import Chunking.Proofs.Transparency
import Chunking.Proofs.Reach
import Chunking.Proofs.Estimates
import Chunking.Proofs.Calls
import Chunking.Proofs.ElementScan
import Chunking.Proofs.FenceScan
import Chunking.Proofs.Headings
import Chunking.Proofs.Delimiters
import Chunking.Proofs.Grouping
import Chunking.Proofs.Repacking
