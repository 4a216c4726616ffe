import Harvest.Main
import Harvest.Rehearsal.Machine
import Harvest.Proofs.VersionToken
import Harvest.Proofs.Deferral
import Harvest.Proofs.Incremental
import Harvest.Proofs.Leaf
import Harvest.Proofs.Tokens
import Harvest.Proofs.Holdings
import Harvest.Proofs.Confluence
import Harvest.Proofs.Atomic
import Harvest.Proofs.Deletion
import Harvest.Proofs.Abort
import Harvest.Proofs.Repetition
import Harvest.Proofs.GlobLanguage
import Harvest.Proofs.Permissive
import Harvest.Proofs.Records
import Harvest.Proofs.Contexts
import Harvest.Proofs.Interruption
import Harvest.Proofs.Detection
import Harvest.Proofs.Truncation
import Harvest.Proofs.Cursor
import Harvest.Proofs.Layers
import Harvest.Proofs.Masks
import Harvest.Proofs.Components
import Harvest.Proofs.Spelling
import Harvest.Proofs.Grants
import Harvest.Proofs.Uris
import Harvest.Proofs.Confinement
import Harvest.Proofs.Pieces
import Harvest.Proofs.Retries
import Harvest.Proofs.FirstPass
import Harvest.Proofs.Keys
import Harvest.Proofs.Echoes
import Harvest.Proofs.Bucket
import Harvest.Proofs.Excerpt
import Harvest.Proofs.Pauses
import Harvest.Proofs.Walk
import Harvest.Proofs.Offsets
