import Subschema.Encoding.Compare
import Subschema.Main
import Subschema.Proofs.Aliases
import Subschema.Proofs.Ancestors
import Subschema.Proofs.Atomic
import Subschema.Proofs.Encoding
import Subschema.Proofs.Mirror
import Subschema.Proofs.Order
import Subschema.Proofs.Published
import Subschema.Proofs.Rebuilt
import Subschema.Proofs.Restored
import Subschema.Proofs.Policies
import Subschema.Proofs.History
import Subschema.Proofs.Interchange
import Subschema.Proofs.Fingerprint
import Subschema.Proofs.SelfReference
import Subschema.Proofs.Arcs
import Subschema.Proofs.Ranking
import Subschema.Proofs.Drawing
import Subschema.Proofs.SavedSettings
import Subschema.Proofs.Staging
