import GoBacnet.Server.Transactions

/-!
# The size of a reply

The options that bound what a server sends, and the payload that a handler may return for a request.
-/

namespace GoBacnet.Server

open Apdu

inductive SizeOption
  | maxAPDU (size : Nat)
  | segmentation (maxSegments : Int) (window : UInt8)
  deriving DecidableEq, Repr

/-- A configuration with the errors of the options applied so far. -/
structure Draft where
  config : Config := {}
  errs : List String := []

def withMaxAPDU (size : Nat) (c : Draft) : Draft where
  config := { c.config with maxAPDU := size }
  errs := if size < 50 ∨ size > 1476 then c.errs ++ ["max APDU " ++ toString size ++ " outside 50..1476"] else c.errs

/-- No segments at all switch segmentation off and leave the rest as it was. -/
def withSegmentation (maxSegments : Int) (window : UInt8) (c : Draft) : Draft :=
  if maxSegments = 0 then { c with config := { c.config with segmentation := false } }
  else
    { config := { c.config with segmentation := true, maxSegments, window }
      errs := if maxSegments < 2 ∨ maxSegments > 255 ∨ window < 1 ∨ window > 127
        then c.errs ++ ["segmentation " ++ toString maxSegments ++ " segments, window " ++ toString window]
        else c.errs }

def SizeOption.apply : SizeOption → Draft → Draft
  | .maxAPDU size => withMaxAPDU size
  | .segmentation maxSegments window => withSegmentation maxSegments window

end GoBacnet.Server
