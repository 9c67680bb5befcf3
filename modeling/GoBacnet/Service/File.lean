import GoBacnet.Value

/-!
# AtomicReadFile and AtomicWriteFile

The requests and answers of the two file services. Positions and counts are in octets for stream access and in records
for record access.
-/

namespace GoBacnet

def maxInt32 : Int := 2147483647

def objectTypeFile : UInt16 := 10

namespace Service

inductive FileAccessMethod
  | stream
  | record
  deriving DecidableEq, Repr

structure AtomicReadFileRequest where
  file : ObjectIdentifier
  access : FileAccessMethod
  startPosition : Int
  count : Nat
  deriving DecidableEq, Repr

structure AtomicReadFileACK where
  endOfFile : Bool
  access : FileAccessMethod
  startPosition : Int
  data : Octets := []
  records : List Octets := []
  recordCount : Nat := 0
  deriving DecidableEq, Repr

structure AtomicWriteFileRequest where
  file : ObjectIdentifier
  access : FileAccessMethod
  startPosition : Int
  data : Octets := []
  records : List Octets := []
  deriving DecidableEq, Repr

structure AtomicWriteFileACK where
  access : FileAccessMethod
  startPosition : Int
  deriving DecidableEq, Repr

end Service

end GoBacnet
