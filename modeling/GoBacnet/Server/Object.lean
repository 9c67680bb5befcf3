import GoBacnet.Value

/-!
# Objects

What the objects of a device have in common: the errors of property access, and writes.
-/

namespace GoBacnet.Server

/-- A BACnet error, or an error of the application. -/
inductive ObjectErr
  | response (cls code : UInt16)
  | plain (text : String)
  deriving DecidableEq, Repr

namespace ObjectErr

def classDevice : UInt16 := 0
def classObject : UInt16 := 1
def classProperty : UInt16 := 2
def classResources : UInt16 := 3
def classServices : UInt16 := 5

def unknownProperty : ObjectErr := .response classProperty 32
def writeAccessDenied : ObjectErr := .response classProperty 40
def invalidDataType : ObjectErr := .response classProperty 9
def valueOutOfRange : ObjectErr := .response classProperty 37
def notAnArray : ObjectErr := .response classProperty 50
def invalidArrayIndex : ObjectErr := .response classProperty 42
def unknownObject : ObjectErr := .response classObject 31
def duplicateName : ObjectErr := .response classProperty 48
def objectExists : ObjectErr := .response classObject 24
def notDeletable : ObjectErr := .response classObject 23
def notCreatable : ObjectErr := .response classObject 4
def unsupportedType : ObjectErr := .response classObject 36
def noSpaceForObject : ObjectErr := .response classResources 18

/-- The class and code that the network sees: an application failure is an operational problem of the device. -/
def asError : ObjectErr → UInt16 × UInt16
  | .response cls code => (cls, code)
  | .plain _ => (classDevice, 25)

end ObjectErr

def propertyObjectIdentifier : UInt32 := 75
def propertyObjectName : UInt32 := 77
def propertyObjectType : UInt32 := 79

structure Write where
  property : PropertyReference
  value : ApplicationValue
  priority : UInt8 := 0

end GoBacnet.Server
