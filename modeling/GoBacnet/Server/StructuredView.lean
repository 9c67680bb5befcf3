import GoBacnet.Server.ListProperty
import GoBacnet.Server.Point
import GoBacnet.Service.Discovery

/-!
# Structured View objects

A Structured View lists subordinate objects, optionally with a text for each one. A write of the whole list may change
its length, and the texts then follow it; the texts themselves are written with as many as there are subordinates.
-/

namespace GoBacnet.Server

open Service

def objectTypeStructuredView : UInt16 := 29

def propertyNodeSubtype : UInt32 := 207
def propertyNodeType : UInt32 := 208
def propertySubordinateAnnotations : UInt32 := 210
def propertySubordinateList : UInt32 := 211

def nodeTypeMax : UInt32 := 22

structure DeviceObjectReference where
  device : Option ObjectIdentifier := none
  object : ObjectIdentifier
  deriving DecidableEq, Repr

structure StructuredViewState where
  nodeType : UInt32
  subs : List DeviceObjectReference
  /-- The texts, if the object has them. -/
  annotations : Option (List Octets)
  max : Nat

abbrev StructuredView := Base StructuredViewState

def subordinateElement (s : DeviceObjectReference) : Element :=
  .app 0 (.constructed ((s.device.map fun dev => Element.mk true 0 false false (.objectID dev)).toList ++
    [.mk true 1 false false (.objectID s.object)]))

def subordinateObject (device : Option ObjectIdentifier) (n : Nat) :
    List Element → Except ObjectErr (DeviceObjectReference × Nat)
  | [] => .error .invalidDataType
  | el :: _ =>
    if el.tagNumber ≠ 1 then .error .invalidDataType
    else
      match ctxObjectID el with
      | none => .error .invalidDataType
      | some object => .ok (⟨device, object⟩, n + 1)

def parseSubordinate : List Element → Except ObjectErr (DeviceObjectReference × Nat)
  | [] => .error .invalidDataType
  | el :: els =>
    if el.tagNumber = 0 then
      match ctxObjectID el with
      | none => .error .invalidDataType
      | some dev => if dev.type ≠ objectTypeDevice then .error .invalidDataType else subordinateObject (some dev) 1 els
    else subordinateObject none 0 (el :: els)

def parseSubordinates (els : List Element) : Except ObjectErr (List DeviceObjectReference) :=
  Items.read (readGrouped parseSubordinate) els

namespace StructuredViewState

def writeNodeType : Setter StructuredViewState :=
  scalarSetter fun v s =>
    match v with
    | .enumerated t =>
      if t ≥ nodeTypeMax then .error .valueOutOfRange else .ok ({ s with nodeType := t }, [propertyNodeType])
    | _ => .error .invalidDataType

def subordinateList (s : StructuredViewState) : ApplicationValue := .constructed (s.subs.map subordinateElement)

/-- Replaces the list. The texts of removed entries are dropped, and new entries get an empty text. -/
def setSubordinates (s : StructuredViewState) (subs : List DeviceObjectReference) :
    StructuredViewState × List UInt32 :=
  match s.annotations with
  | some texts =>
    if texts.length ≠ subs.length then
      ({ s with subs, annotations := some (texts.take subs.length ++ List.replicate (subs.length - texts.length) []) },
        [propertySubordinateList, propertySubordinateAnnotations])
    else ({ s with subs }, [propertySubordinateList])
  | none => ({ s with subs }, [propertySubordinateList])

def writeSubordinates : Setter StructuredViewState := fun w s =>
  if w.value.kind ≠ .constructed then .error .invalidDataType
  else do
    let subs ← parseSubordinates w.value.elements
    match w.property.arrayIndex with
    | some idx => do
      arrayIndex idx s.subs.length
      match subs with
      | [sub] => .ok ({ s with subs := s.subs.set (idx.toNat - 1) sub }, [propertySubordinateList])
      | _ => .error .invalidDataType
    | none => if subs.length > s.max then .error .noSpaceToWriteProperty else .ok (s.setSubordinates subs)

def annotationList (s : StructuredViewState) : ApplicationValue :=
  .constructed ((s.annotations.getD []).map fun text => .app 0 (charString text))

def textOf (context : Bool) : ApplicationValue → Except ObjectErr Octets
  | .characterString c => if context then .error .invalidDataType else .ok c.value
  | _ => .error .invalidDataType

def writeAnnotations : Setter StructuredViewState := fun w s =>
  let texts := s.annotations.getD []
  match w.property.arrayIndex with
  | some idx => do
    arrayIndex idx texts.length
    let text ← textOf false w.value
    return ({ s with annotations := some (texts.set (idx.toNat - 1) text) }, [propertySubordinateAnnotations])
  | none => do
    let next ← (listElements w.value).mapM fun el => textOf el.context el.value
    if next.length ≠ s.subs.length then .error .valueOutOfRange
    else .ok ({ s with annotations := some next }, [propertySubordinateAnnotations])

end StructuredViewState

def subordinateListProperty : Property StructuredViewState where
  array := true
  writable := true
  get := .state StructuredViewState.subordinateList
  set := some StructuredViewState.writeSubordinates

def annotationsProperty : Property StructuredViewState where
  array := true
  writable := true
  get := .state StructuredViewState.annotationList
  set := some StructuredViewState.writeAnnotations

structure StructuredViewConfig where
  instanceNumber : UInt32
  name : Octets
  description : Octets := []
  nodeType : UInt32 := 0
  nodeSubtype : Octets := []
  subordinates : List DeviceObjectReference := []
  annotations : Option (List Octets) := none
  maxSubordinates : Int := 0

def StructuredView.defineProperties (o : StructuredView) (cfg : StructuredViewConfig) : StructuredView :=
  let o := if cfg.description = [] then o else o.define propertyDescription (textProperty cfg.description)
  let o := o.define propertyNodeType
    { writable := true, get := .state fun s => .enumerated s.nodeType, set := some StructuredViewState.writeNodeType }
  let o := if cfg.nodeSubtype = [] then o else o.define propertyNodeSubtype (textProperty cfg.nodeSubtype)
  let o := o.define propertySubordinateList subordinateListProperty
  if cfg.annotations.isNone then o else o.define propertySubordinateAnnotations annotationsProperty

def newStructuredView (typeText : UInt16 → String) (cfg : StructuredViewConfig) : Except ObjectErr StructuredView :=
  let max := if cfg.maxSubordinates ≤ 0 then 256 else cfg.maxSubordinates.toNat
  if cfg.instanceNumber ≥ maxObjectInstance then
    .error (.plain ("object: instance " ++ toString cfg.instanceNumber ++ " out of range"))
  else if cfg.name = [] then .error (.plain "object: object name required")
  else if cfg.nodeType ≥ nodeTypeMax then
    .error (.plain ("object: node type " ++ toString cfg.nodeType ++ " out of range"))
  else if cfg.subordinates.length > max then
    .error (.plain ("object: " ++ toString cfg.subordinates.length ++ " subordinates, at most " ++ toString max))
  else if cfg.annotations.any fun texts => texts.length ≠ cfg.subordinates.length then
    .error (.plain ("object: " ++ toString (cfg.annotations.getD []).length ++ " annotations for " ++
      toString cfg.subordinates.length ++ " subordinates"))
  else
    match cfg.subordinates.zipIdx.find? fun (s, _) => s.device.any (·.type ≠ objectTypeDevice) with
    | some (s, i) =>
      .error (.plain ("object: subordinate " ++ toString (i + 1) ++ ": device identifier of type " ++
        typeText ((s.device.map (·.type)).getD 0)))
    | none =>
      let o : StructuredView := Base.new ⟨objectTypeStructuredView, cfg.instanceNumber⟩ cfg.name
        { nodeType := cfg.nodeType, subs := cfg.subordinates, annotations := cfg.annotations, max }
      .ok (o.defineProperties cfg)

end GoBacnet.Server
