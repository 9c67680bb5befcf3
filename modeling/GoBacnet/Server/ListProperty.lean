import GoBacnet.ConstructedTypes
import GoBacnet.Server.Base

/-!
# List and array properties

What the objects share that hold a list: how the elements of a written list are found and read, and the services that
add and remove elements of a list. The elements of one item may come grouped in an element or flat.
-/

namespace GoBacnet.Server

namespace ObjectErr

def noSpaceToWriteProperty : ObjectErr := .response classResources 20
def propertyIsNotAList : ObjectErr := .response classServices 22
def listElementNotFound : ObjectErr := .response classServices 81
def noSpaceForListElement : ObjectErr := .response classResources 19

end ObjectErr

structure ListError where
  err : ObjectErr
  /-- The element that failed, counted from 1, if it was one. -/
  first : Option UInt32 := none
  deriving DecidableEq, Repr

/-- The element that an encoder returns besides an error. -/
def elementOrZero : Except Err Element → Element
  | .ok el => el
  | .error _ => .app 0 .null

/-! ## Elements of written values -/

def listElements : ApplicationValue → List Element
  | .constructed els => els
  | v => [.app 0 v]

def ctxUnsigned (el : Element) : Option UInt64 :=
  if !el.context || el.opening || el.closing then none
  else
    match el.value with
    | .unsigned u => some u
    | _ => (contextUnsigned el).toOption

/-- The object identifier in a context primitive, typed or in wire form. -/
def ctxObjectID (el : Element) : Option ObjectIdentifier :=
  if !el.context || el.opening || el.closing then none
  else
    match el.value with
    | .objectID id => some id
    | _ => (contextObjectID el).toOption

/-- Reads an item whose elements come grouped in one element, or flat at the front of a list. -/
def readGrouped {α : Type} (parse : List Element → Except ObjectErr (α × Nat)) :
    List Element → Except ObjectErr (α × Nat)
  | [] => .error .invalidDataType
  | el :: els =>
    if !el.context && el.value.isConstructed then
      match parse el.value.elements with
      | .ok (a, n) => if n ≠ el.value.elements.length then .error .invalidDataType else .ok (a, 1)
      | .error _ => .error .invalidDataType
    else parse (el :: els)

def arrayIndex (idx : UInt32) (n : Nat) : Except ObjectErr Unit :=
  if idx = 0 then .error .writeAccessDenied
  else if idx > UInt32.ofNat n then .error .invalidArrayIndex
  else .ok ()

/-! ## AddListElement and RemoveListElement -/

section Modify

variable {σ α : Type}

/-- Appends the items that are not in the list yet, as long as there is room. -/
def addItems (same : α → α → Bool) (max : Nat) (add list : List α) : Except ListError (List α) :=
  add.zipIdx.foldlM (fun next (x, i) =>
    if next.any (same · x) then .ok next
    else if next.length ≥ max then .error ⟨.noSpaceForListElement, some (UInt32.ofNat (i + 1))⟩
    else .ok (next ++ [x])) list

/-- Removes each item once. -/
def removeItems (same : α → α → Bool) (remove list : List α) : Except ListError (List α) :=
  remove.zipIdx.foldlM (fun next (x, i) =>
    if next.any (same · x) then .ok (next.eraseP (same · x))
    else .error ⟨.listElementNotFound, some (UInt32.ofNat (i + 1))⟩) list

/-- Checks that a request is for the list `list` of an object. -/
def listProperty (b : Base σ) (list : UInt32) (prop : PropertyReference) : Except ListError Unit :=
  if prop.identifier ≠ list then
    match b.readProperty ⟨prop.identifier, none⟩ with
    | .error e => .error ⟨e, none⟩
    | .ok _ => .error ⟨.propertyIsNotAList, none⟩
  else if prop.arrayIndex.isSome then .error ⟨.notAnArray, none⟩
  else .ok ()

def modifyList (b : Base σ) (list : UInt32) (prop : PropertyReference) (els : List Element)
    (parse : List Element → Except ListError (List α)) (change : σ → List α → Except ListError (σ × List UInt32)) :
    Base σ × Except ListError Unit × List Change :=
  match (do
    listProperty b list prop
    let items ← parse els
    change b.state items) with
  | .error e => (b, .error e, [])
  | .ok (s, changed) => ({ b with state := s }, .ok (), b.report changed)

end Modify

end GoBacnet.Server
