import GoBacnet.Proofs.ObjectProperties
import GoBacnet.Proofs.PropertyAccess

/-!
# Writing back what was read

A client reads a property and sends the value back in a WriteProperty request. The decoder of the request returns the
value in its wire form, and unwraps a single application element; the object then takes that value or refuses it.
-/

namespace GoBacnet.Server

open Service

variable {σ : Type}

def Base.writeRequest (b : Base σ) (id : UInt32) (v : ApplicationValue) : WritePropertyRequest :=
  { object := b.id, property := ⟨id, none⟩, value := v }

def Base.readEncoded (b : Base σ) (ref : PropertyReference) : Except ObjectErr (Except Err Octets) :=
  (b.readProperty ref).map (appendApplicationValue [])

def Base.Sendable (limits : DecodeLimits) (b : Base σ) (id : UInt32) : Prop :=
  ∃ v bytes r, b.readProperty ⟨id, none⟩ = .ok v ∧ encodeWriteProperty (b.writeRequest id v) = .ok bytes ∧
    parseSequence bytes limits (-1) = .ok r

def Base.WritesBack (limits : DecodeLimits) (b : Base σ) (id : UInt32) : Prop :=
  ∃ v bytes req, b.readProperty ⟨id, none⟩ = .ok v ∧ encodeWriteProperty (b.writeRequest id v) = .ok bytes ∧
    decodeWriteProperty bytes limits = .ok req ∧ req.object = b.id ∧
    ∃ b' changes, b.writeProperty ⟨req.property, req.value, req.priority.getD 0⟩ = (b', .ok (), changes) ∧
      ∀ idx, b'.readEncoded ⟨id, idx⟩ = b.readEncoded ⟨id, idx⟩

end GoBacnet.Server

namespace GoBacnet.Proofs

open GoBacnet.Server GoBacnet.Service

/-! ## The request -/

lemma forestWire_valueElements (v : ApplicationValue) : forestWire (valueElements v) = v.wire := by
  cases v with
  | constructed els => simp [valueElements, ApplicationValue.wire]
  | _ => simp [valueElements, ApplicationValue.wire]

lemma forestPlain_valueElements {v : ApplicationValue} (h : v.Plain) : forestPlain (valueElements v) := by
  cases v with
  | constructed els => simpa [valueElements, ApplicationValue.Plain] using h
  | _ => simp [valueElements, forestPlain, Element.Plain, ApplicationValue.Plain]

/-- The elements of a request without an array index and a priority. -/
def requestElements (object : ObjectIdentifier) (id : UInt32) (v : ApplicationValue) : List Element :=
  [.ctx 0 object.octets, .ctx 1 (encodeUnsigned id.toUInt64), .ctxConstructed 3 (valueElements v)]

lemma encodeWriteProperty_eq_ok_iff {object : ObjectIdentifier} {id : UInt32} {v : ApplicationValue} {bytes : Octets} :
    encodeWriteProperty { object, property := ⟨id, none⟩, value := v } = .ok bytes ↔
      object.Valid ∧ appendTags [] (requestElements object id v) = .ok bytes := by
  have hwrites := (Writes.objectID 0 object).bind
    ((writes_reference 1 2 ⟨id, none⟩).bind (Writes.enclosedValue 3 (by decide) v))
  have heq := hwrites [] bytes
  simp only [and_true] at heq
  exact Iff.trans (by simp [encodeWriteProperty, appendOptional]; rfl) heq

lemma decodeWriteProperty_wire {limits : DecodeLimits} {object : ObjectIdentifier} {id : UInt32} {v : ApplicationValue}
    {bytes : Octets} {r : List Element × Nat} (hplain : v.Plain)
    (henc : encodeWriteProperty { object, property := ⟨id, none⟩, value := v } = .ok bytes)
    (hparse : parseSequence bytes limits (-1) = .ok r) :
    decodeWriteProperty bytes limits = .ok { object, property := ⟨id, none⟩, value := propertyValue v.wire } := by
  obtain ⟨hid, happ⟩ := encodeWriteProperty_eq_ok_iff.mp henc
  have hplain' : forestPlain (requestElements object id v) := by
    simp [requestElements, forestPlain, Element.Plain, ApplicationValue.Plain, forestPlain_valueElements hplain]
  obtain ⟨-, hels, hn⟩ := (parseSequence_wire_iff hplain' happ).mp hparse
  have hall : parsePayload bytes limits "WriteProperty" = .ok (forestWire (requestElements object id v)) := by
    obtain ⟨els, n⟩ := r
    obtain rfl : n = bytes.length := hn
    obtain rfl : els = _ := hels
    simp [parsePayload, parseAll, hparse, Bind.bind, Except.bind]
  simp [decodeWriteProperty, hall, requestElements, forestWire_valueElements, writePropertyStep, readField,
    contextObjectID_ctx hid, ApplicationValue.elements, Bind.bind, Except.bind, Pure.pure, Except.pure, Except.map]

/-! ## Properties with a setter of their own -/

variable {σ : Type} {b : Base σ} {limits : DecodeLimits} {id : UInt32} {p : Property σ} {v : ApplicationValue}

lemma writesBack_iff (hread : b.readProperty ⟨id, none⟩ = .ok v) (hplain : v.Plain) :
    b.WritesBack limits id ↔ b.Sendable limits id ∧
      ∃ b' changes, b.writeProperty ⟨⟨id, none⟩, propertyValue v.wire, 0⟩ = (b', .ok (), changes) ∧
        ∀ idx, b'.readEncoded ⟨id, idx⟩ = b.readEncoded ⟨id, idx⟩ := by
  constructor
  · rintro ⟨v', bytes, req, hv', henc, hdec, -, b', changes, hwrite, hsame⟩
    obtain rfl := Except.ok.inj (hread.symm.trans hv')
    obtain ⟨els, hels, -⟩ := Except.bind_eq_ok_iff.mp hdec
    obtain ⟨r, hr, -⟩ := Except.bind_eq_ok_iff.mp hels
    obtain rfl := Except.ok.inj (hdec.symm.trans (decodeWriteProperty_wire hplain henc hr))
    exact ⟨⟨v, bytes, r, hread, henc, hr⟩, b', changes, hwrite, hsame⟩
  · rintro ⟨⟨v', bytes, r, hv', henc, hr⟩, b', changes, hwrite, hsame⟩
    obtain rfl := Except.ok.inj (hread.symm.trans hv')
    exact ⟨v, bytes, _, hread, henc, decodeWriteProperty_wire hplain henc hr, rfl, b', changes, hwrite, hsame⟩

lemma writesBack_setter_iff {f : σ → ApplicationValue} {set : Setter σ} {accepted : Prop}
    (hlookup : b.props.lookup id = some p) (hget : p.get = .state f) (hset : p.set = some set)
    (hwritable : p.writable = true) (hplain : (f b.state).Plain)
    (hyes : b.Sendable limits id → accepted →
      ∃ r, set ⟨⟨id, none⟩, propertyValue (f b.state).wire, 0⟩ b.state = .ok r ∧ f r.1 = f b.state)
    (hno : b.Sendable limits id → ∀ r,
      set ⟨⟨id, none⟩, propertyValue (f b.state).wire, 0⟩ b.state = .ok r → accepted) :
    b.WritesBack limits id ↔ b.Sendable limits id ∧ accepted := by
  rw [writesBack_iff (readProperty_state hlookup hget) hplain]
  refine and_congr_right fun hsend => ?_
  constructor
  · rintro ⟨b', changes, hwrite, -⟩
    unfold Base.writeProperty Base.writeLocked at hwrite
    simp only [hlookup, hwritable, hset, Bool.not_true, Bool.false_eq_true, if_false] at hwrite
    cases hs : set ⟨⟨id, none⟩, propertyValue (f b.state).wire, 0⟩ b.state with
    | error e => simp [hs] at hwrite
    | ok r => exact hno hsend r hs
  · intro haccepted
    obtain ⟨⟨s, changed⟩, hs, hf⟩ := hyes hsend haccepted
    refine ⟨{ b with state := s }, b.report changed, ?_, fun idx => ?_⟩
    · simp [Base.writeProperty, Base.writeLocked, hlookup, hwritable, hset, hs]
    · cases idx <;> simp [Base.readEncoded, Base.readProperty, hlookup, Base.valueOf, hget, hf]

lemma writesBack_iff_sendable {f : σ → ApplicationValue} {set : Setter σ} (hlookup : b.props.lookup id = some p)
    (hget : p.get = .state f) (hset : p.set = some set) (hwritable : p.writable = true) (hplain : (f b.state).Plain)
    (htakes : b.Sendable limits id →
      ∃ r, set ⟨⟨id, none⟩, propertyValue (f b.state).wire, 0⟩ b.state = .ok r ∧ f r.1 = f b.state) :
    b.WritesBack limits id ↔ b.Sendable limits id := by
  have hiff : b.WritesBack limits id ↔ b.Sendable limits id ∧ True :=
    writesBack_setter_iff hlookup hget hset hwritable hplain (fun hsend _ => htakes hsend) fun _ _ _ => trivial
  rwa [and_true] at hiff

lemma encoding_of_sendable (hread : b.readProperty ⟨id, none⟩ = .ok v) (hsend : b.Sendable limits id) :
    ∃ dst bytes, appendTags dst (valueElements v) = .ok bytes := by
  obtain ⟨v', bytes, r, hv', henc, -⟩ := hsend
  obtain rfl := Except.ok.inj (hread.symm.trans hv')
  obtain ⟨-, happ⟩ := encodeWriteProperty_eq_ok_iff.mp henc
  rw [requestElements, appendTags, Except.bind_eq_ok_iff] at happ
  obtain ⟨dst, -, happ⟩ := happ
  rw [appendTags, Except.bind_eq_ok_iff] at happ
  obtain ⟨dst', -, happ⟩ := happ
  rw [appendTags_singleton] at happ
  obtain ⟨-, dst'', inner, hinner⟩ := fits_of_appendTags_ctxConstructed happ
  exact ⟨dst'', inner, hinner⟩

end GoBacnet.Proofs
