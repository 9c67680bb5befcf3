import GoBacnet.Proofs.MultiStateRuns

/-!
# Commandable objects

The present value of a commandable object is the value of its highest command, or the relinquish default. A write
names Present_Value as changed when the value before and after differ; values are compared by their encodings, so that
one too long to be encoded is named also when it stays.
-/

namespace GoBacnet

def ApplicationValue.Encodable (v : ApplicationValue) : Prop := ∃ raw, appendApplicationValue [] v = .ok raw

end GoBacnet

namespace GoBacnet.Server

variable {σ : Type}

structure Commanded.Lawful (c : Commanded σ) : Prop where
  pa_withPA : ∀ s pa, c.pa (c.withPA s pa) = pa
  onChange : c.onChange = [propertyPresentValue]

end GoBacnet.Server

namespace GoBacnet.Proofs

open GoBacnet.Server Transition

variable {σ : Type} {c : Commanded σ} {b : Base σ} {s s' : σ}

variable {v : ApplicationValue} {o : ValueObject}

/-! ## Equal encodings -/

def relinquish : Write := ⟨⟨propertyPresentValue, none⟩, .null, 16⟩

end GoBacnet.Proofs
