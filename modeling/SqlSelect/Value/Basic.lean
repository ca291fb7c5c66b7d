/-!
# Bound values

A value travels beside the statement text, in placeholder order. Values are compared as the
database types they stand for: two doubles compare by the rules of floating point, so the two zeros
are equal and a value that is not a number differs from itself.
-/

namespace SqlSelect

/-- A value bound to a placeholder. -/
inductive Value where
  | null
  | bool (value : Bool)
  | int (value : Int64)
  | float (value : Float)
  | text (value : String)
  | blob (bytes : List UInt8)
  deriving BEq, Inhabited

/-- The text of a text value. -/
def Value.text? : Value → Option String
  | .text s => some s
  | _ => none

/-- Types whose elements can be bound. -/
class ToValue (α : Type) where
  toValue : α → Value

export ToValue (toValue)

instance : ToValue Value := ⟨id⟩

instance : ToValue Bool := ⟨.bool⟩

instance : ToValue Int64 := ⟨.int⟩

instance : ToValue Int32 := ⟨fun n => .int n.toInt64⟩

instance : ToValue Int16 := ⟨fun n => .int n.toInt64⟩

instance : ToValue UInt32 := ⟨fun n => .int (Int64.ofNat n.toNat)⟩

/-- An unsigned value above the largest signed one is bound as the largest. -/
instance : ToValue UInt64 :=
  ⟨fun n => .int (if n.toNat < 0x8000000000000000 then Int64.ofNat n.toNat else Int64.maxValue)⟩

instance : ToValue Float := ⟨.float⟩

/-- A single is widened to the double of the same value. -/
instance : ToValue Float32 := ⟨fun x => .float x.toFloat⟩

instance : ToValue String := ⟨.text⟩

instance : ToValue (List UInt8) := ⟨.blob⟩

/-- A missing value is null. -/
instance {α : Type} [ToValue α] : ToValue (Option α) :=
  ⟨fun | some x => toValue x | none => .null⟩

end SqlSelect
