import SqlBuilder.Number.FloatText
import SqlBuilder.Text.Escaped

/-!
# Bound values

A value never appears in the text of a statement. It travels beside the statement and a placeholder
stands in the text for it, so nothing in a value can be read as SQL.
-/

namespace SqlBuilder

/-- A value bound to a placeholder. -/
inductive Value where
  /-- The absent value. -/
  | null
  /-- A truth value. -/
  | bool (b : Bool)
  /-- A whole number of 64 bits. -/
  | int (n : Int64)
  /-- A floating-point number. -/
  | float (x : Binary64)
  /-- A text. -/
  | text (s : String)
  /-- A sequence of bytes. -/
  | blob (bytes : List UInt8)
deriving DecidableEq, Repr

/-- The value is the absent one. -/
def Value.isNull : Value → Bool
  | .null => true
  | _ => false

/-! ## What can be bound -/

/-- Types whose members can be bound. -/
class ToValue (α : Type) where
  /-- The value that is bound. -/
  toValue : α → Value

export ToValue (toValue)

instance : ToValue Value := ⟨id⟩
instance : ToValue Bool := ⟨.bool⟩
instance : ToValue Int64 := ⟨.int⟩
instance : ToValue Int32 := ⟨fun n ↦ .int n.toInt64⟩
instance : ToValue Int16 := ⟨fun n ↦ .int n.toInt64⟩
instance : ToValue UInt32 := ⟨fun n ↦ .int (Int64.ofNat n.toNat)⟩
instance : ToValue UInt16 := ⟨fun n ↦ .int (Int64.ofNat n.toNat)⟩
instance : ToValue UInt8 := ⟨fun n ↦ .int (Int64.ofNat n.toNat)⟩
instance : ToValue Binary64 := ⟨.float⟩
instance : ToValue Binary32 := ⟨fun x ↦ .float x.widen⟩
instance : ToValue String := ⟨.text⟩
instance : ToValue (List UInt8) := ⟨.blob⟩

/-- An absent member is bound as the absent value. -/
instance {α : Type} [ToValue α] : ToValue (Option α) :=
  ⟨fun a? ↦ a?.elim .null toValue⟩

/-! ## How values are shown -/

/-- The texts between brackets, separated by commas. -/
def Text.bracketed (ss : List String) : String :=
  "[" ++ ", ".intercalate ss ++ "]"

/-- The value as log events show it: its kind, and its content in parentheses. -/
def Value.describe : Value → String
  | .null => "Null"
  | .bool b => "Bool(" ++ toString b ++ ")"
  | .int n => "Int(" ++ toString n.toInt ++ ")"
  | .float x => "Float(" ++ x.text ++ ")"
  | .text s => "Text(" ++ Text.escaped s ++ ")"
  | .blob bytes => "Blob(" ++ Text.bracketed (bytes.map fun b ↦ toString b.toNat) ++ ")"

end SqlBuilder
