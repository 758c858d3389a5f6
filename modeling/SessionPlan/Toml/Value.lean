/-
The values of a document.

The entries of a table stand in the order in which the document first names them.
-/
import SessionPlan.Binary64
import SessionPlan.Toml.DateTime

set_option autoImplicit false

namespace SessionPlan.Toml

/-- A value of a document. -/
inductive Value where
  | string (text : String)
  | integer (n : Int)
  | float (x : Binary64)
  | boolean (b : Bool)
  | datetime (d : DateTime)
  | array (elements : List Value)
  | table (entries : List (String × Value))

/-- The name of a value's type in messages. -/
def Value.typeName : Value → String
  | .string _ => "string"
  | .integer _ => "integer"
  | .float _ => "float"
  | .boolean _ => "boolean"
  | .datetime _ => "datetime"
  | .array _ => "array"
  | .table _ => "table"

/-! ## Equality of values -/

mutual

/-- Whether two values are equal, the order of entries included. -/
def Value.decEq : (v w : Value) → Decidable (v = w)
  | .string a, w =>
    match w with
    | .string b => decidable_of_iff (a = b) ⟨congrArg _, Value.string.inj⟩
    | .integer _ | .float _ | .boolean _ | .datetime _ | .array _ | .table _ => isFalse nofun
  | .integer a, w =>
    match w with
    | .integer b => decidable_of_iff (a = b) ⟨congrArg _, Value.integer.inj⟩
    | .string _ | .float _ | .boolean _ | .datetime _ | .array _ | .table _ => isFalse nofun
  | .float a, w =>
    match w with
    | .float b => decidable_of_iff (a = b) ⟨congrArg _, Value.float.inj⟩
    | .string _ | .integer _ | .boolean _ | .datetime _ | .array _ | .table _ => isFalse nofun
  | .boolean a, w =>
    match w with
    | .boolean b => decidable_of_iff (a = b) ⟨congrArg _, Value.boolean.inj⟩
    | .string _ | .integer _ | .float _ | .datetime _ | .array _ | .table _ => isFalse nofun
  | .datetime a, w =>
    match w with
    | .datetime b => decidable_of_iff (a = b) ⟨congrArg _, Value.datetime.inj⟩
    | .string _ | .integer _ | .float _ | .boolean _ | .array _ | .table _ => isFalse nofun
  | .array a, w =>
    match w with
    | .array b =>
      match Value.decEqElements a b with
      | isTrue h => isTrue (congrArg _ h)
      | isFalse h => isFalse fun heq => h (Value.array.inj heq)
    | .string _ | .integer _ | .float _ | .boolean _ | .datetime _ | .table _ => isFalse nofun
  | .table a, w =>
    match w with
    | .table b =>
      match Value.decEqEntries a b with
      | isTrue h => isTrue (congrArg _ h)
      | isFalse h => isFalse fun heq => h (Value.table.inj heq)
    | .string _ | .integer _ | .float _ | .boolean _ | .datetime _ | .array _ => isFalse nofun

/-- Whether the elements of two arrays are equal. -/
def Value.decEqElements : (l m : List Value) → Decidable (l = m)
  | [], [] => isTrue rfl
  | [], _ :: _ => isFalse nofun
  | _ :: _, [] => isFalse nofun
  | v :: l, w :: m =>
    match Value.decEq v w, Value.decEqElements l m with
    | isTrue h, isTrue h' => isTrue (by rw [h, h'])
    | isFalse h, _ => isFalse fun heq => h (List.cons.inj heq).1
    | _, isFalse h => isFalse fun heq => h (List.cons.inj heq).2

/-- Whether the entries of two tables are equal. -/
def Value.decEqEntries : (l m : List (String × Value)) → Decidable (l = m)
  | [], [] => isTrue rfl
  | [], _ :: _ => isFalse nofun
  | _ :: _, [] => isFalse nofun
  | (key, v) :: l, (key', w) :: m =>
    match instDecidableEqString key key', Value.decEq v w, Value.decEqEntries l m with
    | isTrue h, isTrue h', isTrue h'' => isTrue (by rw [h, h', h''])
    | isFalse h, _, _ => isFalse fun heq => h (Prod.mk.inj (List.cons.inj heq).1).1
    | _, isFalse h, _ => isFalse fun heq => h (Prod.mk.inj (List.cons.inj heq).1).2
    | _, _, isFalse h => isFalse fun heq => h (List.cons.inj heq).2

end

instance : DecidableEq Value := Value.decEq

end SessionPlan.Toml
