import MessageBus.Wire.Header

namespace MessageBus
namespace Wire

/-!
# Records with named fields

A payload is a record: fields of fixed size with a name and a type, one behind
the other.  The names and types are not only documentation.  Together they
form the record's *definition*, a line of text whose checksum travels in the
header, so that two programs that disagree about a record find out.

A `Record` therefore keeps the list of fields beside the layout and can only be
built field by field, which makes the definition and the bytes agree by
construction.  The same list supports a view of a record as named values, which
is how a program that does not know the record's type can show or assemble it.
-/

/-! ## Fields -/

inductive Scalar where
  | u8 | u16 | i16 | i32 | u32 | f64
deriving DecidableEq, Repr

namespace Scalar

@[reducible] def Carrier : Scalar -> Type
  | .u8 => UInt8
  | .u16 => UInt16
  | .i16 => Int16
  | .i32 => Int32
  | .u32 => UInt32
  | .f64 => UInt64

def layout : (scalar : Scalar) -> Layout scalar.Carrier
  | .u8 => Layout.u8
  | .u16 => Layout.u16
  | .i16 => Layout.i16
  | .i32 => Layout.i32
  | .u32 => Layout.u32
  | .f64 => Layout.f64

/-- The scalar's name in a definition. -/
def typeText : Scalar -> String
  | .u8 => "u8"
  | .u16 => "u16"
  | .i16 => "i16"
  | .i32 => "i32"
  | .u32 => "u32"
  | .f64 => "f64"

def isSigned : Scalar -> Bool
  | .i16 | .i32 => true
  | _ => false

/-- The number that a scalar's bytes stand for. -/
def toInt (scalar : Scalar) (bytes : Bytes) : Int :=
  let number := ofLittleEndian bytes
  let modulus := wordCount scalar.layout.size
  if scalar.isSigned && modulus <= 2 * number then (number : Int) - modulus else number

/-- The bytes of a number in a scalar's width, in two's complement. -/
def ofInt (scalar : Scalar) (number : Int) : Bytes :=
  littleEndian scalar.layout.size (number % wordCount scalar.layout.size).toNat

end Scalar

/-- What a field holds.  An array's length is named in the definition rather
than spelled out, so its name is part of the shape. -/
inductive Shape where
  | scalar (kind : Scalar)
  | array (kind : Scalar) (count : Nat) (countText : String)
  | header
deriving DecidableEq, Repr

namespace Shape

@[reducible] def Carrier : Shape -> Type
  | .scalar kind => kind.Carrier
  | .array kind count _ => Vector kind.Carrier count
  | .header => Header

def layout : (shape : Shape) -> Layout shape.Carrier
  | .scalar kind => kind.layout
  | .array kind count _ => kind.layout.vector count
  | .header => Header.layout

/-- The shape's name in a definition. -/
def typeText : Shape -> String
  | .scalar kind => kind.typeText
  | .array kind _ countText => "[" ++ kind.typeText ++ "; " ++ countText ++ "]"
  | .header => "MessageHeader"

end Shape

structure Field where
  name : String
  shape : Shape
deriving DecidableEq, Repr

/-! ## Records -/

/-- The sum of a list of numbers. -/
def total : List Nat -> Nat
  | [] => 0
  | number :: rest => number + total rest

theorem total_append (first second : List Nat) :
    total (first ++ second) = total first + total second := by
  induction first with
  | nil => exact (Nat.zero_add _).symm
  | cons number rest ih =>
      rw [List.cons_append, total, total, ih, Nat.add_assoc]

theorem total_perm {first second : List Nat} (same : first.Perm second) :
    total first = total second := by
  induction same with
  | nil => rfl
  | cons number _ ih => rw [total, total, ih]
  | swap one two rest => exact Nat.add_left_comm two one (total rest)
  | trans _ _ early late => exact early.trans late

structure Record (α : Type) where
  fields : List Field
  layout : Layout α
  size_eq : layout.size = total (fields.map (fun field => field.shape.layout.size))

namespace Record

/-- The record of one field. -/
def field (name : String) (shape : Shape) : Record shape.Carrier where
  fields := [⟨name, shape⟩]
  layout := shape.layout
  size_eq := rfl

/-- The fields of one record and then those of another. -/
def followedBy (first : Record α) (second : Record β) : Record (α × β) where
  fields := first.fields ++ second.fields
  layout := first.layout.pair second.layout
  size_eq := by
    rw [List.map_append, total_append, ← first.size_eq, ← second.size_eq]
    rfl

/-- The same record read as another type. -/
def iso (record : Record α) (into : α -> β) (back : β -> α)
    (back_into : forall value, back (into value) = value)
    (into_back : forall value, into (back value) = value) : Record β where
  fields := record.fields
  layout := record.layout.iso into back back_into into_back
  size_eq := record.size_eq

def size (record : Record α) : Nat :=
  record.layout.size

/-- The line of text that pins down a record: its name, then every field with
its type. -/
def definition (name : String) (fields : List Field) : String :=
  fields.foldl (fun text field => text ++ ":" ++ field.name ++ "=" ++ field.shape.typeText) name

end Record

/-! ## The named view -/

/-- What a field shows when its type is not known. -/
inductive FieldValue where
  | integer (number : Int)
  | float (bits : UInt64)
  | octets (bytes : Bytes)
  | integers (numbers : List Int)
  | header (header : Header)
deriving DecidableEq, Repr

/-- The first `count` pieces of `size` bytes each. -/
def pieces (size : Nat) : (count : Nat) -> Bytes -> List Bytes
  | 0, _ => []
  | count + 1, bytes => bytes.take size :: pieces size count (bytes.drop size)

namespace Shape

/-- What stands in the bytes of a field. -/
def view : Shape -> Bytes -> FieldValue
  | .scalar .f64, bytes => .float (Layout.f64.decode bytes)
  | .scalar kind, bytes => .integer (kind.toInt bytes)
  | .array .u8 _ _, bytes => .octets bytes
  | .array kind count _, bytes =>
      .integers ((pieces kind.layout.size count bytes).map kind.toInt)
  | .header, bytes => .header (Header.layout.decode bytes)

/-- The bytes of a field with the given content; what is not given is zero. -/
def assemble (shape : Shape) (value : Option FieldValue) : Bytes :=
  let bytes : Bytes := match shape, value with
    | .scalar _, some (.float bits) => Layout.f64.encode bits
    | .scalar kind, some (.integer number) => kind.ofInt number
    | .array _ _ _, some (.octets bytes) => bytes
    | .array kind _ _, some (.integers numbers) => numbers.flatMap kind.ofInt
    | .header, some (.header content) => Header.layout.encode content
    | _, _ => []
  (bytes ++ List.replicate shape.layout.size 0).take shape.layout.size

end Shape

namespace Field

/-- The named values of a record's bytes. -/
def view : List Field -> Bytes -> List (String × FieldValue)
  | [], _ => []
  | field :: rest, bytes =>
      (field.name, field.shape.view (bytes.take field.shape.layout.size)) ::
        view rest (bytes.drop field.shape.layout.size)

/-- The bytes of a record with the given named values. -/
def assemble (fields : List Field) (value? : String -> Option FieldValue) : Bytes :=
  fields.flatMap fun field => field.shape.assemble (value? field.name)

end Field

end Wire
end MessageBus
