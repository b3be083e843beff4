namespace MessageBus
namespace Wire

/-!
# Fixed layouts

Everything that crosses the wire has a fixed number of bytes, and the bytes of
a value determine it completely.  A `Layout` is that fact as data: a size, a
writer and a reader, together with the three laws that make the pair a
bijection between the values of a type and the byte strings of the size.

The laws are fields, so a layout can only be built together with its proofs,
and the combinators below (`pair`, `vector`, `iso`) assemble large records out
of scalars without any record having to be proved by hand.  The reader is
total; on a string of the wrong length its result is meaningless, and the
checked entry points (`Layout.read`) never call it there.

Integers are little-endian.  Floating-point numbers are carried as their 64
bits: the bus never computes with one that it received, and bits are what has
to survive the journey.
-/

/-- A string of bytes. -/
abbrev Bytes := List UInt8

/-! ## Little-endian numbers -/

/-- The lowest `count` bytes of a number, least significant first. -/
def littleEndian : (count : Nat) -> Nat -> Bytes
  | 0, _ => []
  | count + 1, number => UInt8.ofNat number :: littleEndian count (number / 256)

/-- The number whose little-endian bytes are given. -/
def ofLittleEndian : Bytes -> Nat
  | [] => 0
  | byte :: rest => byte.toNat + 256 * ofLittleEndian rest

/-- How many numbers `count` bytes can tell apart. -/
def wordCount : (count : Nat) -> Nat
  | 0 => 1
  | count + 1 => 256 * wordCount count

theorem length_littleEndian (count number : Nat) :
    (littleEndian count number).length = count := by
  induction count generalizing number with
  | zero => rfl
  | succ count ih => simp [littleEndian, ih]

theorem ofLittleEndian_littleEndian (count number : Nat) :
    ofLittleEndian (littleEndian count number) = number % wordCount count := by
  induction count generalizing number with
  | zero => simp [littleEndian, ofLittleEndian, wordCount, Nat.mod_one]
  | succ count ih =>
      have byteValue : (UInt8.ofNat number).toNat = number % 256 := by simp
      rw [littleEndian, ofLittleEndian, ih, byteValue, wordCount, Nat.mod_mul]

theorem littleEndian_ofLittleEndian (bytes : Bytes) :
    littleEndian bytes.length (ofLittleEndian bytes) = bytes := by
  induction bytes with
  | nil => rfl
  | cons byte rest ih =>
      have small : byte.toNat < 256 := byte.toNat_lt
      have quotient : (byte.toNat + 256 * ofLittleEndian rest) / 256 =
          ofLittleEndian rest := by omega
      have head : UInt8.ofNat (byte.toNat + 256 * ofLittleEndian rest) = byte := by
        apply UInt8.toNat_inj.mp
        simp only [UInt8.toNat_ofNat']
        omega
      simp only [List.length_cons, ofLittleEndian, littleEndian, quotient, head, ih]

theorem ofLittleEndian_lt (bytes : Bytes) :
    ofLittleEndian bytes < wordCount bytes.length := by
  induction bytes with
  | nil => simp [ofLittleEndian, wordCount]
  | cons byte rest ih =>
      have small : byte.toNat < 256 := byte.toNat_lt
      simp only [ofLittleEndian, List.length_cons, wordCount]
      omega

/-! ## Layouts -/

/-- A bijection between the values of a type and the byte strings of one size. -/
structure Layout (α : Type) where
  size : Nat
  encode : α -> Bytes
  decode : Bytes -> α
  length_encode : forall value, (encode value).length = size
  decode_encode : forall value, decode (encode value) = value
  encode_decode : forall bytes, bytes.length = size -> encode (decode bytes) = bytes

namespace Layout

/-- Read a value from a string that must have exactly the layout's size. -/
def read (layout : Layout α) (bytes : Bytes) : Option α :=
  if bytes.length = layout.size then some (layout.decode bytes) else none

/-- Two values, one behind the other. -/
def pair (first : Layout α) (second : Layout β) : Layout (α × β) where
  size := first.size + second.size
  encode value := first.encode value.1 ++ second.encode value.2
  decode bytes := (first.decode (bytes.take first.size), second.decode (bytes.drop first.size))
  length_encode value := by
    simp [first.length_encode, second.length_encode]
  decode_encode value := by
    have cut : (first.encode value.1 ++ second.encode value.2).take first.size =
        first.encode value.1 := by
      have sized := first.length_encode value.1
      rw [List.take_append_of_le_length (Nat.le_of_eq sized.symm),
        List.take_of_length_le (Nat.le_of_eq sized)]
    have rest : (first.encode value.1 ++ second.encode value.2).drop first.size =
        second.encode value.2 := by
      conv => lhs; rw [← first.length_encode value.1]
      exact List.drop_left
    rw [cut, rest, first.decode_encode, second.decode_encode]
  encode_decode bytes sized := by
    rw [first.encode_decode _ (by simp; omega), second.encode_decode _ (by simp; omega),
      List.take_append_drop]

/-- The same bytes read as another type. -/
def iso (layout : Layout α) (into : α -> β) (back : β -> α)
    (back_into : forall value, back (into value) = value)
    (into_back : forall value, into (back value) = value) : Layout β where
  size := layout.size
  encode value := layout.encode (back value)
  decode bytes := into (layout.decode bytes)
  length_encode value := layout.length_encode (back value)
  decode_encode value := by rw [layout.decode_encode, into_back]
  encode_decode bytes sized := by rw [back_into, layout.encode_decode bytes sized]

/-- Read `count` values of one layout, one behind the other. -/
def decodeMany (element : Layout α) : (count : Nat) -> Bytes -> List α
  | 0, _ => []
  | count + 1, bytes =>
      element.decode (bytes.take element.size) ::
        decodeMany element count (bytes.drop element.size)

theorem length_decodeMany (element : Layout α) (count : Nat) (bytes : Bytes) :
    (element.decodeMany count bytes).length = count := by
  induction count generalizing bytes with
  | zero => rfl
  | succ count ih => simp [decodeMany, ih]

theorem length_flatMap_encode (element : Layout α) (values : List α) :
    (values.flatMap element.encode).length = element.size * values.length := by
  induction values with
  | nil => rfl
  | cons value rest ih =>
      simp only [List.flatMap_cons, List.length_append, element.length_encode, ih,
        List.length_cons, Nat.mul_succ]
      omega

theorem decodeMany_flatMap_encode (element : Layout α) (values : List α) :
    element.decodeMany values.length (values.flatMap element.encode) = values := by
  induction values with
  | nil => rfl
  | cons value rest ih =>
      have cut : (element.encode value ++ rest.flatMap element.encode).take element.size =
          element.encode value := by
        have sized := element.length_encode value
        rw [List.take_append_of_le_length (Nat.le_of_eq sized.symm),
          List.take_of_length_le (Nat.le_of_eq sized)]
      have tail : (element.encode value ++ rest.flatMap element.encode).drop element.size =
          rest.flatMap element.encode := by
        conv => lhs; rw [← element.length_encode value]
        exact List.drop_left
      simp only [List.flatMap_cons, List.length_cons, decodeMany, cut, tail, ih,
        element.decode_encode]

theorem flatMap_encode_decodeMany (element : Layout α) (count : Nat) (bytes : Bytes)
    (sized : bytes.length = element.size * count) :
    (element.decodeMany count bytes).flatMap element.encode = bytes := by
  induction count generalizing bytes with
  | zero =>
      have empty : bytes = [] := List.length_eq_zero_iff.mp (by simpa using sized)
      simp [decodeMany, empty]
  | succ count ih =>
      have long : bytes.length = element.size * count + element.size := by
        rw [sized, Nat.mul_succ]
      simp only [decodeMany, List.flatMap_cons]
      rw [ih _ (by simp; omega), element.encode_decode _ (by simp; omega),
        List.take_append_drop]

/-- A fixed number of values of one layout. -/
def vector (element : Layout α) (count : Nat) : Layout (Vector α count) where
  size := element.size * count
  encode values := values.toList.flatMap element.encode
  decode bytes := ⟨(element.decodeMany count bytes).toArray, by simp [length_decodeMany]⟩
  length_encode values := by
    rw [length_flatMap_encode, Vector.length_toList]
  decode_encode values := by
    have read := decodeMany_flatMap_encode element values.toList
    rw [Vector.length_toList] at read
    apply Vector.toArray_inj.mp
    simp only [read]
    exact Array.toArray_toList
  encode_decode bytes sized := by
    show List.flatMap element.encode (element.decodeMany count bytes).toArray.toList = bytes
    rw [List.toList_toArray]
    exact flatMap_encode_decodeMany element count bytes sized

/-! ## Scalars -/

private theorem decode_small {count number : Nat} (small : number < wordCount count) :
    ofLittleEndian (littleEndian count number) = number := by
  rw [ofLittleEndian_littleEndian, Nat.mod_eq_of_lt small]

private theorem encode_sized {count : Nat} {bytes : Bytes} (sized : bytes.length = count) :
    littleEndian count (ofLittleEndian bytes) = bytes := by
  subst sized
  exact littleEndian_ofLittleEndian bytes

def u8 : Layout UInt8 where
  size := 1
  encode value := littleEndian 1 value.toNat
  decode bytes := UInt8.ofNat (ofLittleEndian bytes)
  length_encode _ := length_littleEndian _ _
  decode_encode value := by
    rw [decode_small value.toNat_lt]
    exact UInt8.ofNat_toNat
  encode_decode bytes sized := by
    have small := ofLittleEndian_lt bytes
    rw [sized] at small
    rw [UInt8.toNat_ofNat_of_lt' small, encode_sized sized]

def u16 : Layout UInt16 where
  size := 2
  encode value := littleEndian 2 value.toNat
  decode bytes := UInt16.ofNat (ofLittleEndian bytes)
  length_encode _ := length_littleEndian _ _
  decode_encode value := by
    rw [decode_small value.toNat_lt]
    exact UInt16.ofNat_toNat
  encode_decode bytes sized := by
    have small := ofLittleEndian_lt bytes
    rw [sized] at small
    rw [UInt16.toNat_ofNat_of_lt' small, encode_sized sized]

def u32 : Layout UInt32 where
  size := 4
  encode value := littleEndian 4 value.toNat
  decode bytes := UInt32.ofNat (ofLittleEndian bytes)
  length_encode _ := length_littleEndian _ _
  decode_encode value := by
    rw [decode_small value.toNat_lt]
    exact UInt32.ofNat_toNat
  encode_decode bytes sized := by
    have small := ofLittleEndian_lt bytes
    rw [sized] at small
    rw [UInt32.toNat_ofNat_of_lt' small, encode_sized sized]

/-- The 64 bits of a floating-point number. -/
def f64 : Layout UInt64 where
  size := 8
  encode value := littleEndian 8 value.toNat
  decode bytes := UInt64.ofNat (ofLittleEndian bytes)
  length_encode _ := length_littleEndian _ _
  decode_encode value := by
    rw [decode_small value.toNat_lt]
    exact UInt64.ofNat_toNat
  encode_decode bytes sized := by
    have small := ofLittleEndian_lt bytes
    rw [sized] at small
    rw [UInt64.toNat_ofNat_of_lt' small, encode_sized sized]

def i16 : Layout Int16 :=
  u16.iso UInt16.toInt16 Int16.toUInt16 UInt16.toUInt16_toInt16 Int16.toInt16_toUInt16

def i32 : Layout Int32 :=
  u32.iso UInt32.toInt32 Int32.toUInt32 UInt32.toUInt32_toInt32 Int32.toInt32_toUInt32

end Layout

end Wire
end MessageBus
