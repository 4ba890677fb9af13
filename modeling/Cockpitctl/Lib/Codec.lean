import Cockpitctl.Lib.Serde

/-!
# Typed decoders

A codec is a decoder into a type together with the shape it reads; its law says that it succeeds
exactly on the documents the shape accepts. The codec of a structure is assembled field by field
from a constructor, so its shape lists the fields in the order of the structure.

## Main definitions

* `Codec`: a decoder with its shape
* `Codec.string`, `Codec.bool`, `Codec.u32`, `Codec.u64`, `Codec.usize`, `Codec.any`,
  `Codec.variant`, `Codec.option`, `Codec.vec`, `Codec.map`: the decoders of the basic types
* `Record`, `Codec.struct`: the decoder of a structure, field by field
-/

/-- A decoder that succeeds exactly on the documents accepted by its shape. -/
structure Codec (α : Type) where
  shape : Shape
  decode : Json → Option α
  isSome_decode : ∀ j, (decode j).isSome = shape.accepts j

namespace Codec

variable {α β : Type}

/-- Strings. -/
def string : Codec String where
  shape := .string
  decode
    | .string s => some s
    | _ => none
  isSome_decode j := by cases j <;> rfl

/-- Truth values. -/
def bool : Codec Bool where
  shape := .bool
  decode
    | .bool b => some b
    | _ => none
  isSome_decode j := by cases j <;> rfl

/-- The natural number of an integer of at most `bits` bits. -/
def natOfBits (bits : ℕ) : Json → Option ℕ
  | .number (.integer n _) => if 0 ≤ n && n < 2 ^ bits then some n.toNat else none
  | _ => none

theorem isSome_natOfBits (bits : ℕ) (j : Json) :
    (natOfBits bits j).isSome = (Shape.unsigned bits).accepts j := by
  cases j with
  | number m =>
    cases m with
    | integer n range =>
      simp only [natOfBits, Shape.accepts]
      split_ifs with h <;> simp_all
    | float q => rfl
  | _ => rfl

/-- Unsigned integers of 32 bits. -/
def u32 : Codec UInt32 where
  shape := .unsigned 32
  decode j := (natOfBits 32 j).map UInt32.ofNat
  isSome_decode j := by rw [Option.isSome_map, isSome_natOfBits]

/-- Unsigned integers of 64 bits. -/
def u64 : Codec UInt64 where
  shape := .unsigned 64
  decode j := (natOfBits 64 j).map UInt64.ofNat
  isSome_decode j := by rw [Option.isSome_map, isSome_natOfBits]

/-- Machine-sized unsigned integers. -/
def usize : Codec ℕ where
  shape := .unsigned 64
  decode := natOfBits 64
  isSome_decode j := isSome_natOfBits 64 j

/-- Arbitrary values. -/
def any : Codec Value where
  shape := .any
  decode := Json.toValue?
  isSome_decode j := by
    rw [Json.toValue?, Shape.accepts]
    split_ifs with h <;> simp [h]

/-- Enumerations without payloads, given by the names of their variants. -/
def variant (table : List (String × α)) : Codec α where
  shape := .variant (table.map Prod.fst)
  decode
    | .string s => table.lookup s
    | .object [(k, .null)] => table.lookup k
    | _ => none
  isSome_decode j := by
    have hlookup : ∀ name, (table.lookup name).isSome = (table.map Prod.fst).contains name := by
      intro name
      rw [Bool.eq_iff_iff, List.lookup_isSome_iff, List.contains_iff_mem, List.mem_map]
      exact exists_congr fun p => and_congr_right fun _ => by rw [beq_iff_eq, eq_comm]
    -- A variant is its name, or the object that maps its name to `null`.
    cases j with
    | string s => exact hlookup s
    | object ms =>
      match ms with
      | [] => rfl
      | [(k, j)] => cases j <;> first | exact hlookup k | rfl
      | (k, j) :: m :: ms => cases j <;> rfl
    | _ => rfl

/-- Optional values. -/
def option (c : Codec α) : Codec (Option α) where
  shape := c.shape.option
  decode
    | .null => some none
    | j => (c.decode j).map some
  isSome_decode j := by
    split
    · rfl
    · next hnull =>
      rw [Shape.accepts, Option.isSome_map, c.isSome_decode]
      exact hnull

/-- The decoded items of a sequence. -/
def decodeItems (c : Codec α) : List Json → Option (List α)
  | [] => some []
  | j :: js => (c.decode j).bind fun a => (c.decodeItems js).map fun as => a :: as

theorem isSome_decodeItems (c : Codec α) (js : List Json) :
    (c.decodeItems js).isSome = js.all fun j => c.shape.accepts j := by
  induction js with
  | nil => rfl
  | cons j js ih =>
    rw [decodeItems, List.all_cons, ← ih, ← c.isSome_decode]
    cases c.decode j <;> simp

/-- Sequences. -/
def vec (c : Codec α) : Codec (List α) where
  shape := c.shape.vec
  decode
    | .array js => c.decodeItems js
    | _ => none
  isSome_decode j := by
    cases j with
    | array js => exact c.isSome_decodeItems js
    | _ => rfl

/-- Insert the decoded members, from left to right, into the entries so far. -/
def decodeMembers (c : Codec α) (entries : SortedMap String α) :
    List (String × Json) → Option (SortedMap String α)
  | [] => some entries
  | (k, j) :: ms => (c.decode j).bind fun a => c.decodeMembers (entries.insert k a) ms

theorem isSome_decodeMembers (c : Codec α) (entries : SortedMap String α)
    (ms : List (String × Json)) :
    (c.decodeMembers entries ms).isSome = ms.all fun m => c.shape.accepts m.2 := by
  induction ms generalizing entries with
  | nil => rfl
  | cons m ms ih =>
    rw [decodeMembers, List.all_cons, ← c.isSome_decode]
    cases c.decode m.2 with
    | none => rfl
    | some a => simp [ih]

/-- Maps with string keys. -/
def map (c : Codec α) : Codec (SortedMap String α) where
  shape := c.shape.map
  decode
    | .object ms => c.decodeMembers SortedMap.empty ms
    | _ => none
  isSome_decode j := by
    cases j with
    | object ms => exact c.isSome_decodeMembers SortedMap.empty ms
    | _ => rfl

end Codec

/-! ## Structures -/

/-- The decoder of a structure from the fields found, with the fields it reads. -/
structure Record (α : Type) where
  fields : Fields
  build : (String → Option Json) → Option α
  isSome_build : ∀ get, (build get).isSome = fields.accepts get

theorem Fields.accepts_append : ∀ (fs gs : Fields) (get : String → Option Json),
    (fs.append gs).accepts get = (fs.accepts get && gs.accepts get)
  | .nil, _, _ => rfl
  | .cons _ _ _ rest, gs, get => by
    rw [append, accepts, accepts, accepts_append rest gs get, Bool.and_assoc]

namespace Record

variable {α β : Type}

/-- A structure whose remaining fields are given. -/
def pure (a : α) : Record α where
  fields := .nil
  build _ := some a
  isSome_build _ := rfl

/-- A required field. -/
def required (r : Record (α → β)) (name : String) (c : Codec α) : Record β where
  fields := r.fields.append (.cons name true c.shape .nil)
  build get := (r.build get).bind fun f => (get name).bind fun j => (c.decode j).map f
  isSome_build get := by
    rw [Fields.accepts_append, ← r.isSome_build]
    cases r.build get <;> cases hname : get name <;>
      simp [Fields.accepts, hname, c.isSome_decode]

/-- A field with a default. -/
def withDefault (r : Record (α → β)) (name : String) (c : Codec α) (default : α) :
    Record β where
  fields := r.fields.append (.cons name false c.shape .nil)
  build get := (r.build get).bind fun f =>
    match get name with
    | none => some (f default)
    | some j => (c.decode j).map f
  isSome_build get := by
    rw [Fields.accepts_append, ← r.isSome_build]
    cases r.build get <;> cases hname : get name <;>
      simp [Fields.accepts, hname, c.isSome_decode]

/-- An optional field, absent by default. -/
def optional (r : Record (Option α → β)) (name : String) (c : Codec α) : Record β :=
  r.withDefault name c.option none

end Record

/-- The decoder of a structure, from an object or from the sequence of its fields. -/
def Codec.struct {α : Type} (r : Record α) : Codec α where
  shape := .struct r.fields
  decode
    | .object ms =>
      if unrepeated r.fields.names ms then r.build fun name => ms.lookup name else none
    | .array js =>
      if js.length ≤ r.fields.names.length then r.build (positional r.fields.names js) else none
    | _ => none
  isSome_decode j := by
    cases j with
    | object ms =>
      rw [Shape.accepts, ← r.isSome_build]
      simp only
      split_ifs with h <;> simp [h]
    | array js =>
      rw [Shape.accepts, ← r.isSome_build]
      simp only
      split_ifs with h <;> simp [h]
    | _ => rfl
