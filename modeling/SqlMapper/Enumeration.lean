import SqlMapper.Value

/-!
# Enumerated types

An enumerated type lists its members in order. A member may declare the literal
that the database stores for it; without one its ordinal is stored.
-/

namespace SqlMapper

/-- One member of an enumerated type as it is declared. -/
structure Variant where
  name : String
  ordinal : Int64
  literal : Option Value

/-- An enumerated type. -/
structure Enumeration where
  name : String
  variants : List Variant

/-- The value that stands for a variant of the type called `type`. -/
def Variant.member (variant : Variant) (type : String) : EnumMember :=
  ⟨type, variant.name, variant.ordinal⟩

/-- What the database stores for the variant. -/
def Variant.stored (variant : Variant) : Value :=
  variant.literal.getD (.i64 variant.ordinal)

/-- The variant that a member value stands for, if it belongs to the type. -/
def Enumeration.variantOf? (enumeration : Enumeration) (member : EnumMember) : Option Variant :=
  enumeration.variants.find? fun variant => variant.member enumeration.name = member

end SqlMapper
