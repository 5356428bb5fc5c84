/-!
# Type declarations

What a front end reports about one type-like declaration of a source unit. The vocabularies are
open: a word that a later schema may add is kept as written.
-/

namespace TacticalDesign

inductive DeclarationKind where
  | classType
  | interfaceType
  | recordType
  | enumType
  | other (word : String)
  deriving DecidableEq, Repr

namespace DeclarationKind

def word : DeclarationKind → String
  | classType => "class"
  | interfaceType => "interface"
  | recordType => "record"
  | enumType => "enum"
  | other w => w

def ofWord (w : String) : DeclarationKind :=
  if w = "class" then classType
  else if w = "interface" then interfaceType
  else if w = "record" then recordType
  else if w = "enum" then enumType
  else other w

def isKnown : DeclarationKind → Bool
  | other _ => false
  | _ => true

theorem word_ofWord (w : String) : (ofWord w).word = w := by
  unfold ofWord
  split <;> rename_i h <;> try exact h.symm
  split <;> rename_i h <;> try exact h.symm
  split <;> rename_i h <;> try exact h.symm
  split <;> rename_i h <;> first | exact h.symm | rfl

end DeclarationKind

inductive Visibility where
  | publicAccess
  | protectedAccess
  | privateAccess
  | other (word : String)
  deriving DecidableEq, Repr

namespace Visibility

def word : Visibility → String
  | publicAccess => "public"
  | protectedAccess => "protected"
  | privateAccess => "private"
  | other w => w

def ofWord (w : String) : Visibility :=
  if w = "public" then publicAccess
  else if w = "protected" then protectedAccess
  else if w = "private" then privateAccess
  else other w

def isKnown : Visibility → Bool
  | other _ => false
  | _ => true

end Visibility

structure FieldDeclaration where
  name : String
  /-- The text of the declared type; none where the front end could not tell. -/
  declaredType : Option String := none
  /-- Whether the field can be reassigned after construction. -/
  isMutable : Bool := true
  deriving DecidableEq, Repr

structure MethodDeclaration where
  name : String
  /-- The declaration text, for display and for telling changes. -/
  signature : String := ""
  visibility : Visibility := .publicAccess
  isStatic : Bool := false
  /-- Whether the front end marked the method as a property accessor. -/
  isAccessor : Bool := false
  isAbstract : Bool := false
  /-- The type texts of the annotated parameters without the receiver. -/
  parameterTypes : List String := []
  returnType : Option String := none
  deriving DecidableEq, Repr

structure TypeDeclaration where
  name : String
  kind : DeclarationKind := .classType
  nameSpace : String := ""
  fields : List FieldDeclaration := []
  methods : List MethodDeclaration := []
  bases : List String := []
  /-- Whether equality is defined over all fields. -/
  valueEquality : Bool := false
  isAbstract : Bool := false
  deriving DecidableEq, Repr

end TacticalDesign
