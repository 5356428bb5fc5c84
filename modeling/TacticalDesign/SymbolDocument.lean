import TacticalDesign.Json.Value
import TacticalDesign.Symbol
/-!
# Symbols in documents

The members of declarations, symbols and relationships in a document.
-/

namespace TacticalDesign

def FieldDeclaration.toJson (f : FieldDeclaration) : Json :=
  .object [("name", .string f.name), ("declared_type", .optionalString f.declaredType),
    ("mutable", .bool f.isMutable)]

def MethodDeclaration.toJson (m : MethodDeclaration) : Json :=
  .object [("name", .string m.name), ("signature", .string m.signature),
    ("visibility", .string m.visibility.word), ("is_static", .bool m.isStatic),
    ("is_accessor", .bool m.isAccessor), ("is_abstract", .bool m.isAbstract),
    ("parameter_types", .strings m.parameterTypes), ("return_type", .optionalString m.returnType)]

def TypeDeclaration.toJson (d : TypeDeclaration) : Json :=
  .object [("name", .string d.name), ("kind", .string d.kind.word),
    ("namespace", .string d.nameSpace), ("fields", .array (d.fields.map (·.toJson))),
    ("methods", .array (d.methods.map (·.toJson))), ("bases", .strings d.bases),
    ("value_equality", .bool d.valueEquality), ("is_abstract", .bool d.isAbstract)]

def Symbol.toJson (s : Symbol) : Json :=
  .object [("symbol_id", .string s.id), ("name", .string s.name),
    ("qualified_name", .string s.qualifiedName), ("namespace", .string s.nameSpace),
    ("kind", .string s.kind.word), ("origin_path", .string s.originPath),
    ("language", .string s.language), ("fields", .array (s.fields.map (·.toJson))),
    ("methods", .array (s.methods.map (·.toJson))), ("bases", .strings s.bases),
    ("value_equality", .bool s.valueEquality), ("is_abstract", .bool s.isAbstract)]

def Relationship.toJson (e : Relationship) : Json :=
  .object [("source_id", .string e.sourceId), ("target_id", .string e.targetId),
    ("kind", .string e.kind.word), ("cardinality", .string e.cardinality.word),
    ("via", .string e.via)]

end TacticalDesign
