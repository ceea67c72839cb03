import OpenApiClient.Json.Quoted
import OpenApiClient.Name

/-!
# Spellings in generated code

How the names of a document are written where TypeScript expects the key of an object literal
(`propertyKey`), an access to a member (`memberAccess`) or the name of an argument
(`argumentName`).
-/

namespace OpenApiClient

/-- The key of an object literal: the name itself, or in quotes unless it is an identifier. -/
def propertyKey (name : String) : String := if isIdentifier name then name else Quoted.quote name

/-- The access to a member: after a dot, or in brackets unless the name is an identifier. -/
def memberAccess (name : String) : String :=
  if isIdentifier name then "." ++ name else "[" ++ propertyKey name ++ "]"

/-- The name of an argument: the name itself, or its camel case unless it is an identifier. -/
def argumentName (name : String) : String :=
  if isIdentifier name then name else Text.uncapitalize (Name.pascalOf name)

end OpenApiClient
