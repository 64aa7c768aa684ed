import SqlMapper.Dialect
import SqlMapper.Error
import SqlMapper.Url.Connection

/-!
# Dialect registry

Dialects under the identifiers of their providers, whatever the case of the
letters. A connection URL selects a dialect by its scheme.
-/

namespace SqlMapper

/-- Dialects by provider identifier in small letters, in order of registration. -/
structure Registry where
  dialects : List (String × Dialect)

namespace Registry

/-- An identifier in small letters; only the letters of ASCII have a case here. -/
def normalized (id : String) : String :=
  id.map Char.toLower

/-- A registry without dialects. -/
def empty : Registry :=
  ⟨[]⟩

/-- Register a dialect, replacing the one under the same identifier. -/
def register (registry : Registry) (id : String) (dialect : Dialect) : Registry :=
  ⟨NameTable.insert (normalized id) dialect registry.dialects⟩

/-- The providers of the built-in dialects. -/
def providers : List (String × Dialect) :=
  [("ansi", .ansi), ("sqlserver", .sqlserver), ("mssql", .sqlserver),
    ("sqlserver2012", .sqlserver2012), ("sqlite", .sqlite), ("mysql", .mysql),
    ("mariadb", .mysql), ("postgresql", .postgresql), ("postgres", .postgresql),
    ("oracle", .oracle)]

/-- The registry of the built-in dialects. -/
def standard : Registry :=
  providers.foldl (fun registry entry => registry.register entry.1 entry.2) empty

/-- The dialect of a provider. -/
def get? (registry : Registry) (id : String) : Option Dialect :=
  NameTable.get? (normalized id) registry.dialects

/-- The dialect of a provider that has to be registered. -/
def get (registry : Registry) (id : String) : Result Dialect :=
  match registry.get? id with
  | some dialect => .ok dialect
  | none =>
    (Fault.unsupportedFeature ("no dialect registered for `" ++ id ++ "`")).fail

/-- The dialect that a connection URL selects. -/
def forUrl (registry : Registry) (url : String) : Result Dialect :=
  match Url.scheme url with
  | .ok scheme => registry.get scheme
  | .error fault =>
    .error ((Error.of (.foreign fault.message)).context
      (.adhoc ("invalid connection url `" ++ url ++ "`")))

/-- The identifiers in order. -/
def ids (registry : Registry) : List String :=
  NameTable.names registry.dialects

end Registry

end SqlMapper
