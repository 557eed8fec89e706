import CardBrowser.Error
import CardBrowser.Sql.Scope
import CardBrowser.Sql.Reading

/-!
# Faults of a database

A fault is the reason why a database refuses an operation. A store reports it as one of its own
errors, which is mostly an internal one.
-/

namespace CardBrowser.Database

open CardBrowser.Sql

/-- The schema version that this program writes, and the newest one that it reads. -/
def supportedVersion : Int := 1

/-- How many levels an expression may have. -/
def greatestHeight : Nat := 1000

/-- How many bytes a pattern may have. -/
def longestPattern : Nat := 50000

/-- Why a database refuses an operation. -/
inductive Fault where
  | noSuchTable (name : String)
  | tableExists (name sql : String)
  /-- A text that is no statement. -/
  | misread (misread : Misread) (sql : String)
  /-- A table that cannot be dropped. -/
  | permanentTable (name : String)
  /-- An expression with too many levels. -/
  | tooHigh
  /-- A pattern with too many bytes. -/
  | longPattern
  /-- A table name that belongs to the database itself. -/
  | reservedName (name : String)
  /-- A table name that is the name of an index. -/
  | indexExists (name : String)
  | duplicateColumn (name : String)
  /-- A new table in a part that no database has. -/
  | noSuchPart (name sql : String)
  /-- A new temporary table in another part. -/
  | qualifiedTemporary
  /-- A computed table that cannot do without being created. -/
  | needsCreation (name : String)
  /-- A stored table that is given arguments. -/
  | notComputed (name : String)
  /-- An index that a table does not have. -/
  | noSuchIndex (name : String)
  /-- A computed table that cannot list all of its rows. -/
  | unlisted
  | rejected (rejection : Rejection) (sql : String)
  | parameterCount (given needed : Nat)
  /-- A card without its note. -/
  | foreignKey
  | noRow
  | newerVersion (version : Int)
  | versionOutOfRange (version : Int)
  | malformedFields
deriving DecidableEq, Repr

namespace Fault

/-- The fault of a rejected statement. -/
def ofRejection (sql : String) : Rejection → Fault
  | .noSuchTable name => noSuchTable name
  | rejection => rejected rejection sql

/-- How many bytes stand before the first occurrence of a part in a text. -/
def offset (part : List Char) : List Char → Nat
  | [] => 0
  | c :: rest => if part.isPrefixOf (c :: rest) then 0 else c.utf8Size + offset part rest

/-- A reason with the statement and the place in it that gave rise to it. -/
def placed (reason culprit sql : String) : String :=
  s!"{reason} in {sql} at offset {offset culprit.toList sql.toList}"

/-- The wording of a fault. -/
def message : Fault → String
  | noSuchTable name => s!"no such table: {name}"
  | tableExists name sql => placed s!"table {name} already exists" name sql
  | misread .unfinished _ => "incomplete input"
  | misread (.unexpected token) sql =>
    placed s!"near \"{token.text}\": syntax error" token.text sql
  | misread .joinless _ => "a JOIN clause is required before ON"
  | permanentTable name => s!"table {name} may not be dropped"
  | tooHigh => s!"Expression tree is too large (maximum depth {greatestHeight})"
  | longPattern => "LIKE or GLOB pattern too complex"
  | reservedName name => s!"object name reserved for internal use: {name}"
  | indexExists name => s!"there is already an index named {name}"
  | duplicateColumn name => s!"duplicate column name: {name}"
  | noSuchPart name sql => placed s!"unknown database {name}" name sql
  | qualifiedTemporary => "temporary table name must be unqualified"
  | needsCreation name => s!"invalid arguments to {name} constructor"
  | notComputed name => s!"'{name}' is not a function"
  | noSuchIndex name => s!"no such index: {name}"
  | unlisted => "SQL logic error"
  | rejected (.unreadable text) sql => placed "syntax error" text sql
  | rejected (.noSuchColumn name) sql => placed s!"no such column: {name}" name sql
  | rejected (.ambiguousColumn name) sql => placed s!"ambiguous column name: {name}" name sql
  | rejected (.noSuchTable name) _ => s!"no such table: {name}"
  | parameterCount given needed =>
    s!"Wrong number of parameters passed to query. Got {given}, needed {needed}"
  | foreignKey => "FOREIGN KEY constraint failed"
  | noRow => "Query returned no rows"
  | newerVersion version =>
    s!"database schema version {version} is newer than supported version {supportedVersion}"
  | versionOutOfRange version =>
    s!"Failed to read schema_version: Integer {version} out of range at index 0"
  | malformedFields => DecodeFault.malformed.message

/-- The name by which errors call the database. -/
def backend : String := "sqlite"

/-- The error that a store reports. -/
def storeError : Fault → StoreError
  | newerVersion version => .migration (newerVersion version).message
  | versionOutOfRange version => .migration (versionOutOfRange version).message
  | malformedFields => .serialization .malformed
  | fault => .internal backend fault.message

end Fault

end CardBrowser.Database
