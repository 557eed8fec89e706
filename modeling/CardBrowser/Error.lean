/-!
# Errors

Every failure is a value that names its cause. The wording of a cause stands in one function,
`message`, next to the type of the cause. A cause `reported` carries the words of the host
program, which registers columns, parses searches and opens stores of its own.
-/

namespace CardBrowser

/-- What is wrong with a search text. -/
inductive SearchFault where
  | unbalancedQuotes
  | missingValue (qualifier : String)
  | notANumber (value : String)
  | ordinalBelowOne
  | unknownState (name : String)
  | reported (message : String)
deriving DecidableEq, Repr

/-- The wording of a search fault. -/
def SearchFault.message : SearchFault → String
  | unbalancedQuotes => "unbalanced quotes"
  | missingValue qualifier => s!"'{qualifier}:' needs a value"
  | notANumber value => s!"'{value}' is not a number"
  | ordinalBelowOne => "card ordinals start at 1"
  | unknownState name => s!"unknown state 'is:{name}'"
  | reported message => message

/-- Failures on the way from a search and a sort column to SQL. -/
inductive QueryError where
  | invalidSearch (text : String) (fault : SearchFault)
  | sortExpression (columnType message : String)
deriving DecidableEq, Repr

/-- The wording of a query error. -/
def QueryError.message : QueryError → String
  | invalidSearch text fault => s!"invalid search syntax in '{text}': {fault.message}"
  | sortExpression columnType message =>
    s!"sort expression for column '{columnType}' failed: {message}"

/-- The step of a search at which a store failed. -/
inductive Stage where
  | projection
  | finalQuery
  | cleanup
  | postFilter
  | native
deriving DecidableEq, Repr

/-- The name of a stage. -/
def Stage.name : Stage → String
  | projection => "projection"
  | finalQuery => "final query"
  | cleanup => "cleanup"
  | postFilter => "post filter"
  | native => "native search"

/-- Why stored JSON cannot be used: it does not have the right form, or the host says so. -/
inductive DecodeFault where
  | malformed
  | reported (message : String)
deriving DecidableEq, Repr

/-- The wording of a decoding fault. -/
def DecodeFault.message : DecodeFault → String
  | malformed => "malformed JSON"
  | reported message => message

/-- Failures of a store. -/
inductive StoreError where
  | connectionFailed (backend message : String)
  | execution (stage : Stage) (message : String)
  | migration (message : String)
  | serialization (fault : DecodeFault)
  | internal (backend message : String)
deriving DecidableEq, Repr

namespace StoreError

/-- The wording of a store error. -/
def message : StoreError → String
  | connectionFailed backend message => s!"connection failed to {backend}: {message}"
  | execution stage message => s!"{stage.name} failed: {message}"
  | migration message => s!"schema migration failed: {message}"
  | serialization fault => s!"serialization error: {fault.message}"
  | internal backend message => s!"internal error in {backend}: {message}"

/-- The error as a failure at a stage; the stage of an error that has one already is kept. -/
def atStage (stage : Stage) : StoreError → StoreError
  | execution earlier message => execution earlier message
  | error => execution stage error.message

end StoreError

/-- Refusals to change the set of columns. -/
inductive RegistryError where
  | invalidIdentifier (columnType : String)
  | notFound (columnType : String)
  | isProtected (columnType : String)
deriving DecidableEq, Repr

/-- The wording of a registry error. -/
def RegistryError.message : RegistryError → String
  | invalidIdentifier columnType => s!"invalid column type identifier: '{columnType}'"
  | notFound columnType => s!"column not registered: {columnType}"
  | isProtected columnType => s!"column cannot be removed: {columnType}"

/-- Failures of a preference file. -/
inductive PreferenceError where
  | io (path message : String)
  | serialization (message : String)
deriving DecidableEq, Repr

/-- The wording of a preference error. -/
def PreferenceError.message : PreferenceError → String
  | io path message => s!"preference file {path}: {message}"
  | serialization message => s!"preference serialization error: {message}"

/-- What is wrong with a configuration. -/
inductive ConfigFault where
  | malformed
  | sortTableName (name : String)
  | emptySortType
  | emptyFieldMark
  | unknownSortType (columnType : String)
  | reported (message : String)
deriving DecidableEq, Repr

/-- The wording of a configuration fault. -/
def ConfigFault.message : ConfigFault → String
  | malformed => "malformed JSON"
  | sortTableName name => s!"sort table name '{name}' is not a plain SQL identifier"
  | emptySortType => "default sort type must not be empty"
  | emptyFieldMark => "field column prefix must not be empty"
  | unknownSortType columnType =>
    s!"default sort column '{columnType}' is neither built in nor registered"
  | reported message => message

/-- Failures of a browser. -/
inductive BrowserError where
  | query (error : QueryError)
  | store (error : StoreError)
  | registry (error : RegistryError)
  | preference (error : PreferenceError)
  | config (fault : ConfigFault)
deriving DecidableEq, Repr

/-- The wording of a browser error. -/
def BrowserError.message : BrowserError → String
  | query error => error.message
  | store error => error.message
  | registry error => error.message
  | preference error => error.message
  | config fault => s!"invalid configuration: {fault.message}"

end CardBrowser
