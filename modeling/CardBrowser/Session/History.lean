import CardBrowser.Session.Change

/-!
# Histories of a session

An operation is one change that a user or the host program asks for. A history is a list of
operations; those that are refused leave the session as it is.
-/

namespace CardBrowser

/-- A change that is asked for. -/
inductive Operation where
  | search (text : String)
  | toggleColumn (type : String)
  | setSortColumn (type : String)
  | setSortDirection (direction : Direction)
  | toggleUniqueNotes
  | registerColumn (column : CustomColumn)
  | unregisterColumn (type : String)
  | removeColumn (type : String)

namespace Session

variable {σ : Type} [Store σ]

/-- The session after an operation, or the reason why the operation is refused. -/
def apply (session : Session σ) : Operation → Except RegistryError (Session σ)
  | .search text => .ok (session.search text)
  | .toggleColumn type => (session.toggleColumn type).map Prod.snd
  | .setSortColumn type => session.setSortColumn type
  | .setSortDirection direction => .ok (session.setSortDirection direction)
  | .toggleUniqueNotes => .ok session.toggleUniqueNotes
  | .registerColumn column => session.registerColumn column
  | .unregisterColumn type => (session.unregisterColumn type).map Prod.snd
  | .removeColumn type => session.removeColumn type

/-- The session after an operation, which is the session before it if the operation is refused. -/
def step (session : Session σ) (operation : Operation) : Session σ :=
  (session.apply operation).toOption.getD session

/-- The session after a history. -/
def run (session : Session σ) (operations : List Operation) : Session σ :=
  operations.foldl step session

end Session

end CardBrowser
