import CardBrowser.Search.Native
import CardBrowser.Search.UniqueNotes
import CardBrowser.Session.Basic

/-!
# Changes of a session

A change of what is shown stands between two events of the display and, where it concerns the
result, runs the last search again. A change that is refused gives no new session. Registering a
column changes nothing that is shown.
-/

namespace CardBrowser

open CardBrowser.Search

namespace Session

variable {σ : Type}

/-- Whether there is a column of the type. -/
def knows (session : Session σ) (type : String) : Bool :=
  session.offer.knows type

/-- Makes a change between the two events that the display is told of. -/
def bracketed (change : Session σ → Session σ) (session : Session σ) : Session σ :=
  let changed := change { session with display := session.display ++ [.beginReset] }
  { changed with display := changed.display ++ [.endReset] }

/-- The plans of a session. -/
def planOptions (session : Session σ) : PlanOptions :=
  ⟨session.config.sortTable, session.forced⟩

section Searching

variable [Store σ]

/-- The cards that satisfy a predicate, in the order of the session. A native search that fails
finds nothing. -/
def find (session : Session σ) (predicate : Predicate) : List Int × Session σ :=
  let (plan, registry) :=
    planFor session.registry session.planOptions predicate session.sortType
  let (found, store) := match plan with
    | some plan => plan.execute session.direction session.store
    | none =>
      let (answer, store) :=
        nativeSearch session.native predicate session.sortType session.direction session.store
      (answer.toOption.getD [], store)
  let (found, store) := filterNotes session.uniqueNotes found store
  (found, { session with registry, store })

/-- Runs the last search again. A text that cannot be read finds nothing. -/
def runSearch (session : Session σ) : Session σ :=
  match session.parse session.lastSearch with
  | .error _ => { session with results := [] }
  | .ok predicate =>
    let (results, session) := session.find predicate
    { session with results }

/-- Searches for a text. -/
def search (text : String) (session : Session σ) : Session σ :=
  bracketed (fun session => runSearch { session with lastSearch := text }) session

/-- Sorts by a column. -/
def setSortColumn (type : String) (session : Session σ) : Except RegistryError (Session σ) :=
  if session.knows type then
    .ok (bracketed (fun session => runSearch { session with sortType := type }) session)
  else .error (.notFound type)

/-- Sorts in a direction. -/
def setSortDirection (direction : Direction) (session : Session σ) : Session σ :=
  bracketed (fun session => runSearch { session with direction }) session

/-- Shows one card of every note where all have been shown, and the other way round. -/
def toggleUniqueNotes (session : Session σ) : Session σ :=
  bracketed
    (fun session => runSearch { session with uniqueNotes := !session.uniqueNotes }) session

/-- Takes a column that is gone off the display. If the session sorted by it, the default column
takes its place. -/
def forgetColumn (type : String) (session : Session σ) : Session σ :=
  let active := session.active.remove type
  let (active, sortType) :=
    if session.sortType = type then
      (active.push session.config.defaultSortType, session.config.defaultSortType)
    else (active, session.sortType)
  let active := if active.isEmpty then active.push sortType else active
  { session with active, sortType }

/-- Takes a column that is gone off the display and, if the session sorted by it, searches again. -/
def dropColumn (type : String) (session : Session σ) : Session σ :=
  bracketed
    (fun session =>
      if session.sortType = type then runSearch (session.forgetColumn type)
      else session.forgetColumn type)
    session

/-- Unregisters a custom column and returns it. One that is the default sort column is kept. -/
def unregisterColumn (type : String) (session : Session σ) :
    Except RegistryError (CustomColumn × Session σ) :=
  if type = session.config.defaultSortType ∧ !session.builtins.contains type then
    .error (.isProtected type)
  else
    match session.registry.unregister type with
    | .error error => .error error
    | .ok (column, registry) => .ok (column, dropColumn type { session with registry })

/-- Hides a column until the session ends. The default sort column is kept. -/
def removeColumn (type : String) (session : Session σ) : Except RegistryError (Session σ) :=
  if type = session.config.defaultSortType then .error (.isProtected type)
  else
    match session.offer.hide type with
    | none => .error (.notFound type)
    | some offer => .ok (dropColumn type (session.withOffer offer))

end Searching

/-- Displays a hidden column or hides a displayed one, and tells whether it is displayed now. -/
def toggleColumn (type : String) (session : Session σ) :
    Except RegistryError (Bool × Session σ) :=
  if session.knows type then
    let (shown, active) := session.active.toggle type
    .ok (shown, bracketed (fun session => { session with active }) session)
  else .error (.notFound type)

/-- Registers a custom column, which is not displayed yet. -/
def registerColumn (column : CustomColumn) (session : Session σ) :
    Except RegistryError (Session σ) :=
  (session.registry.register column).map fun registry => { session with registry }

end Session

end CardBrowser
