import CardBrowser.Column.Active
import CardBrowser.FieldCache
import CardBrowser.Preferences.Basic
import CardBrowser.Search.Condition
import CardBrowser.Search.Plan
import CardBrowser.Session.Offer

/-!
# Sessions

A session is one open browser: the columns on offer and on display, the column and direction of
sorting, and the cards found by the last search. A setup says what the host program brings;
`Setup.open?` puts it together with the saved preferences, and `Session.finalize` saves the
preferences and gives the built-in columns back.
-/

namespace CardBrowser

open CardBrowser.Search

/-- What a display is told. -/
inductive DisplayEvent where
  | beginReset
  | endReset
deriving DecidableEq, Repr

/-- What a host program brings to a browser. -/
structure Setup where
  config : Config := {}
  /-- How search texts are read. -/
  parse : String → Except QueryError Predicate := Predicate.ofText 0
  /-- The built-in columns by whose order clauses native searches sort. -/
  native : BuiltinColumns := .standard
  /-- A strategy that every search with a sort expression must follow. -/
  forced : Option Strategy := none
  registry : Registry := {}
  builtins : BuiltinColumns := .standard
  /-- The types of columns that are hidden from the beginning. -/
  removals : List String := []

/-- An open browser on a store with states `σ`. -/
structure Session (σ : Type) where
  store : σ
  config : Config
  parse : String → Except QueryError Predicate
  native : BuiltinColumns
  forced : Option Strategy
  registry : Registry
  builtins : BuiltinColumns
  /-- The built-in columns that have been hidden, the earliest first. -/
  removed : List BuiltinColumn
  active : ActiveColumns
  sortType : String
  direction : Direction
  uniqueNotes : Bool
  fieldCache : FieldCache
  lastSearch : String
  results : List Int
  /-- What the display has been told, the earliest first. -/
  display : List DisplayEvent

namespace Setup

/-- The columns that are on offer at the beginning. -/
def offer (setup : Setup) : Offer :=
  Offer.hideAll setup.config.defaultSortType setup.removals
    { registry := setup.registry, builtins := setup.builtins }

/-- Opens a browser. Saved columns that are not there any more are dropped. If the saved sort
column is not there, the default one takes its place and is displayed. -/
def open? {σ : Type} (setup : Setup) (preferences : Preferences) (store : σ)
    (display : List DisplayEvent := []) : Except BrowserError (Session σ) :=
  let config := setup.config
  match config.validate with
  | .error fault => .error (.config fault)
  | .ok _ =>
    let offer := setup.offer
    if !offer.knows config.defaultSortType then
      .error (.config (.unknownSortType config.defaultSortType))
    else
      let saved := (preferences.activeColumns.filter (!·.isEmpty)).getD config.defaultColumns
      let (active, _) := ActiveColumns.ofSaved saved offer.knows
      let (active, sortType) := match preferences.sortType.filter offer.knows with
        | some type => (active, type)
        | none => (active.push config.defaultSortType, config.defaultSortType)
      let active := if active.isEmpty then active.push sortType else active
      .ok
        { store, config, active, sortType, display
          parse := setup.parse
          native := setup.native
          forced := setup.forced
          registry := offer.registry
          builtins := offer.builtins
          removed := offer.removed
          direction := .ofBackwards preferences.sortBackwards
          uniqueNotes := preferences.uniqueNotes
          fieldCache := { mark := config.fieldMark }
          lastSearch := ""
          results := [] }

/-- Opens a browser with the preferences that a store keeps. -/
def openSaved? {σ π : Type} [PreferenceStore π] (setup : Setup) (preferences : π) (store : σ)
    (display : List DisplayEvent := []) : Except BrowserError (Session σ) :=
  setup.open? (.load setup.config.keys (PreferenceStore.values preferences)) store display

end Setup

namespace Session

variable {σ : Type}

/-- The columns of a session. -/
def offer (session : Session σ) : Offer :=
  ⟨session.registry, session.builtins, session.removed⟩

/-- A session with other columns. -/
def withOffer (session : Session σ) (offer : Offer) : Session σ :=
  { session with
    registry := offer.registry, builtins := offer.builtins, removed := offer.removed }

/-- The state of a session that is saved. -/
def preferences (session : Session σ) : Preferences where
  activeColumns := some session.active.types
  sortType := some session.sortType
  sortBackwards := session.direction.isDescending
  uniqueNotes := session.uniqueNotes

/-- The built-in columns with the hidden ones put back. -/
def restoredBuiltins (session : Session σ) : BuiltinColumns :=
  session.builtins.restore session.removed

/-- Saves the state of a session and gives the built-in columns back. -/
def finalize {π : Type} [PreferenceStore π] (session : Session σ) (store : π) :
    Except PreferenceError BuiltinColumns × π :=
  let values := session.preferences.save session.config.keys (PreferenceStore.values store)
  let (flushed, store) := PreferenceStore.flush (PreferenceStore.withValues values store)
  (flushed.map fun _ => session.restoredBuiltins, store)

end Session

end CardBrowser
