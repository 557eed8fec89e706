import CardBrowser.Session.Basic

/-!
# What a session shows

The list of columns to choose from, the values of custom cells and the descriptors of fields. A
card or note that is not there, or that cannot be looked up, has no cells.
-/

namespace CardBrowser

/-- A column to choose from. -/
structure AvailableColumn where
  type : String
  label : String
  isCustom : Bool
deriving DecidableEq, Repr

namespace Session

variable {σ : Type}

/-- The built-in columns that no custom column hides, and the custom columns, by their labels. -/
def availableColumns (session : Session σ) : List AvailableColumn :=
  let builtins := session.builtins.columns.filter fun column =>
    !session.registry.contains column.type
  Registry.sortByLabel (·.label)
    (builtins.map (fun column => ⟨column.type, column.label, false⟩) ++
      session.registry.columns.map fun column => ⟨column.type, column.label, true⟩)

/-- Whether a custom column of the type is registered. -/
def isCustomColumn (session : Session σ) (type : String) : Bool :=
  session.registry.contains type

variable [Store σ]

/-- A card and its note. -/
def loadCard (id : Int) (store : σ) : Option (Card × Note) × σ :=
  match Store.card id store with
  | (.ok (some card), store) =>
    match Store.note card.noteId store with
    | (.ok (some note), store) => (some (card, note), store)
    | (_, store) => (none, store)
  | (_, store) => (none, store)

/-- The value that a custom column shows for a card. -/
def cellValue (session : Session σ) (card : Int) (type : String) : Option String × Session σ :=
  match session.registry.lookup type with
  | none => (none, session)
  | some column =>
    let (loaded, store) := loadCard card session.store
    (loaded.map fun (card, note) => column.value card note, { session with store })

/-- The descriptor of the field that a column shows for a card. -/
def fieldDescriptor (session : Session σ) (card : Int) (type : String) :
    Option Field × Session σ :=
  if (session.fieldCache.fieldName? type).isNone then (none, session)
  else
    match loadCard card session.store with
    | (none, store) => (none, { session with store })
    | (some (_, note), store) =>
      let (field, fieldCache, store) := session.fieldCache.descriptor note.typeId type store
      (field, { session with fieldCache, store })

/-- Whether the field that a column shows for a card is written from right to left. -/
def isRightToLeft (session : Session σ) (card : Int) (type : String) : Bool × Session σ :=
  let (field, session) := session.fieldDescriptor card type
  (field.any (·.rightToLeft), session)

end Session

end CardBrowser
