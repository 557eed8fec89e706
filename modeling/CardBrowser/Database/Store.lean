import CardBrowser.Database.Contents
import CardBrowser.Database.Query
import CardBrowser.Store.Basic

/-!
# Databases as stores

Only commands change a database, and a command that fails changes nothing.
-/

namespace CardBrowser

open CardBrowser.Database

instance : Store Database where
  execute command database :=
    match database.execute command with
    | .ok next => (.ok (), next)
    | .error fault => (.error fault.storeError, database)
  cardIds query database := ((database.cardIds query).mapError Fault.storeError, database)
  rankedIds query database := ((database.rankedIds query).mapError Fault.storeError, database)
  noteIds cards database := ((database.noteIds cards).mapError Fault.storeError, database)
  card id database := ((database.card? id).mapError Fault.storeError, database)
  note id database := ((database.note? id).mapError Fault.storeError, database)
  fields typeId database := ((database.fields? typeId).mapError Fault.storeError, database)

end CardBrowser
