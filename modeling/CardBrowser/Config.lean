import CardBrowser.Error
import CardBrowser.Json.Interpretation
import CardBrowser.Text.Word

/-!
# Configuration

A configuration is read from JSON, in which every member may be left out. It is valid if the name
of the sort table can stand in SQL and if two texts by which things are looked up are not empty.
-/

namespace CardBrowser

open CardBrowser.Json

/-- The keys under which the state of a browser is saved. -/
structure PreferenceKeys where
  activeColumns : String := "advbrowse_activeCols"
  sortType : String := "sortType"
  sortBackwards : String := "sortBackwards"
  uniqueNotes : String := "advbrowse_uniqueNote"
deriving DecidableEq, Repr

/-- The keys that a JSON tree gives. -/
def PreferenceKeys.ofNode? (node : Node) : Option PreferenceKeys := do
  let keys : PreferenceKeys := {}
  match ← node.record? ["active_columns", "sort_type", "sort_backwards", "unique_groups"] with
  | [activeColumns, sortType, sortBackwards, uniqueNotes] =>
    return {
      activeColumns := ← Node.orDefault Node.text? keys.activeColumns activeColumns
      sortType := ← Node.orDefault Node.text? keys.sortType sortType
      sortBackwards := ← Node.orDefault Node.text? keys.sortBackwards sortBackwards
      uniqueNotes := ← Node.orDefault Node.text? keys.uniqueNotes uniqueNotes }
  | _ => none

/-- The configuration of a browser. -/
structure Config where
  /-- The column to sort by where no other one is known. -/
  defaultSortType : String := "noteFld"
  /-- The columns to show where none have been saved. -/
  defaultColumns : List String := ["noteFld", "template", "cardDue", "deck"]
  /-- What the types of columns that show a field begin with. -/
  fieldMark : String := "_field_"
  /-- The name of the temporary table of sort values. -/
  sortTable : String := "tmp"
  /-- How many milliseconds a search may take before it counts as slow. -/
  slowSearch : Nat := 500
  keys : PreferenceKeys := {}
deriving DecidableEq, Repr

namespace Config

/-- The configuration that a JSON tree gives, which need not be valid. -/
def ofNode? (node : Node) : Option Config := do
  let config : Config := {}
  match ← node.record? ["default_sort_type", "default_active_columns", "field_column_prefix",
      "sort_table_name", "slow_search_threshold_ms", "keys"] with
  | [defaultSortType, defaultColumns, fieldMark, sortTable, slowSearch, keys] =>
    return {
      defaultSortType := ← Node.orDefault Node.text? config.defaultSortType defaultSortType
      defaultColumns := ← Node.orDefault Node.texts? config.defaultColumns defaultColumns
      fieldMark := ← Node.orDefault Node.text? config.fieldMark fieldMark
      sortTable := ← Node.orDefault Node.text? config.sortTable sortTable
      slowSearch := ← Node.orDefault (Node.natUpTo? greatestWord) config.slowSearch slowSearch
      keys := ← Node.orDefault PreferenceKeys.ofNode? config.keys keys }
  | _ => none

/-- Checks that a configuration is valid. -/
def validate (config : Config) : Except ConfigFault Unit :=
  if !Text.isName config.sortTable.toList then .error (.sortTableName config.sortTable)
  else if config.defaultSortType = "" then .error .emptySortType
  else if config.fieldMark = "" then .error .emptyFieldMark
  else .ok ()

/-- The valid configuration that a JSON text gives. -/
def ofText (text : String) : Except ConfigFault Config :=
  match (Node.ofText? text).bind ofNode? with
  | none => .error .malformed
  | some config => (validate config).map fun _ => config

end Config

end CardBrowser
