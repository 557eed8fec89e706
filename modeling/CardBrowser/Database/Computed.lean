import CardBrowser.Database.Catalog

/-!
# Computed tables

What the lists of tables show, and the tables that compute their rows from them or from settings.
Of their rows the names are shown, by which statements look for tables; what the program does not
know is NULL.
-/

namespace CardBrowser.Database

open CardBrowser.Sql

/-- A table of some columns whose rows have texts in some of them. -/
def ofTexts (columns : List String) (rows : List (List (String × String))) : Source where
  columns
  rows := rows.map fun texts => columns.map fun column =>
    (column, ((texts.find? (·.1 == column)).map fun shown => Value.text shown.2).getD .null)

/-- The word for what an entry is about. -/
def EntryKind.word : EntryKind → String
  | table => "table"
  | index => "index"

/-- The list of a part as statements see it. -/
def listSource (database : Database) (part : Part) : Source :=
  ofTexts ["type", "name", "tbl_name", "rootpage", "sql"] ((database.entries part).map fun entry =>
    [("type", entry.kind.word), ("name", entry.name), ("tbl_name", entry.table)])

/-! ## Settings -/

/-- The columns of the tables of settings. A setting that is not listed has one column, which has
its name. -/
def settingColumns : List (String × List String) :=
  [("busy_timeout", ["timeout"]), ("collation_list", ["seq", "name"]),
   ("database_list", ["seq", "name", "file"]), ("default_cache_size", ["cache_size"]),
   ("foreign_key_check", ["table", "rowid", "parent", "fkid"]),
   ("foreign_key_list", ["id", "seq", "table", "from", "to", "on_update", "on_delete", "match"]),
   ("function_list", ["name", "builtin", "type", "enc", "narg", "flags"]),
   ("index_info", ["seqno", "cid", "name"]),
   ("index_list", ["seq", "name", "unique", "origin", "partial"]),
   ("index_xinfo", ["seqno", "cid", "name", "desc", "coll", "key"]), ("module_list", ["name"]),
   ("pragma_list", ["name"]),
   ("table_info", ["cid", "name", "type", "notnull", "dflt_value", "pk"]),
   ("table_list", ["schema", "name", "type", "ncol", "wr", "strict"]),
   ("table_xinfo", ["cid", "name", "type", "notnull", "dflt_value", "pk", "hidden"])]

/-- The settings that cannot be read as tables. -/
def otherSettings : List String :=
  ["case_sensitive_like", "incremental_vacuum", "mmap_size", "shrink_memory",
   "temp_store_directory", "wal_autocheckpoint", "wal_checkpoint"]

/-- The tables of both parts, their lists included. -/
def tableList (database : Database) : List (List (String × String)) :=
  let shown (schema name : String) := [("schema", schema), ("name", name), ("type", "table")]
  let stored (part : Part) : List String :=
    ((database.entries part).filter (·.kind == .table)).map (·.name)
  (stored .lasting ++ ["sqlite_schema"]).map (shown "main") ++
    (stored .temporary ++ ["sqlite_temp_schema"]).map (shown "temp")

/-- The columns of a table of that name. -/
def columnsNamed (database : Database) (table : String) : List String :=
  match database.kept? ⟨none, table⟩ with
  | some (.stored _ source) => source.columns
  | some (.list part) => (database.listSource part).columns
  | _ => []

/-- The indices on the table of that name. -/
def indicesOf (database : Database) (table : String) : List String :=
  ((database.entries .lasting).filter fun entry =>
    entry.kind == .index && sameName entry.table table).map (·.name)

/-- The rows of the table of a setting that is asked about what has the given name. -/
def settingRows (database : Database) (setting : String) (asked : Option String) :
    List (List (String × String)) :=
  let names (shown : List String) := shown.map fun name => [("name", name)]
  match setting with
  | "collation_list" => names ["RTRIM", "NOCASE", "BINARY"]
  | "database_list" => names (if database.temporary.isEmpty then ["main"] else ["main", "temp"])
  | "foreign_key_check" | "foreign_key_list" | "index_info" | "index_xinfo" | "optimize" => []
  | "compile_options" | "function_list" | "module_list" => []
  | "index_list" => names ((asked.map database.indicesOf).getD [])
  | "pragma_list" => names (settings ++ otherSettings)
  | "table_info" | "table_xinfo" => names ((asked.map database.columnsNamed).getD [])
  | "table_list" =>
    database.tableList.filter fun row =>
      asked.all fun name => row.any fun shown => shown.1 == "name" && sameName shown.2 name
  | _ => [[]]

/-! ## Computed tables -/

/-- The pages of the lasting part. A table or an index takes one. -/
def pageNames (database : Database) : List String :=
  match database.entries .lasting with
  | [] => []
  | entries => "sqlite_schema" :: entries.map (·.name)

/-- The columns of what a JSON text holds. -/
def memberColumns : List String :=
  ["key", "value", "type", "atom", "id", "parent", "fullkey", "path"]

/-- The columns of the pages. -/
def pageColumns : List String :=
  ["name", "path", "pageno", "pagetype", "ncell", "payload", "unused", "mx_payload", "pgoffset",
   "pgsize"]

/-- A computed table as statements see it, asked about what has the given name. -/
def computedSource (database : Database) (table : String) (asked : Option String) : Source :=
  match settings.find? (isSettingTable table) with
  | some setting =>
    let columns := ((settingColumns.find? (·.1 == setting)).map Prod.snd).getD [setting]
    ofTexts columns (database.settingRows setting asked)
  | none =>
    match table with
    | "dbstat" => ofTexts pageColumns (database.pageNames.map fun name => [("name", name)])
    | "fts3tokenize" => ofTexts ["input", "token", "start", "end", "position"] []
    | _ => ofTexts memberColumns []

end CardBrowser.Database
