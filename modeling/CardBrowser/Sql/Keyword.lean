import CardBrowser.Text.Word

/-!
# Names that SQL reserves

A reserved word cannot name a table or a column, and a table name that begins with `sqlite_`
belongs to the database itself. Some tables are there in every database because their rows are
computed. The case of letters does not matter to any of these rules.
-/

namespace CardBrowser.Sql

/-- The words that cannot be names. -/
def reservedWords : List String :=
  ["add", "all", "alter", "and", "as", "autoincrement", "between", "case", "check", "collate",
   "commit", "constraint", "create", "default", "deferrable", "delete", "distinct", "drop", "else",
   "escape", "except", "exists", "foreign", "from", "group", "having", "in", "index",
   "insert", "intersect", "into", "is", "isnull", "join", "limit", "not", "nothing", "notnull",
   "null", "on", "or", "order", "primary", "references", "returning", "select", "set", "table",
   "then", "to", "transaction", "union", "unique", "update", "using", "values", "when", "where"]

/-- Whether a word is reserved. -/
def isReserved (word : String) : Bool :=
  reservedWords.contains (Text.foldText word)

/-- The words that go before `JOIN`. -/
def joinWords : List String :=
  ["cross", "full", "inner", "left", "natural", "outer", "right"]

/-- Whether a word that follows a name belongs to the clause and not to the name. Such a word may
still be a name elsewhere. -/
def isClauseWord (word : String) : Bool :=
  Text.foldText word == "indexed" || joinWords.contains (Text.foldText word)

/-- Whether two names are the same name. -/
def sameName (a b : String) : Bool :=
  Text.foldText a == Text.foldText b

/-- Whether a table name belongs to the database itself. -/
def isInternal (table : String) : Bool :=
  "sqlite_".toList.isPrefixOf (table.toList.map Text.foldCase)

/-- The tables that compute their rows. -/
def computedTables : List String :=
  ["dbstat", "fts3tokenize", "json_each", "json_tree"]

/-- The tables that would compute their rows if they were created first. -/
def unavailableTables : List String :=
  ["fts4aux"]

/-- The settings that can also be read as tables, `pragma_` being put before the name. -/
def settings : List String :=
  ["analysis_limit", "application_id", "auto_vacuum", "automatic_index", "busy_timeout",
   "cache_size", "cache_spill", "cell_size_check", "checkpoint_fullfsync", "collation_list",
   "compile_options", "count_changes", "data_version", "database_list", "default_cache_size",
   "defer_foreign_keys", "empty_result_callbacks", "encoding", "foreign_key_check",
   "foreign_key_list", "foreign_keys", "freelist_count", "full_column_names", "fullfsync",
   "function_list", "hard_heap_limit", "ignore_check_constraints", "index_info", "index_list",
   "index_xinfo", "integrity_check", "journal_mode", "journal_size_limit", "legacy_alter_table",
   "locking_mode", "max_page_count", "module_list", "optimize", "page_count", "page_size",
   "pragma_list", "query_only", "quick_check", "read_uncommitted", "recursive_triggers",
   "reverse_unordered_selects", "schema_version", "secure_delete", "short_column_names",
   "soft_heap_limit", "synchronous", "table_info", "table_list", "table_xinfo", "temp_store",
   "threads", "trusted_schema", "user_version", "writable_schema"]

/-- Whether a table is that of a setting. -/
def isSettingTable (table setting : String) : Bool :=
  sameName table ("pragma_" ++ setting)

/-- How the computed table of a name is called; none if it is the name of no such table. -/
def computedName? (table : String) : Option String :=
  if settings.any (isSettingTable table) then some table
  else computedTables.find? (sameName table)

end CardBrowser.Sql
