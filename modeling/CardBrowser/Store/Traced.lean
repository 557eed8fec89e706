import CardBrowser.Store.Basic

/-!
# Stores that keep a trace

A traced store answers like the store inside it and writes down every call before it is made, the
failing ones too.
-/

namespace CardBrowser

open CardBrowser.Search

/-- A call as it is written down. -/
inductive Call where
  | execute (sql : String) (parameters : List Sql.Value)
  | cardIds (sql : String) (parameters : List Sql.Value)
  | rankedIds (sql : String) (parameters : List Sql.Value)
  | noteIds (cards : List Int)
  | card (id : Int)
  | note (id : Int)
  | fields (typeId : Int)
deriving DecidableEq, Repr

/-- A store and the calls made on it, the earliest first. -/
structure Traced (σ : Type) where
  store : σ
  calls : List Call := []

namespace Traced

variable {σ α : Type}

/-- Writes a call down and makes it. -/
def record (call : Call) (access : Access σ α) : Access (Traced σ) α := fun traced =>
  let (answer, store) := access traced.store
  (answer, ⟨store, traced.calls ++ [call]⟩)

instance [Store σ] : Store (Traced σ) where
  execute command :=
    record (.execute command.text command.parameters) (Store.execute command)
  cardIds query :=
    record (.cardIds query.text query.selection.parameters) (Store.cardIds query)
  rankedIds query := record (.rankedIds query.text query.parameters) (Store.rankedIds query)
  noteIds cards := record (.noteIds cards) (Store.noteIds cards)
  card id := record (.card id) (Store.card id)
  note id := record (.note id) (Store.note id)
  fields typeId := record (.fields typeId) (Store.fields typeId)

end Traced

end CardBrowser
