import CardBrowser.Card
import CardBrowser.Error
import CardBrowser.Search.Statement

/-!
# Stores

A store runs the statements of a search and looks up single cards, notes and note types. Every
call may change the state of the store, whether it succeeds or fails.
-/

namespace CardBrowser

open CardBrowser.Search

/-- A call on a store with states `σ`: its answer or its failure, and the state after it. -/
abbrev Access (σ α : Type) := σ → Except StoreError α × σ

/-- A store with states `σ`. -/
class Store (σ : Type) where
  /-- Runs a command. -/
  execute : Command → Access σ Unit
  /-- The ids that a plain query lists. -/
  cardIds : CardQuery → Access σ (List Int)
  /-- The ids that a ranked query lists, each with its blank flag. -/
  rankedIds : RankedQuery → Access σ (List (Int × Bool))
  /-- The notes of those of the given cards that exist: pairs of a card and its note. -/
  noteIds : List Int → Access σ (List (Int × Int))
  card : Int → Access σ (Option Card)
  note : Int → Access σ (Option Note)
  /-- The fields of a note type. -/
  fields : Int → Access σ (Option (List Field))

end CardBrowser
