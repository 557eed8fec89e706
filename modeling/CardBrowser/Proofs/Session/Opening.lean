import Mathlib
import CardBrowser.Proofs.Column.Active
import CardBrowser.Proofs.Outcome
import CardBrowser.Proofs.Session.Offer
import CardBrowser.Session.Basic

/-!
# What a session begins with

`Setup.sortType`, `Setup.restored` and `Setup.active` say what a session that is opened sorts by and
displays, each in terms of the saved preferences and of the columns on offer. `open_eq_ok_iff` ties
them to `Setup.open?`.
-/

namespace CardBrowser

namespace Setup

/-- The saved sort column if it is there, else the default one. -/
def sortType (setup : Setup) (preferences : Preferences) : String :=
  (preferences.sortType.filter setup.offer.knows).getD setup.config.defaultSortType

/-- The saved columns that are there, or those of the default columns if none are saved. -/
def restored (setup : Setup) (preferences : Preferences) : ActiveColumns :=
  (ActiveColumns.ofSaved ((preferences.activeColumns.filter (!·.isEmpty)).getD
    setup.config.defaultColumns) setup.offer.knows).1

/-- The columns that are displayed at first: the restored ones, the default sort column if it takes
the place of the saved one, and the sort column if there is nothing else. -/
def active (setup : Setup) (preferences : Preferences) : ActiveColumns :=
  let restored := setup.restored preferences
  let active := match preferences.sortType.filter setup.offer.knows with
    | some _ => restored
    | none => restored.push setup.config.defaultSortType
  if active.isEmpty then active.push (setup.sortType preferences) else active

end Setup

variable {σ : Type} {setup : Setup} {preferences : Preferences} {store : σ}
  {display : List DisplayEvent} {session : Session σ}

/-- A session can be opened exactly when the configuration is valid and the default sort column is
on offer, and what it begins with is determined by the setup and the preferences. -/
theorem open_eq_ok_iff :
    setup.open? preferences store display = .ok session ↔
      setup.config.validate = .ok () ∧
        setup.offer.knows setup.config.defaultSortType = true ∧
        session =
          { store, display
            config := setup.config
            parse := setup.parse
            native := setup.native
            forced := setup.forced
            registry := setup.offer.registry
            builtins := setup.offer.builtins
            removed := setup.offer.removed
            active := setup.active preferences
            sortType := setup.sortType preferences
            direction := .ofBackwards preferences.sortBackwards
            uniqueNotes := preferences.uniqueNotes
            fieldCache := { mark := setup.config.fieldMark }
            lastSearch := ""
            results := [] } := by
  unfold Setup.open?
  cases hvalid : setup.config.validate with
  | error fault => simp [hvalid]
  | ok _ =>
      cases hknows : setup.offer.knows setup.config.defaultSortType with
      | false => simp [hvalid, hknows]
      | true =>
          cases hsort : preferences.sortType.filter setup.offer.knows <;>
            simp [Setup.active, Setup.sortType, Setup.restored, hvalid, hknows, hsort,
              @eq_comm _ session]

/-- A valid configuration names a default sort column. -/
theorem default_ne_empty_of_validate {config : Config} (h : config.validate = .ok ()) :
    config.defaultSortType ≠ "" := by
  unfold Config.validate at h
  split at h
  · cases h
  · split at h
    · cases h
    · assumption

/-- The sort column that a session begins with is on offer if the default one is. -/
theorem knows_sort_type (h : setup.offer.knows setup.config.defaultSortType = true) :
    setup.offer.knows (setup.sortType preferences) = true := by
  unfold Setup.sortType
  cases hfilter : preferences.sortType.filter setup.offer.knows with
  | none => exact h
  | some type => exact (Option.filter_eq_some_iff.1 hfilter).2

/-- The columns that are displayed at first are well formed. -/
theorem well_formed_active : (setup.active preferences).WellFormed := by
  have h : (setup.restored preferences).WellFormed := ActiveColumns.well_formed_of_saved
  unfold Setup.active
  dsimp only
  split <;> split <;> simp only [h, ActiveColumns.WellFormed.push]

/-- The columns that are displayed at first are on offer if the default sort column is. -/
theorem knows_of_mem_active {type : String}
    (h : setup.offer.knows setup.config.defaultSortType = true)
    (hmem : type ∈ (setup.active preferences).types) : setup.offer.knows type = true := by
  have hrestored : ∀ {type}, type ∈ (setup.restored preferences).types →
      setup.offer.knows type = true := fun hmem => (ActiveColumns.mem_of_saved.1 hmem).2.1
  have hpushed : ∀ {type}, type ∈ ((setup.restored preferences).push
      setup.config.defaultSortType).types → setup.offer.knows type = true := by
    intro type hmem
    rcases ActiveColumns.mem_push.1 hmem with hmem | ⟨rfl, -⟩
    · exact hrestored hmem
    · exact h
  have hlisted : ∀ {type}, type ∈ (match preferences.sortType.filter setup.offer.knows with
      | some _ => setup.restored preferences
      | none => (setup.restored preferences).push setup.config.defaultSortType).types →
      setup.offer.knows type = true := by
    intro type hmem
    split at hmem
    · exact hrestored hmem
    · exact hpushed hmem
  unfold Setup.active at hmem
  dsimp only at hmem
  split_ifs at hmem
  · rcases ActiveColumns.mem_push.1 hmem with hmem | ⟨rfl, -⟩
    · exact hlisted hmem
    · exact knows_sort_type h
  · exact hlisted hmem

/-- Something is displayed at first if the sort column has a type. -/
theorem active_ne_nil (h : setup.sortType preferences ≠ "") :
    (setup.active preferences).types ≠ [] := by
  unfold Setup.active
  dsimp only
  split_ifs with hempty
  · exact ActiveColumns.push_ne_nil h
  · exact fun hnil => hempty (ActiveColumns.is_empty_iff.2 hnil)

end CardBrowser
