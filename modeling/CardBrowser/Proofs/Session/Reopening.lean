import Mathlib
import CardBrowser.Proofs.Preferences.Saved
import CardBrowser.Proofs.Session.Invariant

/-!
# Closing a session and opening the next one

What a session saves when it is closed is what the next one shows, provided that the host program
brings the same columns again: `reopened_as_closed`. A sound session displays columns that are there
and sorts by one of them, so opening repairs nothing: `active_of_preferences` and
`sort_type_of_preferences`.
-/

namespace CardBrowser

open CardBrowser.Json

variable {σ : Type} {setup : Setup} {session : Session σ}

/-- A setup that offers the sort column of a session sorts by it again. -/
theorem sort_type_of_preferences (h : session.Sound)
    (hoffer : ∀ type, session.knows type = true → setup.offer.knows type = true) :
    setup.sortType session.preferences = session.sortType := by
  have hfilter : session.preferences.sortType.filter setup.offer.knows = some session.sortType :=
    Option.filter_eq_some_iff.2 ⟨rfl, hoffer _ h.sort⟩
  unfold Setup.sortType
  rw [hfilter]
  rfl

/-- A setup that offers the columns of a session displays what the session displays. -/
theorem active_of_preferences (h : session.Sound) (hbuiltins : "" ∉ session.builtins.types)
    (hoffer : ∀ type, session.knows type = true → setup.offer.knows type = true) :
    setup.active session.preferences = session.active := by
  have hsome : session.active.types ≠ [] := h.shown hbuiltins
  have hnotEmpty : session.active.isEmpty = false := by
    rw [← Bool.not_eq_true, ActiveColumns.is_empty_iff]
    exact hsome
  have hfilter : session.preferences.sortType.filter setup.offer.knows = some session.sortType :=
    Option.filter_eq_some_iff.2 ⟨rfl, hoffer _ h.sort⟩
  have hsaved : session.preferences.activeColumns.filter (!·.isEmpty) =
      some session.active.types :=
    Option.filter_eq_some_iff.2 ⟨rfl, by simpa using hsome⟩
  have hrestored : setup.restored session.preferences = session.active := by
    unfold Setup.restored
    rw [hsaved]
    exact h.active.of_saved_self fun type hmem => hoffer type (h.displayed type hmem)
  unfold Setup.active
  simp only [hrestored, hfilter, hnotEmpty, Bool.false_eq_true, if_false]

/-- The built-in columns that a session gives back and the columns that are registered in it are all
columns that it knows. -/
theorem knows_of_restored {columns : List CustomColumn} (h : session.Sound)
    (hbuiltins : setup.builtins = session.restoredBuiltins)
    (hregistry : setup.registry = Registry.ofColumns columns)
    (hcolumns : columns.map (·.type) = session.registry.types) (hremovals : setup.removals = [])
    (type : String) (hknows : session.knows type = true) : setup.offer.knows type = true := by
  have hoffer : setup.offer = { registry := setup.registry, builtins := setup.builtins } := by
    unfold Setup.offer
    rw [hremovals]
    rfl
  rw [hoffer, Offer.knows_iff, hbuiltins, hregistry]
  rcases Session.knows_iff.1 hknows with hmem | hmem
  · exact Or.inl ((BuiltinColumns.mem_restore _ _).2 (Or.inl hmem))
  · refine Or.inr ((Registry.mem_of_columns columns).2 ⟨hcolumns ▸ hmem, ?_⟩)
    rintro rfl
    exact h.registered hmem

/-- Closing a session saves its preferences among the values that are kept, and gives all built-in
columns back unless the values cannot be written. -/
theorem values_finalize {π : Type} [PreferenceStore π] [LawfulPreferences π] {kept saved : π}
    {answer : Except PreferenceError BuiltinColumns}
    (h : session.finalize kept = (answer, saved)) :
    PreferenceStore.values saved =
        session.preferences.save session.config.keys (PreferenceStore.values kept) ∧
      ∀ builtins, answer = .ok builtins → builtins = session.restoredBuiltins := by
  unfold Session.finalize at h
  obtain ⟨rfl, rfl⟩ := Prod.mk.inj h
  constructor
  · exact (LawfulPreferences.values_flush _).trans (LawfulPreferences.values_with_values _ kept)
  · intro builtins hanswer
    obtain ⟨-, -, rfl⟩ := Except.map_eq_ok_iff.1 hanswer
    rfl

/-- The direction that is saved is read back. -/
theorem direction_of_preferences (direction : Direction) :
    Direction.ofBackwards direction.isDescending = direction := by
  cases direction <;> rfl

/-- A session that is closed after any operations is opened again as it was: if the host program
brings back the built-in columns that it was given and registers the columns that were registered at
the end, the same columns are displayed in the same order, and they are sorted as before. The values
of other programs are still there. -/
theorem reopened_as_closed {π τ : Type} [Store σ] [PreferenceStore π] [LawfulPreferences π]
    (setup : Setup) (columns : List CustomColumn) (preferences : Preferences) (store : σ)
    (display : List DisplayEvent) (session : Session σ) (operations : List Operation)
    (kept saved : π) (builtins : BuiltinColumns) (next : Setup) (registered : List CustomColumn)
    (nextStore : τ) (nextDisplay : List DisplayEvent)
    (hkeys : setup.config.keys.names.Nodup) (hbuiltins : "" ∉ setup.builtins.types)
    (hopen : { setup with registry := Registry.ofColumns columns }.open? preferences store display =
      .ok session)
    (hfinalize : (session.run operations).finalize kept = (.ok builtins, saved))
    (hregistered : registered.map (·.type) = (session.run operations).registry.types) :
    (∃ reopened : Session τ,
      { next with
        config := setup.config, builtins, registry := Registry.ofColumns registered
        removals := [] }.openSaved? saved nextStore nextDisplay = .ok reopened ∧
      reopened.active = (session.run operations).active ∧
      reopened.sortType = (session.run operations).sortType ∧
      reopened.direction = (session.run operations).direction ∧
      reopened.uniqueNotes = (session.run operations).uniqueNotes) ∧
    ∀ key, key ∉ setup.config.keys.names →
      (PreferenceStore.values saved).get? key = (PreferenceStore.values kept).get? key := by
  obtain ⟨hvalid, -, hsession⟩ := open_eq_ok_iff.1 hopen
  have hsound : (session.run operations).Sound :=
    (sound_open (Registry.empty_not_mem_of_columns columns) hopen).run operations
  obtain ⟨hrun, hbuilt⟩ := session.builtins_of_run operations
  have hconfig : (session.run operations).config = setup.config := by
    rw [hrun, hsession]
  have hnamed : "" ∉ (session.run operations).builtins.types := by
    intro hmem
    have hmem := hbuilt _ hmem
    rw [hsession] at hmem
    exact hbuiltins ((Offer.mem_of_hide_all _ _ _).2 hmem)
  obtain ⟨hvalues, hrestored⟩ := values_finalize hfinalize
  rw [hconfig] at hvalues
  constructor
  · -- What is loaded is what was saved, and the new setup offers all that the session knew.
    let setup' : Setup := { next with
      config := setup.config, builtins, registry := Registry.ofColumns registered, removals := [] }
    have hsort : (session.run operations).sortType ≠ "" :=
      Session.ne_empty_of_knows hsound.registered hnamed hsound.sort
    have hloaded : Preferences.load setup'.config.keys (PreferenceStore.values saved) =
        (session.run operations).preferences := by
      rw [hvalues]
      exact Preferences.load_save hkeys rfl rfl hsort _
    have hoffer : ∀ type, (session.run operations).knows type = true →
        setup'.offer.knows type = true :=
      knows_of_restored hsound (hrestored builtins rfl) rfl hregistered rfl
    have hdefault : setup'.offer.knows setup'.config.defaultSortType = true := by
      have hdefault := hoffer _ hsound.default
      rwa [hconfig] at hdefault
    refine ⟨_, open_eq_ok_iff.2 ⟨hvalid, hdefault, rfl⟩, ?_⟩
    rw [hloaded]
    exact ⟨active_of_preferences hsound hnamed hoffer, sort_type_of_preferences hsound hoffer,
      direction_of_preferences _, rfl⟩
  · intro key hkey
    rw [hvalues]
    exact Preferences.get_save_of_not_mem hkey _ _

/-- A custom column that cannot be sorted by. -/
def dueColumn : CustomColumn where
  type := "due2"
  label := "Due again"
  value := fun _ _ => ""

/-- What a user does to display the custom column in place of a built-in one, to sort by it, and to
hide another column. -/
def dueOperations : List Operation :=
  [.toggleColumn "due2", .toggleColumn "template", .setSortColumn "due2",
   .setSortDirection .descending, .removeColumn "noteCrt"]

/-- The user finds all that again in the next session. -/
theorem reopened_as_closed_due : ∃ (session reopened : Session Script) (builtins : BuiltinColumns)
    (saved : MemoryPreferences),
    { ({} : Setup) with registry := Registry.ofColumns [dueColumn] }.open? {} ({} : Script) =
      .ok session ∧
    (session.run dueOperations).finalize
        ({ values := [("other", .bool true)] } : MemoryPreferences) = (.ok builtins, saved) ∧
    { ({} : Setup) with
      config := {}, builtins, registry := Registry.ofColumns [dueColumn]
      removals := [] }.openSaved? saved ({} : Script) = .ok reopened ∧
    reopened.active.types = ["noteFld", "cardDue", "deck", "due2"] ∧
    reopened.sortType = "due2" ∧ reopened.direction = .descending ∧
    saved.values.get? "other" = some (.bool true) := by
  obtain ⟨session, hopen⟩ : ∃ session : Session Script,
      { ({} : Setup) with registry := Registry.ofColumns [dueColumn] }.open? {} ({} : Script) =
        .ok session := ⟨_, rfl⟩
  obtain ⟨builtins, saved, hfinalize⟩ : ∃ builtins saved, (session.run dueOperations).finalize
      ({ values := [("other", .bool true)] } : MemoryPreferences) = (.ok builtins, saved) :=
    ⟨_, _, rfl⟩
  have hclosed : [dueColumn].map (·.type) = (session.run dueOperations).registry.types ∧
      (session.run dueOperations).active.types = ["noteFld", "cardDue", "deck", "due2"] ∧
      (session.run dueOperations).sortType = "due2" ∧
      (session.run dueOperations).direction = .descending := by
    cases hopen
    decide
  obtain ⟨hregistered, hactive, hsort, hdirection⟩ := hclosed
  obtain ⟨⟨reopened, hreopen, hsame, hsameSort, hsameDirection, -⟩, hkept⟩ :=
    reopened_as_closed {} [dueColumn] {} ({} : Script) [] session dueOperations
      ({ values := [("other", .bool true)] } : MemoryPreferences) saved builtins {} [dueColumn]
      ({} : Script) [] (by decide) (by decide) hopen hfinalize hregistered
  refine ⟨session, reopened, builtins, saved, hopen, hfinalize, hreopen, ?_, ?_, ?_,
    hkept "other" (by decide)⟩
  · rw [hsame, hactive]
  · rw [hsameSort, hsort]
  · rw [hsameDirection, hdirection]

end CardBrowser
