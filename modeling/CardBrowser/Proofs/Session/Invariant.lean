import Mathlib
import CardBrowser.Proofs.Column.Active
import CardBrowser.Proofs.Session.Change
import CardBrowser.Proofs.Session.Opening
import CardBrowser.Store.Scripted

/-!
# What holds of every session

`Session.Sound` says that a session displays columns that are there, each of them once, and sorts
by a column that is there. Read `sound_open` and `Sound.apply` first: a session is sound when it is
opened, and no operation breaks that. The invariant has to speak of the default column, which is
what a session falls back on when a column goes away: `sound_forget_column` needs that it is there
and that it has a type.
-/

namespace CardBrowser

open CardBrowser.Search

namespace Session

variable {σ : Type} {session other next : Session σ} {type : String}

/-- The displayed columns, the sort column and the default sort column are there; the displayed
columns are well formed and, unless a built-in column has no type, they are not empty. -/
structure Sound (session : Session σ) : Prop where
  active : session.active.WellFormed
  displayed : ∀ type ∈ session.active.types, session.knows type = true
  sort : session.knows session.sortType = true
  default : session.knows session.config.defaultSortType = true
  named : session.config.defaultSortType ≠ ""
  registered : "" ∉ session.registry.types
  shown : "" ∉ session.builtins.types → session.active.types ≠ []

/-- The empty type is known only as that of a built-in column. -/
theorem ne_empty_of_knows (hregistered : "" ∉ session.registry.types)
    (hbuiltins : "" ∉ session.builtins.types) (h : session.knows type = true) : type ≠ "" := by
  rintro rfl
  exact (knows_iff.1 h).elim hbuiltins hregistered

/-- Soundness is about the columns only. -/
theorem SameColumns.sound (h : SameColumns session other) (hsound : session.Sound) :
    other.Sound := by
  constructor
  · exact h.active ▸ hsound.active
  · intro type hmem
    rw [h.knows]
    exact hsound.displayed type (h.active ▸ hmem)
  · rw [h.knows, h.sortType]
    exact hsound.sort
  · rw [h.knows, h.config]
    exact hsound.default
  · exact h.config ▸ hsound.named
  · exact h.registered ▸ hsound.registered
  · rw [h.builtins, h.active]
    exact hsound.shown

/-! ## A column goes away -/

/-- The sort column after a column is gone. -/
theorem sort_type_forget_column :
    (session.forgetColumn type).sortType =
      if session.sortType = type then session.config.defaultSortType else session.sortType := by
  dsimp only [forgetColumn]
  split <;> rfl

/-- After a column is gone, only columns that were displayed before are displayed, and the sort
column. -/
theorem mem_of_mem_forget_column {displayed : String}
    (h : displayed ∈ (session.forgetColumn type).active.types) :
    (displayed ∈ session.active.types ∧ displayed ≠ type) ∨
      displayed = (session.forgetColumn type).sortType := by
  rw [sort_type_forget_column]
  dsimp only [forgetColumn] at h
  split at h
  · rename_i hsort
    rw [if_pos hsort]
    split at h
    · rcases ActiveColumns.mem_push.1 h with h | ⟨rfl, -⟩
      · exact (ActiveColumns.mem_push.1 h).imp ActiveColumns.mem_remove.1 And.left
      · exact Or.inr rfl
    · exact (ActiveColumns.mem_push.1 h).imp ActiveColumns.mem_remove.1 And.left
  · rename_i hsort
    rw [if_neg hsort]
    split at h
    · exact (ActiveColumns.mem_push.1 h).imp ActiveColumns.mem_remove.1 And.left
    · exact Or.inl (ActiveColumns.mem_remove.1 h)

/-- The displayed columns stay well formed after a column is gone. -/
theorem well_formed_forget_column (h : session.active.WellFormed) :
    (session.forgetColumn type).active.WellFormed := by
  dsimp only [forgetColumn]
  split <;> split <;> simp only [h.remove, ActiveColumns.WellFormed.push]

/-- Something is displayed after a column is gone if the sort column has a type. -/
theorem forget_column_ne_nil (h : (session.forgetColumn type).sortType ≠ "") :
    (session.forgetColumn type).active.types ≠ [] := by
  rw [sort_type_forget_column] at h
  dsimp only [forgetColumn]
  split at h
  · rename_i hsort
    rw [if_pos hsort]
    split
    · exact ActiveColumns.push_ne_nil h
    · rename_i hempty
      exact fun hnil => hempty (ActiveColumns.is_empty_iff.2 hnil)
  · rename_i hsort
    rw [if_neg hsort]
    split
    · exact ActiveColumns.push_ne_nil h
    · rename_i hempty
      exact fun hnil => hempty (ActiveColumns.is_empty_iff.2 hnil)

/-- A session is sound after it has forgotten a column, if before that only this column may have
been missing. -/
theorem sound_forget_column (hactive : session.active.WellFormed)
    (hdisplayed : ∀ displayed ∈ session.active.types, displayed ≠ type →
      session.knows displayed = true)
    (hsort : session.sortType ≠ type → session.knows session.sortType = true)
    (hdefault : session.knows session.config.defaultSortType = true)
    (hnamed : session.config.defaultSortType ≠ "") (hregistered : "" ∉ session.registry.types) :
    (session.forgetColumn type).Sound := by
  have hsorted : session.knows (session.forgetColumn type).sortType = true := by
    rw [sort_type_forget_column]
    split
    · exact hdefault
    · rename_i hne
      exact hsort hne
  -- Forgetting does not touch the columns on offer, so `knows` means the same before and after.
  constructor
  · exact well_formed_forget_column hactive
  · intro displayed hmem
    show session.knows displayed = true
    rcases mem_of_mem_forget_column hmem with ⟨hmem, hne⟩ | rfl
    · exact hdisplayed displayed hmem hne
    · exact hsorted
  · exact hsorted
  · exact hdefault
  · exact hnamed
  · exact hregistered
  · intro hbuiltins
    exact forget_column_ne_nil (ne_empty_of_knows hregistered hbuiltins hsorted)

section Searching

variable [Store σ]

/-- A sound session stays sound when it drops a column, as long as it still offers every other
column and the default column. -/
theorem Sound.drop_column {offer : Offer} (h : session.Sound)
    (hkept : ∀ column, column ≠ type → session.knows column = true →
      offer.knows column = true)
    (hdefault : offer.knows session.config.defaultSortType = true)
    (hregistered : "" ∉ offer.registry.types) :
    (dropColumn type (session.withOffer offer)).Sound := by
  apply (drop_column_same_columns type (session.withOffer offer)).sound
  exact sound_forget_column h.active
    (fun column hmem hne => hkept column hne (h.displayed column hmem))
    (fun hne => hkept _ hne h.sort) hdefault h.named hregistered

/-! ## Operations -/

/-- A search keeps a session sound, whatever else it changes first beside the columns. -/
theorem Sound.searched {change : Session σ → Session σ}
    (h : (change { session with display := session.display ++ [.beginReset] }).Sound) :
    (session.bracketed fun session => runSearch (change session)).Sound :=
  (searched_same_columns change session).sound h

/-- An operation that is not refused keeps a session sound. -/
theorem Sound.apply {operation : Operation} (h : session.Sound)
    (happly : session.apply operation = .ok next) : next.Sound := by
  cases outcome_of_apply happly with
  | asked lastSearch sortType direction uniqueNotes hasks hsort =>
      refine Sound.searched
        ⟨h.active, h.displayed, ?_, h.default, h.named, h.registered, h.shown⟩
      exact hsort.elim (fun heq => heq ▸ h.sort) id
  | @toggled type hknows =>
      apply (bracketed_same_columns ({ · with active := (session.active.toggle type).2 })
        session).sound
      refine ⟨h.active.toggle type, ?_, h.sort, h.default, h.named, h.registered, ?_⟩
      · intro displayed hmem
        rcases ActiveColumns.mem_of_mem_toggle hmem with hmem | rfl
        · exact h.displayed displayed hmem
        · exact hknows
      · exact fun hbuiltins => ActiveColumns.toggle_ne_nil h.active (h.shown hbuiltins)
  | @registered column registry hregister =>
      have hknows : ∀ type, session.knows type = true →
          Session.knows { session with registry } type = true := fun type hknows =>
        knows_iff.2 ((knows_iff.1 hknows).imp_right fun hmem =>
          (Registry.mem_register hregister).2 (Or.inr hmem))
      refine ⟨h.active, fun type hmem => hknows type (h.displayed type hmem), hknows _ h.sort,
        hknows _ h.default, h.named, ?_, h.shown⟩
      intro hmem
      rcases (Registry.mem_register hregister).1 hmem with heq | hmem
      · exact Registry.ne_empty_of_register hregister heq.symm
      · exact h.registered hmem
  | @dropped _ type offer hcall hregistry hshelves hkept =>
      refine h.drop_column (fun column hne => hkept column (Or.inl hne))
        (hkept _ (Or.inr rfl) h.default) ?_
      rw [hregistry, Registry.mem_types_step]
      rintro (⟨hmem, -⟩ | ⟨column, hcall, -⟩)
      · exact h.registered hmem
      · cases hcall

/-- A history keeps a session sound. -/
theorem Sound.run (h : session.Sound) (operations : List Operation) :
    (session.run operations).Sound :=
  run_induction (fun _ _ _ hearlier happly => hearlier.apply happly) h operations

end Searching

end Session

/-! ## Opening -/

section Opening

variable {σ : Type} {setup : Setup} {preferences : Preferences} {store : σ}
  {display : List DisplayEvent} {session : Session σ}

/-- A session is sound when it is opened, whatever was saved, if every registered column has a
type. -/
theorem sound_open (hregistered : "" ∉ setup.registry.types)
    (h : setup.open? preferences store display = .ok session) : session.Sound := by
  obtain ⟨hvalid, hdefault, rfl⟩ := open_eq_ok_iff.1 h
  have hregistry : "" ∉ setup.offer.registry.types := fun hmem =>
    hregistered ((Offer.mem_of_hide_all _ _ _).1 hmem)
  have hsorted : setup.offer.knows (setup.sortType preferences) = true := knows_sort_type hdefault
  constructor
  · exact well_formed_active
  · exact fun type hmem => knows_of_mem_active hdefault hmem
  · exact hsorted
  · exact hdefault
  · exact default_ne_empty_of_validate hvalid
  · exact hregistry
  · intro hbuiltins
    apply active_ne_nil
    intro hempty
    rw [hempty, Offer.knows_iff] at hsorted
    exact hsorted.elim hbuiltins hregistry

/-- In every session that a host program opens with the columns it registers, and that has gone
through any operations, the displayed columns have a type and none is displayed twice; they, the
sort column and the default sort column are there; and something is displayed unless a built-in
column without a type is offered from the beginning. -/
theorem open_run_sound {π : Type} [PreferenceStore π] [Store σ] (setup : Setup)
    (columns : List CustomColumn) (saved : π) (store : σ) (display : List DisplayEvent)
    (session : Session σ) (operations : List Operation)
    (hopen : { setup with registry := Registry.ofColumns columns }.openSaved? saved store display =
      .ok session) :
    (session.run operations).active.types.Nodup ∧
      "" ∉ (session.run operations).active.types ∧
      (∀ type ∈ (session.run operations).active.types,
        (session.run operations).knows type = true) ∧
      (session.run operations).knows (session.run operations).sortType = true ∧
      (session.run operations).knows setup.config.defaultSortType = true ∧
      ("" ∉ setup.builtins.types → (session.run operations).active.types ≠ []) := by
  have hsound : (session.run operations).Sound :=
    (sound_open (Registry.empty_not_mem_of_columns columns) hopen).run operations
  have hrun : (session.run operations).config = session.config ∧
      ∀ type ∈ (session.run operations).builtins.types, type ∈ session.builtins.types :=
    Session.builtins_of_run operations
  have hsession := (open_eq_ok_iff.1 hopen).2.2
  have hconfig : session.config = setup.config := by rw [hsession]
  have hbuiltins : ∀ type ∈ session.builtins.types, type ∈ setup.builtins.types := by
    rw [hsession]
    exact fun type => (Offer.mem_of_hide_all _ _ _).2
  refine ⟨hsound.active.1, hsound.active.2, hsound.displayed, hsound.sort, ?_, ?_⟩
  · rw [← hconfig, ← hrun.1]
    exact hsound.default
  · exact fun hempty => hsound.shown fun hmem => hempty (hbuiltins _ (hrun.2 _ hmem))

/-- A host program hides a built-in column and registers one that shadows another; a user has saved
to sort by it, loses it, and goes on to lose the column that is sorted by next. -/
theorem open_run_sound_shadowed :
    ∃ session : Session Script,
      { ({ removals := ["deck"] } : Setup) with
        registry := Registry.ofColumns
          [{ type := "cardDue", label := "Due again", value := fun _ _ => "" }] }.openSaved?
        ({ values := [("sortType", .string "cardDue")] } : MemoryPreferences)
        ({ rows := [(1, true)] } : Script) = .ok session ∧
      (session.run [.setSortColumn "noteCrt", .unregisterColumn "cardDue",
        .removeColumn "noteCrt"]).active.types.Nodup ∧
      (session.run [.setSortColumn "noteCrt", .unregisterColumn "cardDue",
        .removeColumn "noteCrt"]).active.types ≠ [] := by
  refine ⟨_, rfl, ?_⟩
  have h := open_run_sound { removals := ["deck"] }
    [{ type := "cardDue", label := "Due again", value := fun _ _ => "" }]
    ({ values := [("sortType", .string "cardDue")] } : MemoryPreferences)
    ({ rows := [(1, true)] } : Script) [] _
    [.setSortColumn "noteCrt", .unregisterColumn "cardDue", .removeColumn "noteCrt"] rfl
  exact ⟨h.1, h.2.2.2.2.2 (by decide)⟩

end Opening

end CardBrowser
