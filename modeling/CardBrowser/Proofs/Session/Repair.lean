import Mathlib
import CardBrowser.Proofs.Session.Hidden

/-!
# Sessions that repair what was saved

Saved preferences may hold anything: values of other kinds, columns that are gone or were hidden by
the host program, repetitions. `open_saved_repairs` says when a session can be opened at all, which
does not depend on what was saved, and what it makes of the saved values. `Repaired` lists that in
terms of the values themselves and of the columns that the host program brings.
-/

namespace CardBrowser

open CardBrowser.Json

/-! ## Saved values -/

/-- The text of a value that is a text. -/
def Json.Value.text? : Json.Value → Option String
  | .string text => some text
  | _ => none

/-- The texts in a value that is a list. There are none in what is no list or missing. -/
def Json.textsIn : Option Json.Value → List String
  | some (.array items) => items.filterMap Json.Value.text?
  | _ => []

/-- A value says yes: it is the truth value or the whole number one. -/
def Json.SaysYes (value : Option Json.Value) : Prop :=
  value = some (.bool true) ∨ value = some (.integer 1)

namespace Preferences

variable {value : Option Json.Value} {type : String}

/-- The saved columns are the texts that were saved, or others if there are none. -/
theorem saved_columns_eq (value : Option Json.Value) (others : List String) :
    ((value.bind textsOf?).filter (!·.isEmpty)).getD others =
      if Json.textsIn value = [] then others else Json.textsIn value := by
  have htexts : (value.bind textsOf?).getD [] = Json.textsIn value := by
    cases value with
    | none => rfl
    | some value => cases value <;> rfl
  rw [← htexts]
  cases value.bind textsOf? with
  | none => rfl
  | some types => cases types <;> rfl

/-- A saved sort column is used if it is a text that is not empty and names a valid column. -/
theorem saved_sort_eq_some_iff {isValid : String → Bool} :
    (value.bind textOf?).filter isValid = some type ↔
      value = some (.string type) ∧ type ≠ "" ∧ isValid type = true := by
  rw [Option.filter_eq_some_iff, Option.bind_eq_some_iff]
  constructor
  · rintro ⟨⟨saved, rfl, htext⟩, hvalid⟩
    cases saved with
    | string text =>
        simp only [textOf?] at htext
        split_ifs at htext with hempty
        obtain rfl := Option.some.inj htext
        exact ⟨rfl, hempty, hvalid⟩
    | _ => cases htext
  · rintro ⟨rfl, hne, hvalid⟩
    exact ⟨⟨_, rfl, if_neg hne⟩, hvalid⟩

/-- A saved value turns something on exactly when it says yes. -/
theorem any_is_on_iff : value.any isOn = true ↔ Json.SaysYes value := by
  unfold Json.SaysYes
  cases value with
  | none => simp
  | some value => cases value <;> simp [isOn]

end Preferences

/-! ## Columns that a host program hides -/

namespace Shelves

/-- Hiding columns takes one occurrence of each type off the list. -/
theorem offered_types_hides (types : List String) (shelves : Shelves) :
    (types.foldl hide shelves).offered.types = shelves.offered.types.diff types := by
  induction types generalizing shelves with
  | nil => rfl
  | cons type types ih =>
      have hhide : (shelves.hide type).offered.types = shelves.offered.types.erase type := by
        have htest : (type == ·) ∘ BuiltinColumn.type = (·.type == type) :=
          funext fun _ => Bool.beq_comm
        show (shelves.offered.columns.eraseP (·.type == type)).map BuiltinColumn.type =
          (shelves.offered.columns.map BuiltinColumn.type).erase type
        rw [List.erase_eq_eraseP, List.eraseP_map, htest]
      rw [List.foldl_cons, ih, hhide, List.diff_cons]

end Shelves

namespace Offer

variable {other : String}

/-- Hiding a column unregisters it. -/
theorem mem_registry_hide (offer : Offer) (type : String) :
    other ∈ ((offer.hide type).getD offer).registry.types ↔
      other ∈ offer.registry.types ∧ other ≠ type := by
  have hdiscard : (offer.discard type).2 = (offer.hide type).getD offer :=
    congrArg Prod.snd (discard_eq offer type)
  have htypes : (offer.discard type).2.registry.types =
      offer.registry.types.filter (· != type) := by
    show (offer.registry.columns.filter (·.type != type)).map CustomColumn.type =
      (offer.registry.columns.map CustomColumn.type).filter (· != type)
    rw [List.filter_map]
    rfl
  rw [← hdiscard, htypes, List.mem_filter, bne_iff_ne]

/-- Of the registered columns those stay that are not hidden. -/
theorem mem_registry_hide_all (isProtected : String) (types : List String)
    (offer : Offer) :
    other ∈ (hideAll isProtected types offer).registry.types ↔
      other ∈ offer.registry.types ∧ other ∉ types.filter (· ≠ isProtected) := by
  induction types generalizing offer with
  | nil => simp [hideAll]
  | cons type types ih =>
      unfold hideAll at ih ⊢
      rw [List.foldl_cons, ih]
      split
      · rename_i hprotected
        rw [List.filter_cons_of_neg (by simpa using hprotected)]
      · rename_i hother
        rw [List.filter_cons_of_pos (by simpa using hother), List.mem_cons, mem_registry_hide,
          not_or, and_assoc]

end Offer

namespace Setup

/-- The types of the columns that a host program hides: not the default sort column. -/
def hidden (setup : Setup) : List String :=
  setup.removals.filter (· ≠ setup.config.defaultSortType)

variable {setup : Setup} {type : String}

/-- The columns on offer at first. Of built-in columns of one type, each request hides one. -/
theorem knows_offer_iff :
    setup.offer.knows type = true ↔
      type ∈ setup.builtins.types.diff setup.hidden ∨
        (type ∈ setup.registry.types ∧ type ∉ setup.hidden) := by
  have hbuiltins : setup.offer.builtins.types = setup.builtins.types.diff setup.hidden := by
    have hshelves := Offer.shelves_hide_all setup.config.defaultSortType setup.removals
      { registry := setup.registry, builtins := setup.builtins }
    calc setup.offer.builtins.types = setup.offer.shelves.offered.types := rfl
      _ = _ := congrArg (·.offered.types) hshelves
      _ = _ := Shelves.offered_types_hides _ _
  rw [Offer.knows_iff, hbuiltins]
  exact or_congr Iff.rfl (Offer.mem_registry_hide_all _ _ _)

/-- The default sort column is on offer at first exactly when the host program brings it. -/
theorem knows_default_iff :
    setup.offer.knows setup.config.defaultSortType = true ↔
      setup.config.defaultSortType ∈ setup.builtins.types ∨
        setup.config.defaultSortType ∈ setup.registry.types := by
  have hnot : setup.config.defaultSortType ∉ setup.hidden := by
    simp [hidden]
  have hcount : setup.config.defaultSortType ∈ setup.builtins.types.diff setup.hidden ↔
      setup.config.defaultSortType ∈ setup.builtins.types := by
    rw [← List.count_pos_iff, List.count_diff, List.count_eq_zero_of_not_mem hnot,
      Nat.sub_zero, List.count_pos_iff]
  rw [knows_offer_iff, hcount]
  simp [hnot]

end Setup

/-! ## Sessions -/

namespace Session

variable {σ : Type}

/-- A saved value is the type of a column that a session knows. -/
def NamesKnown (session : Session σ) (value : Option Json.Value) (type : String) : Prop :=
  value = some (.string type) ∧ type ≠ "" ∧ session.knows type = true

/-- The first occurrences of the columns in a list that a session knows. -/
def firstKnown (session : Session σ) (types : List String) : List String :=
  (types.filter fun type => type != "" && session.knows type).eraseDups

end Session

/-- The columns that were saved, or those that a host program shows if no type was saved. -/
def Setup.listed (setup : Setup) (values : Members) : List String :=
  let saved := Json.textsIn (values.get? setup.config.keys.activeColumns)
  if saved = [] then setup.config.defaultColumns else saved

/-- What a session makes of saved values. It sorts by the saved column if it knows it, else by the
default one. It displays the columns that were saved and that it knows, and the default one too if
it sorts by it for want of a saved one; if there is nothing to display, the sort column. -/
structure Repaired {σ : Type} (setup : Setup) (values : Members) (session : Session σ) : Prop where
  known : ∀ type, session.knows type = true ↔
    type ∈ setup.builtins.types.diff setup.hidden ∨
      (type ∈ setup.registry.types ∧ type ∉ setup.hidden)
  saved : ∀ type, session.NamesKnown (values.get? setup.config.keys.sortType) type →
    session.sortType = type ∧
      session.active.types =
        if session.firstKnown (setup.listed values) = [] then [type]
        else session.firstKnown (setup.listed values)
  defaulted : (¬ ∃ type, session.NamesKnown (values.get? setup.config.keys.sortType) type) →
    session.sortType = setup.config.defaultSortType ∧
      session.active.types =
        if setup.config.defaultSortType ∈ session.firstKnown (setup.listed values) then
          session.firstKnown (setup.listed values)
        else session.firstKnown (setup.listed values) ++ [setup.config.defaultSortType]
  direction : session.direction = .descending ↔
    SaysYes (values.get? setup.config.keys.sortBackwards)
  unique : session.uniqueNotes = true ↔ SaysYes (values.get? setup.config.keys.uniqueNotes)

section Opening

variable {setup : Setup} {values : Members} {type : String}

/-- The columns that are restored are the known ones among those that were saved. -/
theorem types_restored :
    (setup.restored (.load setup.config.keys values)).types =
      ((setup.listed values).filter
        fun type => type != "" && setup.offer.knows type).eraseDups := by
  have hlisted : ((Preferences.load setup.config.keys values).activeColumns.filter
      (!·.isEmpty)).getD setup.config.defaultColumns = setup.listed values :=
    Preferences.saved_columns_eq _ _
  unfold Setup.restored
  rw [ActiveColumns.types_of_saved, hlisted]

/-- What is displayed at first if the saved sort column is used. -/
theorem types_active_saved {preferences : Preferences}
    (h : preferences.sortType.filter setup.offer.knows = some type) (hne : type ≠ "") :
    setup.sortType preferences = type ∧
      (setup.active preferences).types =
        if (setup.restored preferences).types = [] then [type]
        else (setup.restored preferences).types := by
  have hsort : setup.sortType preferences = type := by
    simp only [Setup.sortType, h, Option.getD_some]
  refine ⟨hsort, ?_⟩
  simp only [Setup.active, h, hsort]
  by_cases hempty : (setup.restored preferences).types = []
  · rw [if_pos (ActiveColumns.is_empty_iff.2 hempty), if_pos hempty, ActiveColumns.types_push hne,
      hempty]
    simp
  · rw [if_neg (fun h => hempty (ActiveColumns.is_empty_iff.1 h)), if_neg hempty]

/-- What is displayed at first if the default sort column is used. -/
theorem types_active_defaulted {preferences : Preferences}
    (h : preferences.sortType.filter setup.offer.knows = none)
    (hne : setup.config.defaultSortType ≠ "") :
    setup.sortType preferences = setup.config.defaultSortType ∧
      (setup.active preferences).types =
        if setup.config.defaultSortType ∈ (setup.restored preferences).types then
          (setup.restored preferences).types
        else (setup.restored preferences).types ++ [setup.config.defaultSortType] := by
  have hsort : setup.sortType preferences = setup.config.defaultSortType := by
    simp only [Setup.sortType, h, Option.getD_none]
  have hshown : ¬ ((setup.restored preferences).push
      setup.config.defaultSortType).isEmpty = true :=
    fun h => ActiveColumns.push_ne_nil hne (ActiveColumns.is_empty_iff.1 h)
  refine ⟨hsort, ?_⟩
  simp only [Setup.active, h]
  rw [if_neg hshown, ActiveColumns.types_push hne]

variable {σ π : Type} [PreferenceStore π]

/-- Whatever was saved, a session can be opened exactly when the configuration is valid and the host
program brings the default sort column, which it cannot hide; and the session that is opened has
repaired what was saved. -/
theorem open_saved_repairs (setup : Setup) (preferences : π) (store : σ)
    (display : List DisplayEvent) :
    ((∃ session, setup.openSaved? preferences store display = .ok session) ↔
      setup.config.validate = .ok () ∧
        (setup.config.defaultSortType ∈ setup.builtins.types ∨
          setup.config.defaultSortType ∈ setup.registry.types)) ∧
    ∀ session, setup.openSaved? preferences store display = .ok session →
      Repaired setup (PreferenceStore.values preferences) session := by
  simp only [Setup.openSaved?, open_eq_ok_iff, Setup.knows_default_iff]
  constructor
  · exact ⟨fun ⟨_, hvalid, hbrought, _⟩ => ⟨hvalid, hbrought⟩,
      fun ⟨hvalid, hbrought⟩ => ⟨_, hvalid, hbrought, rfl⟩⟩
  · rintro session ⟨hvalid, hbrought, rfl⟩
    have hne := default_ne_empty_of_validate hvalid
    constructor
    case known => exact fun type => Setup.knows_offer_iff
    case saved =>
      rintro type ⟨hsaved, htype, hknows⟩
      have hfilter : ((Preferences.load setup.config.keys
          (PreferenceStore.values preferences)).sortType.filter setup.offer.knows) = some type :=
        Preferences.saved_sort_eq_some_iff.2 ⟨hsaved, htype, hknows⟩
      have h := types_active_saved hfilter htype
      rwa [types_restored] at h
    case defaulted =>
      intro hnone
      have hfilter : ((Preferences.load setup.config.keys
          (PreferenceStore.values preferences)).sortType.filter setup.offer.knows) = none :=
        Option.eq_none_iff_forall_ne_some.2 fun type hsome =>
          hnone ⟨type, Preferences.saved_sort_eq_some_iff.1 hsome⟩
      have h := types_active_defaulted hfilter hne
      rwa [types_restored] at h
    case direction =>
      rw [← Preferences.any_is_on_iff]
      show Direction.ofBackwards (Option.any _ _) = .descending ↔ _
      cases Option.any Preferences.isOn ((PreferenceStore.values preferences).get?
        setup.config.keys.sortBackwards) <;> simp [Direction.ofBackwards]
    case unique => exact Preferences.any_is_on_iff

/-- A host program shadows a built-in column, hides another one and asks to hide the default one. -/
def shadowingSetup : Setup :=
  { ({ removals := ["deck", "noteFld"] } : Setup) with
    registry := Registry.ofColumns
      [{ type := "cardDue", label := "Due again", value := fun _ _ => "" }] }

/-- Saved values some of which are of a wrong kind, and columns that are repeated, empty or gone. -/
def malformedPreferences : MemoryPreferences where
  values :=
    [("advbrowse_activeCols", .array [.string "cardDue", .integer 5, .string "deck", .string "",
        .string "gone", .string "cardDue"]),
      ("sortBackwards", .integer 1), ("sortType", .integer 3)]

/-- The session displays the one known column and the default one, which it sorts by. -/
theorem open_saved_repairs_malformed : ∃ session : Session Script,
    shadowingSetup.openSaved? malformedPreferences ({} : Script) = .ok session ∧
      session.sortType = "noteFld" ∧ session.active.types = ["cardDue", "noteFld"] ∧
      session.direction = .descending ∧ session.uniqueNotes = false := by
  obtain ⟨hopens, hrepaired⟩ :=
    open_saved_repairs shadowingSetup malformedPreferences ({} : Script) []
  obtain ⟨session, hopen⟩ := hopens.2 (by decide)
  refine ⟨session, hopen, ?_⟩
  have h := hrepaired session hopen
  have hnone : ¬ ∃ type, session.NamesKnown (some (.integer 3)) type := by
    rintro ⟨type, hsaved, -⟩
    cases hsaved
  have hlisted : session.firstKnown
      (shadowingSetup.listed (PreferenceStore.values malformedPreferences)) = ["cardDue"] := by
    have hknows : session.knows = fun type => decide (type ∈ shadowingSetup.builtins.types.diff
        shadowingSetup.hidden ∨ (type ∈ shadowingSetup.registry.types ∧
          type ∉ shadowingSetup.hidden)) := by
      funext type
      rw [Bool.eq_iff_iff, decide_eq_true_iff]
      exact h.known type
    unfold Session.firstKnown
    rw [hknows]
    decide
  obtain ⟨hsort, hactive⟩ := h.defaulted hnone
  rw [hlisted] at hactive
  refine ⟨hsort, hactive.trans (by decide), h.direction.2 (Or.inr rfl), ?_⟩
  · refine Bool.eq_false_iff.2 fun hunique => ?_
    rcases h.unique.1 hunique with hvalue | hvalue <;> cases hvalue

end Opening

end CardBrowser
