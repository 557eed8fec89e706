import Mathlib
import CardBrowser.Proofs.Search.Tags

/-!
# Stars across fields and tags

A pattern looks at all fields of a note as one text, and at all its tags as another. A star of a
value matches the separators of these texts like any other character, so a search finds more than
the notes with a single field that contains the value, or with a single tag that fits it. It also
finds those over whose fields or tags, some that stand in a row, the value can be spread:
`wildcard_selects`. Without a star in the value there are no others.
-/

namespace CardBrowser.Search

open CardBrowser.Database CardBrowser.Sql

variable {note : Note} {value text : List Char} {texts : List (List Char)} {fields : List String}
  {tags : String} {separator : Char}

/-! ## Plain notes -/

/-- Texts in a row are plain if each of them is. -/
theorem is_plain_intercalate (hseparator : IsPlain [separator])
    (h : ∀ text ∈ texts, IsPlain text) : IsPlain ([separator].intercalate texts) := by
  induction texts with
  | nil => exact fun c hmem => absurd hmem List.not_mem_nil
  | cons text texts ih =>
      obtain ⟨htext, htexts⟩ := List.forall_mem_cons.1 h
      by_cases hlast : texts = []
      · subst hlast
        rwa [List.intercalate_singleton]
      · rw [List.intercalate_cons_of_ne_nil hlast]
        exact List.forall_mem_append.2 ⟨List.forall_mem_append.2 ⟨htext, hseparator⟩, ih htexts⟩

/-- A note of whose texts patterns see every character. -/
structure IsPlainSource (note : Note) : Prop where
  sortField : IsPlain note.sortField.toList
  fields : ∀ field ∈ note.fields, IsPlain field.toList
  tags : IsPlain note.tags.toList

/-- The fields of a note are stored in a row. -/
theorem stored_fields_eq (note : Note) : note.stored.fields.toList =
    [Note.separator].intercalate (note.fields.map String.toList) := String.toList_ofList

/-- The tags of a note are stored between spaces. -/
theorem stored_tags_eq (note : Note) : note.stored.tags = storedTags note.tags := by
  rw [Note.stored]

/-- The texts that are stored for a plain note are plain. -/
theorem is_plain_stored (h : IsPlainSource note) : IsPlainNote note.stored where
  sortField := h.sortField
  fields := by
    have hfields : ∀ text ∈ note.fields.map String.toList, IsPlain text := by
      intro text hmem
      obtain ⟨field, hfield, rfl⟩ := List.mem_map.1 hmem
      exact h.fields field hfield
    rw [stored_fields_eq]
    exact is_plain_intercalate (by simp [IsPlain, Note.separator]) hfields
  tags := by
    rw [stored_tags_eq]
    intro c hmem
    rcases List.mem_cons.1 (stored_tags_subset note.tags hmem) with rfl | hmem
    · decide
    · exact h.tags c hmem

/-! ## Fields and tags -/

/-- What the empty text contains, every text contains. -/
theorem contains_of_contains_nil (h : Contains value []) (text : List Char) :
    Contains value text := by
  obtain ⟨before, part, after, hempty, hfits⟩ := h
  obtain ⟨-, rfl, -⟩ : before = [] ∧ part = [] ∧ after = [] := by simpa using hempty.symm
  exact ⟨[], [], text, rfl, hfits⟩

/-- A value occurs in the sort field or the stored fields exactly when the sort field contains it or
it is spread over the fields, between two stars. -/
theorem occurs_in_fields_iff (hnote : IsPlainSource note) (hplain : IsPlain value)
    (hvalue : Note.separator ∉ value) :
    (Occurs value note.stored.sortField.toList ∨ Occurs value note.stored.fields.toList) ↔
      Contains value note.sortField.toList ∨
        Spread ('*' :: (value ++ ['*'])) (note.fields.map String.toList) := by
  have hstored := is_plain_stored hnote
  rw [occurs_iff_contains hplain hstored.sortField, occurs_iff_contains hplain hstored.fields,
    stored_fields_eq]
  show Contains value note.sortField.toList ∨ _ ↔ _
  by_cases hfields : note.fields = []
  · -- No fields are stored as the empty text, over which nothing is spread.
    rw [hfields]
    constructor
    · rintro (h | h)
      · exact Or.inl h
      · exact Or.inl (contains_of_contains_nil h _)
    · rintro (h | h)
      · exact Or.inl h
      · exact absurd rfl h.ne_nil
  · refine or_congr_right (contains_iff_fits.trans (fits_intercalate_iff (by decide) ?_ ?_))
    · rw [List.mem_cons, List.mem_append, not_or, not_or]
      exact ⟨by decide, hvalue, by decide⟩
    · simpa using hfields

/-- A value between two spaces occurs in the stored tags exactly when it is spread over some of the
tags that stand in a row. -/
theorem occurs_in_tags_iff (hnote : IsPlainSource note) (hplain : IsPlain value)
    (hvalue : ' ' ∉ value) :
    Occurs (' ' :: value ++ [' ']) note.stored.tags.toList ↔
      ∃ run, run <:+: tagList note.tags ∧ Spread value run := by
  have hspaces : IsPlain (' ' :: value ++ [' ']) :=
    List.forall_mem_append.2 ⟨List.forall_mem_cons.2 ⟨by decide, hplain⟩,
      List.forall_mem_singleton.2 (by decide)⟩
  rw [occurs_iff_contains hspaces (is_plain_stored hnote).tags, List.cons_append,
    contains_between_iff (by decide) (by decide) hvalue, stored_tags_eq, between_stored_tags]

/-- A value without a star is spread over tags that stand in a row only if it fits one of them. -/
theorem exists_tag_iff (hstar : '*' ∉ value) :
    (∃ run, run <:+: texts ∧ Spread value run) ↔ ∃ tag ∈ texts, Fits value tag := by
  simp only [spread_iff_of_no_star hstar]
  constructor
  · rintro ⟨_, hrun, tag, rfl, hfits⟩
    exact ⟨tag, (List.singleton_infix_iff _ _).1 hrun, hfits⟩
  · rintro ⟨tag, hmem, hfits⟩
    exact ⟨[tag], (List.singleton_infix_iff _ _).2 hmem, tag, rfl, hfits⟩

/-- What a search for a value with stars finds. As text, the value is found where the sort field
contains it or where it is spread over the fields; as a tag, where it is spread over tags that stand
in a row. A single field that contains the value is enough, and so is a single tag that fits it. If
the value has no star, nothing else is found. -/
theorem wildcard_selects (database : Database) (notes : Table StoredNote) (cards : Table Card)
    (today : Int) (always : Bool) (note : Note) (card : Card) (value : String)
    (hshows : database.ShowsCards) (hnotes : database.notes = some notes)
    (hcards : database.cards = some cards) (hstored : note.stored ∈ notes.rows)
    (hcard : card ∈ cards.rows) (hid : card.noteId = note.id) (hnote : IsPlainSource note)
    (hplain : IsPlain value.toList) (hne : value ≠ "")
    (hvalue : ∀ c ∈ value.toList, Text.isBlank c = false ∧ c ≠ '"' ∧ c ≠ Note.separator)
    (hshort : (Term.text value.toList).isLong = false ∧ (Term.tag value.toList).isLong = false) :
    (isNegated value.toList = false → Unqualified value.toList →
      ∃ predicate ids, Predicate.ofText today value = .ok predicate ∧
        database.cardIds ⟨plainSelection predicate always, none⟩ = .ok ids ∧
        (card.id ∈ ids ↔ Contains value.toList note.sortField.toList ∨
          Spread ('*' :: (value.toList ++ ['*'])) (note.fields.map String.toList)) ∧
        ((∃ field ∈ note.fields, Contains value.toList field.toList) → card.id ∈ ids) ∧
        ('*' ∉ value.toList → (card.id ∈ ids ↔ Contains value.toList note.sortField.toList ∨
          ∃ field ∈ note.fields, Contains value.toList field.toList))) ∧
    ∃ predicate ids, Predicate.ofText today ("tag:" ++ value) = .ok predicate ∧
      database.cardIds ⟨plainSelection predicate always, none⟩ = .ok ids ∧
      (card.id ∈ ids ↔ ∃ run, run <:+: tagList note.tags ∧ Spread value.toList run) ∧
      ((∃ tag ∈ tagList note.tags, Fits value.toList tag) → card.id ∈ ids) ∧
      ('*' ∉ value.toList →
        (card.id ∈ ids ↔ ∃ tag ∈ tagList note.tags, Fits value.toList tag)) := by
  have hquote : '"' ∉ value.toList := fun hmem => (hvalue _ hmem).2.1 rfl
  have hblank : ∀ c ∈ value.toList, Text.isBlank c = false := fun c hmem => (hvalue c hmem).1
  constructor
  · intro hdash hunqualified
    have hnonempty : value.toList ≠ [] := fun hnil => hne (String.toList_eq_nil_iff.1 hnil)
    have hclauses : clauses value.toList = .ok [⟨isNegated value.toList, .text value.toList⟩] := by
      refine clauses_of_word hnonempty hquote hblank ?_
      rw [undashed_of_not_negated hdash]
      exact of_word_of_unqualified hunqualified
    rw [hdash] at hclauses
    obtain ⟨predicate, ids, hread, hids, hlisted⟩ := listed_of_clause hshows hnotes hcards hclauses
      hshort.1 (by decide : 4 < greatestHeight) always
    have hfound : card.id ∈ ids ↔ Contains value.toList note.sortField.toList ∨
        Spread ('*' :: (value.toList ++ ['*'])) (note.fields.map String.toList) :=
      (hlisted card hcard note.stored hstored hid.symm).trans
        (occurs_in_fields_iff hnote hplain fun hmem => (hvalue _ hmem).2.2 rfl)
    refine ⟨predicate, ids, hread, hids, hfound, ?_, ?_⟩
    · rintro ⟨field, hfield, hcontains⟩
      exact hfound.2 (Or.inr (spread_of_contains (List.mem_map_of_mem hfield) hcontains))
    · intro hstar
      rw [hfound, spread_iff_contains hstar]
      simp only [List.mem_map, exists_exists_and_eq_and]
  · obtain ⟨predicate, ids, hread, hids, hlisted⟩ := listed_of_clause hshows hnotes hcards
      (clauses_of_tag hne hquote hblank).1 hshort.2 (by decide : 3 < greatestHeight) always
    have hfound : card.id ∈ ids ↔
        ∃ run, run <:+: tagList note.tags ∧ Spread value.toList run :=
      (hlisted card hcard note.stored hstored hid.symm).trans
        (occurs_in_tags_iff hnote hplain fun hmem => absurd (hvalue _ hmem).1 (by decide))
    refine ⟨predicate, ids, hread, hids, hfound, ?_, ?_⟩
    · rintro ⟨tag, hmem, hfits⟩
      exact hfound.2 ⟨[tag], (List.singleton_infix_iff _ _).2 hmem, .whole hfits⟩
    · intro hstar
      rw [hfound, exists_tag_iff hstar]

/-- A value is found across two fields and across two tags. -/
theorem wildcard_selects_neighbours : ∃ database predicate ids tagged others,
    sampleCard "ax yb" ["xa", "by"] = .ok database ∧
    Predicate.ofText 0 "a*b" = .ok predicate ∧ Predicate.ofText 0 ("tag:" ++ "a*b") = .ok tagged ∧
    database.cardIds ⟨plainSelection predicate true, none⟩ = .ok ids ∧ 1 ∈ ids ∧
    database.cardIds ⟨plainSelection tagged true, none⟩ = .ok others ∧ 1 ∈ others := by
  obtain ⟨database, notes, cards, hdatabase, hshows, hnotes, hcards, hnote, hcard⟩ :=
    sample_card_rows "ax yb" ["xa", "by"]
  have hplain : IsPlainSource (sampleNote "ax yb" ["xa", "by"]) :=
    ⟨by simp [IsPlain, sampleNote, Note.firstField], by simp [IsPlain, sampleNote],
      by simp [IsPlain, sampleNote]⟩
  have hvalue : ("a*b".toList.all
      fun c => !Text.isBlank c && c != '"' && c != Note.separator) = true := by decide
  obtain ⟨htext, tagged, others, hreadTag, hothers, htag, -, -⟩ :=
    wildcard_selects database notes cards 0 true (sampleNote "ax yb" ["xa", "by"]) _ "a*b" hshows
      hnotes hcards hnote hcard rfl hplain (by simp [IsPlain]) (by decide)
      (fun c hmem => by simpa [and_assoc] using List.all_eq_true.1 hvalue c hmem) (by decide)
  obtain ⟨predicate, ids, hread, hids, hfield, -, -⟩ :=
    htext rfl (unqualified_of_no_colon (by decide))
  refine ⟨database, predicate, ids, tagged, others, hdatabase, hread, hreadTag, hids,
    hfield.2 (Or.inr ?_), hothers, htag.2 ⟨["ax".toList, "yb".toList], ?_, ?_⟩⟩
  · exact @Spread.cut ['*', 'a'] ['b', '*'] "xa".toList ["by".toList] (by decide)
      (.whole (by decide))
  · exact ⟨[], [], by decide⟩
  · exact @Spread.cut ['a'] ['b'] "ax".toList ["yb".toList] (by decide) (.whole (by decide))

/-- A card is found for a value that neither the sort field nor any field of its note contains. -/
theorem wildcard_crosses_fields : ∃ database predicate ids,
    sampleCard "" ["xa", "by"] = .ok database ∧ Predicate.ofText 0 "a*b" = .ok predicate ∧
    database.cardIds ⟨plainSelection predicate true, none⟩ = .ok ids ∧ 1 ∈ ids ∧
    ¬ Contains "a*b".toList (sampleNote "" ["xa", "by"]).sortField.toList ∧
    ¬ ∃ field ∈ (sampleNote "" ["xa", "by"]).fields, Contains "a*b".toList field.toList := by
  obtain ⟨database, notes, cards, hdatabase, hshows, hnotes, hcards, hnote, hcard⟩ :=
    sample_card_rows "" ["xa", "by"]
  have hclauses : clauses "a*b".toList = .ok [⟨false, .text "a*b".toList⟩] := rfl
  obtain ⟨predicate, ids, hread, hids, hlisted⟩ :=
    @listed_of_clause _ _ _ 0 _ _ hshows hnotes hcards hclauses (by decide)
      (by decide : 4 < greatestHeight) true
  have hplain : IsPlain "a*b".toList := by simp [IsPlain]
  have hfields : IsPlain (sampleNote "" ["xa", "by"]).stored.fields.toList := by
    simp [IsPlain, sampleNote, Note.stored, Note.joinFields, Note.separator]
  have hoccurs : Occurs "a*b".toList (sampleNote "" ["xa", "by"]).stored.fields.toList :=
    (occurs_iff_contains hplain hfields).2 (by decide)
  exact ⟨database, predicate, ids, hdatabase, hread, hids,
    (hlisted _ hcard _ hnote rfl).2 (Or.inr hoccurs), by decide, by decide⟩

end CardBrowser.Search
