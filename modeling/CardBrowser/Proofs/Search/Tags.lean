import Mathlib
import CardBrowser.Proofs.Search.Concatenation
import CardBrowser.Proofs.Search.Spread

/-!
# Searches for a tag

A note stores its tags with a space before and after each of them, and a search for a tag looks for
the tag between two spaces. So a tag that is searched for is a whole tag of the note, however tags
are separated: `tag_selects`. Patterns see the tags up to the first NUL only.
-/

namespace CardBrowser.Search

open CardBrowser.Database CardBrowser.Sql

/-! ## Searches for one word -/

section Word

variable {database : Database} {notes : Table StoredNote} {cards : Table Card} {today : Int}
  {text : String} {clause : Clause}

/-- The query of a single word runs unless it has a long pattern, and lists the cards of which the
word holds. -/
theorem listed_of_clause (hshows : database.ShowsCards) (hnotes : database.notes = some notes)
    (hcards : database.cards = some cards) (hclauses : clauses text.toList = .ok [clause])
    (hshort : clause.term.isLong = false) (hlevels : clause.levels today < greatestHeight)
    (always : Bool) :
    ∃ predicate ids, Predicate.ofText today text = .ok predicate ∧
      database.cardIds ⟨plainSelection predicate always, none⟩ = .ok ids ∧
      ∀ card ∈ cards.rows, ∀ note ∈ notes.rows, note.id = card.noteId →
        (card.id ∈ ids ↔ clause.Holds Occurs today card note) := by
  have hpredicate : Predicate.ofText today text = .ok (.ofClauses today [clause]) :=
    of_text_eq_ok_iff.2 ⟨_, hclauses, rfl⟩
  have hheight : (plainSelection (.ofClauses today [clause]) always).filter.height ≤
      greatestHeight := by
    rw [height_plain always hpredicate, height_clauses]
    show (if _ then max 3 (clause.levels today) + 1 else clause.levels today) ≤ greatestHeight
    split
    · exact max_lt (by decide : 3 < greatestHeight) hlevels
    · exact hlevels.le
  have hlong : hasLongPattern (Predicate.ofClauses today [clause]).parameters
      (plainSelection (.ofClauses today [clause]) always).filter = false := by
    refine (has_long_pattern_filter hpredicate).trans ?_
    rw [has_long_pattern_clauses, List.any_cons, hshort]
    rfl
  have hjoined := plain_joins always (Predicate.ofClauses today [clause])
  obtain ⟨sources, hsources⟩ := sources_of_tables hshows hcards hnotes
    (plainSelection (.ofClauses today [clause]) always)
  obtain ⟨ids, hids, hperm⟩ :=
    card_ids_of_sources hshows hsources hpredicate hjoined hheight hlong
  refine ⟨_, ids, hpredicate, hids, fun card hcard note hnote hid => ?_⟩
  have hfind : notes.find? card.noteId = some note := Table.find?_eq_some_iff.2 ⟨hnote, hid⟩
  rw [hperm.mem_iff, mem_found_ids, finds_card hnotes hcards hpredicate hjoined hcard hfind]
  exact (clauses_decide [clause]).counts_iff.trans List.forall_mem_singleton

/-- A word without quotes and blanks is read as one clause. -/
theorem clauses_of_word {word : List Char} {term : Term} (hne : word ≠ []) (hquote : '"' ∉ word)
    (hblank : ∀ c ∈ word, Text.isBlank c = false) (hterm : Term.ofWord (undashed word) = .ok term) :
    clauses word = .ok [⟨isNegated word, term⟩] := by
  refine clauses_eq_ok_iff.2 ⟨?_, ?_⟩
  · rw [List.count_eq_zero_of_not_mem hquote]
  · rw [words_singleton hne hquote hblank, List.mapM_cons, of_word_eq, hterm]
    rfl

end Word

/-! ## Tags -/

section Tags

variable {tags : String} {name tag text : List Char}

/-- The tags that a note stores: the parts of the trimmed text between spaces. -/
def tagList (tags : String) : List (List Char) :=
  if Text.trimBlanks tags.toList = [] then [] else (Text.trimBlanks tags.toList).splitOn ' '

/-- Every tag is stored between two spaces, and nothing else is. -/
theorem between_stored_tags (tags : String) :
    between ' ' (storedTags tags).toList = tagList tags := by
  unfold storedTags tagList Text.trim between
  simp only [String.toList_ofList]
  split
  · rfl
  · have hstored : (" " ++ String.ofList (Text.trimBlanks tags.toList) ++ " ").toList =
        ' ' :: (Text.trimBlanks tags.toList ++ ' ' :: []) := by
      simp [String.toList_append]
    rw [hstored, ← List.nil_append (' ' :: _), List.splitOn_append_cons_self,
      List.splitOn_append_cons_self]
    simp

/-- Spaces around a text add no parts to it that are not empty. -/
theorem mem_split_spaces {before after : List Char} (hbefore : ∀ c ∈ before, c = ' ')
    (hafter : ∀ c ∈ after, c = ' ') (hne : tag ≠ []) :
    tag ∈ (before ++ text ++ after).splitOn ' ' ↔ tag ∈ text.splitOn ' ' := by
  have hfirst : ∀ (spaces text : List Char), (∀ c ∈ spaces, c = ' ') →
      (tag ∈ (spaces ++ text).splitOn ' ' ↔ tag ∈ text.splitOn ' ') := by
    intro spaces text hspaces
    induction spaces with
    | nil => exact Iff.rfl
    | cons c spaces ih =>
        obtain ⟨rfl, hothers⟩ := List.forall_mem_cons.1 hspaces
        rw [List.cons_append, ← List.nil_append (' ' :: _), List.splitOn_append_cons_self,
          List.mem_append, ih hothers]
        exact or_iff_right (by simpa using hne)
  rw [List.append_assoc, hfirst before _ hbefore]
  cases after with
  | nil => rw [List.append_nil]
  | cons c after =>
      obtain ⟨rfl, hothers⟩ := List.forall_mem_cons.1 hafter
      have hlast := hfirst after [] hothers
      rw [List.append_nil] at hlast
      rw [List.splitOn_append_cons_self, List.mem_append, hlast]
      exact or_iff_left (by simpa using hne)

/-- The parts of a text have its characters. -/
theorem subset_of_mem_split (h : tag ∈ text.splitOn ' ') : tag ⊆ text := by
  have hsubset : ∀ texts : List (List Char), tag ∈ texts → tag ⊆ [' '].intercalate texts := by
    intro texts hmem
    induction texts with
    | nil => cases hmem
    | cons first texts ih =>
        by_cases hlast : texts = []
        · subst hlast
          rw [List.mem_singleton.1 hmem, List.intercalate_singleton]
          exact List.Subset.refl _
        · rw [List.intercalate_cons_of_ne_nil hlast]
          rcases List.mem_cons.1 hmem with rfl | hmem
          · rw [List.append_assoc]
            exact List.subset_append_left _ _
          · exact List.subset_append_of_subset_right _ (ih hmem)
  have htext := hsubset _ h
  rwa [List.intercalate_splitOn] at htext

/-- If spaces are the only blanks in it, the tags that are stored for a text are its parts between
spaces. -/
theorem mem_tag_list_iff (hblank : ∀ c ∈ tags.toList, Text.isBlank c = true → c = ' ')
    (hne : tag ≠ []) : tag ∈ tagList tags ↔ tag ∈ tags.toList.splitOn ' ' := by
  obtain ⟨before, after, htext, hbefore, hafter⟩ := Text.trim_blanks_eq tags.toList
  have hspace : ∀ c, c ∈ before ∨ c ∈ after → c = ' ' := by
    intro c hmem
    refine hblank c ?_ (hmem.elim (hbefore c) (hafter c))
    rw [htext]
    rcases hmem with hmem | hmem <;> simp [hmem]
  have hsplit : tag ∈ tags.toList.splitOn ' ' ↔
      tag ∈ (Text.trimBlanks tags.toList).splitOn ' ' := by
    conv_lhs => rw [htext]
    exact mem_split_spaces (fun c hmem => hspace c (Or.inl hmem))
      (fun c hmem => hspace c (Or.inr hmem)) hne
  rw [hsplit]
  unfold tagList
  split
  · rename_i hnil
    rw [hnil]
    exact iff_of_false List.not_mem_nil (by simpa using hne)
  · exact Iff.rfl

/-- What patterns see of a text is split where the text is. -/
theorem between_map_seen (text : List Char) :
    between ' ' (text.map seen) = (between ' ' text).map (·.map seen) := by
  have hsplit : (text.map seen).splitOn ' ' = (text.splitOn ' ').map (·.map seen) := by
    induction text with
    | nil => rfl
    | cons c text ih =>
        have hspace : (seen c == ' ') = (c == ' ') := by
          rw [Bool.eq_iff_iff, beq_iff_eq, beq_iff_eq]
          exact seen_eq_iff (by decide) (by decide)
        unfold List.splitOn at ih ⊢
        rw [List.map_cons, List.splitOnP_cons_eq_if_modifyHead, List.splitOnP_cons_eq_if_modifyHead,
          hspace, ih]
        split
        · rfl
        · cases text.splitOnP (· == ' ') <;> rfl
  unfold between
  rw [hsplit, List.map_dropLast, List.map_tail]

/-- Stored tags have the characters of the tags, and spaces. -/
theorem stored_tags_subset (tags : String) : (storedTags tags).toList ⊆ ' ' :: tags.toList := by
  obtain ⟨before, after, htext, -, -⟩ := Text.trim_blanks_eq tags.toList
  have htrimmed : Text.trimBlanks tags.toList ⊆ tags.toList := by
    intro c hmem
    rw [htext]
    simp [hmem]
  have htrim : (Text.trim tags).toList = Text.trimBlanks tags.toList := String.toList_ofList
  unfold storedTags
  dsimp only
  split
  · exact List.nil_subset _
  · rw [String.toList_append, String.toList_append, htrim]
    exact List.append_subset_of_subset_of_subset (List.append_subset_of_subset_of_subset (by simp)
      (List.subset_cons_of_subset _ htrimmed)) (by simp)

/-- Two tags are the same as patterns see them: they differ in the case of letters only. -/
def SameTag (name tag : List Char) : Prop :=
  (tag.map seen).map Text.foldCase = (name.map seen).map Text.foldCase

instance (name tag : List Char) : Decidable (SameTag name tag) :=
  inferInstanceAs (Decidable (_ = _))

/-- Plain tags are seen as they are. -/
theorem same_tag_iff_of_plain (hname : IsPlain name) (htag : IsPlain tag) :
    SameTag name tag ↔ tag.map Text.foldCase = name.map Text.foldCase := by
  unfold SameTag
  rw [hname.map_seen, htag.map_seen]

/-- A name between two spaces occurs in stored tags exactly when one of them is the name. -/
theorem occurs_in_stored_tags_iff (hname : '\x00' ∉ name) (htags : '\x00' ∉ tags.toList)
    (hstar : '*' ∉ name) (hspace : ' ' ∉ name) :
    Occurs (' ' :: name ++ [' ']) (storedTags tags).toList ↔
      ∃ tag ∈ tagList tags, SameTag name tag := by
  have hstored : '\x00' ∉ (storedTags tags).toList := fun hmem => by
    simpa [htags] using stored_tags_subset tags hmem
  have hvalue : (' ' :: name ++ [' ']).map seen = ' ' :: (name.map seen ++ [' ']) := by
    rw [List.map_append]
    rfl
  have hnotin : ∀ c : Char, c ≠ '\uFFFD' → (c ≠ '\uFFFE' ∧ c ≠ '\uFFFF') → c ∉ name →
      c ∉ name.map seen := by
    intro c hc hd hmem hseen
    obtain ⟨d, hdmem, hd'⟩ := List.mem_map.1 hseen
    exact hmem ((seen_eq_iff hc hd).1 hd' ▸ hdmem)
  have hstar := hnotin '*' (by decide) (by decide) hstar
  have hspace := hnotin ' ' (by decide) (by decide) hspace
  rw [occurs_iff_of_no_nul (by simp [hname]) hstored, hvalue,
    contains_between_iff (by decide) (by decide) hspace, between_map_seen, between_stored_tags]
  simp only [spread_iff_of_no_star hstar]
  constructor
  · rintro ⟨_, hrun, _, rfl, hfits⟩
    obtain ⟨tag, hmem, rfl⟩ := List.mem_map.1 ((List.singleton_infix_iff _ _).1 hrun)
    exact ⟨tag, hmem, (fits_iff_of_no_star hstar).1 hfits⟩
  · rintro ⟨tag, hmem, hsame⟩
    exact ⟨[tag.map seen], (List.singleton_infix_iff _ _).2 (List.mem_map_of_mem hmem), _, rfl,
      (fits_iff_of_no_star hstar).2 hsame⟩

/-- A search for a tag is read as such, and one with a dash as its negation. -/
theorem clauses_of_tag {name : String} (hne : name ≠ "") (hquote : '"' ∉ name.toList)
    (hblank : ∀ c ∈ name.toList, Text.isBlank c = false) :
    clauses ("tag:" ++ name).toList = .ok [⟨false, .tag name.toList⟩] ∧
      clauses ("-tag:" ++ name).toList = .ok [⟨true, .tag name.toList⟩] := by
  have htag : "tag:".toList = "tag".toList ++ [':'] := by decide
  have hdash : "-tag:".toList = '-' :: "tag:".toList := by decide
  have hvalue : name.toList ≠ [] := fun hnil => hne (String.toList_eq_nil_iff.1 hnil)
  have hqualifier : HasQualifier Qualifier.tag.name name.toList ("tag:".toList ++ name.toList) :=
    ⟨"tag".toList, by rw [htag]; simp, by decide⟩
  have hterm : Term.ofWord ("tag:".toList ++ name.toList) = .ok (.tag name.toList) :=
    (of_word_of_qualifier hqualifier).trans (if_neg hvalue)
  have hquotes : '"' ∉ "tag:".toList ++ name.toList := by
    rw [List.mem_append, not_or]
    exact ⟨by decide, hquote⟩
  have hblanks : ∀ c ∈ "tag:".toList ++ name.toList, Text.isBlank c = false := by
    have hall : ("tag:".toList.all fun c => !Text.isBlank c) = true := by decide
    refine List.forall_mem_append.2 ⟨fun c hmem => ?_, hblank⟩
    simpa using List.all_eq_true.1 hall c hmem
  rw [String.toList_append, String.toList_append]
  constructor
  · exact clauses_of_word (by simp) hquotes hblanks hterm
  · rw [hdash, List.cons_append]
    refine clauses_of_word (List.cons_ne_nil _ _) ?_ (List.forall_mem_cons.2 ⟨by decide, hblanks⟩)
      hterm
    rw [List.mem_cons, not_or]
    exact ⟨by decide, hquotes⟩

end Tags

/-- A search for a tag lists the cards whose notes have the tag, and the search with a dash lists
the others. Tags of which patterns see every character are compared as they are, the case of the
letters A to Z aside. -/
theorem tag_selects (database : Database) (notes : Table StoredNote) (cards : Table Card)
    (today : Int) (always : Bool) (note : Note) (card : Card) (name : String)
    (hshows : database.ShowsCards) (hnotes : database.notes = some notes)
    (hcards : database.cards = some cards) (hstored : note.stored ∈ notes.rows)
    (hcard : card ∈ cards.rows) (hid : card.noteId = note.id)
    (hblank : ∀ c ∈ note.tags.toList, Text.isBlank c = true → c = ' ') (hne : name ≠ "")
    (hname : ∀ c ∈ name.toList, Text.isBlank c = false ∧ c ≠ '"' ∧ c ≠ '*' ∧ c ≠ '\x00')
    (hnul : '\x00' ∉ note.tags.toList) (hshort : (Term.tag name.toList).isLong = false) :
    ∃ tagged untagged ids others,
      Predicate.ofText today ("tag:" ++ name) = .ok tagged ∧
      Predicate.ofText today ("-tag:" ++ name) = .ok untagged ∧
      database.cardIds ⟨plainSelection tagged always, none⟩ = .ok ids ∧
      database.cardIds ⟨plainSelection untagged always, none⟩ = .ok others ∧
      (card.id ∈ ids ↔ ∃ tag ∈ note.tags.toList.splitOn ' ', SameTag name.toList tag) ∧
      (card.id ∈ others ↔ ¬ ∃ tag ∈ note.tags.toList.splitOn ' ', SameTag name.toList tag) ∧
      (IsPlain name.toList → IsPlain note.tags.toList → ∀ tag ∈ note.tags.toList.splitOn ' ',
        (SameTag name.toList tag ↔ tag.map Text.foldCase = name.toList.map Text.foldCase)) := by
  have hspace : ' ' ∉ name.toList := fun hmem => absurd (hname _ hmem).1 (by decide)
  have hvalue : name.toList ≠ [] := fun hnil => hne (String.toList_eq_nil_iff.1 hnil)
  obtain ⟨htag, hdash⟩ := clauses_of_tag hne (fun hmem => (hname _ hmem).2.1 rfl)
    fun c hmem => (hname c hmem).1
  have hlevels : Clause.levels today ⟨false, .tag name.toList⟩ < greatestHeight ∧
      Clause.levels today ⟨true, .tag name.toList⟩ < greatestHeight :=
    ⟨(by decide : 3 < greatestHeight), (by decide : 4 < greatestHeight)⟩
  obtain ⟨tagged, ids, hread, hids, hlisted⟩ :=
    listed_of_clause hshows hnotes hcards htag hshort hlevels.1 always
  obtain ⟨untagged, others, hreadDash, hothers, hlistedDash⟩ :=
    listed_of_clause hshows hnotes hcards hdash hshort hlevels.2 always
  have hoccurs : Occurs (' ' :: name.toList ++ [' ']) (storedTags note.tags).toList ↔
      ∃ tag ∈ note.tags.toList.splitOn ' ', SameTag name.toList tag := by
    rw [occurs_in_stored_tags_iff (fun hmem => (hname _ hmem).2.2.2 rfl) hnul
      (fun hmem => (hname _ hmem).2.2.1 rfl) hspace]
    refine exists_congr fun tag => and_congr_left fun hsame => mem_tag_list_iff hblank ?_
    rintro rfl
    exact hvalue (by simpa [SameTag] using hsame)
  refine ⟨tagged, untagged, ids, others, hread, hreadDash, hids, hothers, ?_, ?_, ?_⟩
  · rw [← hoccurs]
    simpa only [Clause.Holds, Term.Holds, Note.stored, Bool.false_eq_true, if_false] using
      hlisted card hcard note.stored hstored hid.symm
  · rw [← hoccurs]
    simpa only [Clause.Holds, Term.Holds, Note.stored, if_true] using
      hlistedDash card hcard note.stored hstored hid.symm
  · intro hplain htags tag hmem
    exact same_tag_iff_of_plain hplain (htags.of_subset (subset_of_mem_split hmem))

/-- A note with tags and fields. -/
def sampleNote (tags : String) (fields : List String) : Note where
  id := 10
  typeId := 1
  tags := tags
  fields := fields
  sortField := Note.firstField fields

/-- A new database to which this note and one card of it were added. -/
def sampleCard (tags : String) (fields : List String) : Except Fault Database := do
  let database ← createSchema {}
  let database ← database.addNote (sampleNote tags fields)
  database.addCard { id := 1, noteId := 10 }

/-- The rows of this database. -/
theorem sample_card_rows (tags : String) (fields : List String) : ∃ database notes cards,
    sampleCard tags fields = .ok database ∧ database.ShowsCards ∧ database.notes = some notes ∧
      database.cards = some cards ∧ (sampleNote tags fields).stored ∈ notes.rows ∧
      ({ id := 1, noteId := 10 } : Card) ∈ cards.rows :=
  ⟨_, _, _, rfl, ⟨rfl, rfl⟩, rfl, rfl, List.mem_cons_self, List.mem_cons_self⟩

/-- A tag is found in other letters and between any number of spaces, whatever characters it has. -/
theorem tag_selects_percent : ∃ database tagged ids,
    sampleCard " Verb  to_50%" ["a"] = .ok database ∧
    Predicate.ofText 0 ("tag:" ++ "TO_50%") = .ok tagged ∧
    database.cardIds ⟨plainSelection tagged false, none⟩ = .ok ids ∧ 1 ∈ ids := by
  obtain ⟨database, notes, cards, hdatabase, hshows, hnotes, hcards, hnote, hcard⟩ :=
    sample_card_rows " Verb  to_50%" ["a"]
  have hblank : ((sampleNote " Verb  to_50%" ["a"]).tags.toList.all
      fun c => !Text.isBlank c || c == ' ') = true := by decide
  have hname : ("TO_50%".toList.all
      fun c => !Text.isBlank c && c != '"' && c != '*' && c != '\x00') = true := by decide
  obtain ⟨tagged, -, ids, -, hread, -, hids, -, hlisted, -, -⟩ :=
    tag_selects database notes cards 0 false (sampleNote " Verb  to_50%" ["a"]) _ "TO_50%" hshows
      hnotes hcards hnote hcard rfl
      (fun c hmem hc => by simpa [hc] using List.all_eq_true.1 hblank c hmem) (by decide)
      (fun c hmem => by simpa [and_assoc] using List.all_eq_true.1 hname c hmem) (by decide)
      (by decide)
  exact ⟨database, tagged, ids, hdatabase, hread, hids,
    hlisted.2 ⟨"to_50%".toList, by decide, by decide⟩⟩

/-- A note with a NUL in its tags has the tags after the NUL, but patterns do not see them, so its
card is not listed. -/
theorem hidden_tag_not_selected : ∃ database tagged ids,
    sampleCard "a\x00b c" ["a"] = .ok database ∧
    Predicate.ofText 0 "tag:c" = .ok tagged ∧
    database.cardIds ⟨plainSelection tagged false, none⟩ = .ok ids ∧
    (∃ tag ∈ (sampleNote "a\x00b c" ["a"]).tags.toList.splitOn ' ',
      tag.map Text.foldCase = "c".toList.map Text.foldCase) ∧ 1 ∉ ids := by
  obtain ⟨database, notes, cards, hdatabase, hshows, hnotes, hcards, hnote, hcard⟩ :=
    sample_card_rows "a\x00b c" ["a"]
  have hclauses : clauses "tag:c".toList = .ok [⟨false, .tag ['c']⟩] := rfl
  obtain ⟨tagged, ids, hread, hids, hlisted⟩ :=
    @listed_of_clause _ _ _ 0 _ _ hshows hnotes hcards hclauses (by decide)
      (by decide : 3 < greatestHeight) false
  refine ⟨database, tagged, ids, hdatabase, hread, hids, ⟨['c'], by decide, rfl⟩, fun hmem => ?_⟩
  have hoccurs : Occurs [' ', 'c', ' '] (sampleNote "a\x00b c" ["a"]).stored.tags.toList :=
    (hlisted _ hcard _ hnote rfl).1 hmem
  -- What patterns see of the stored tags ends at the NUL, after the space and the first tag.
  obtain ⟨before, part, after, hvisible, hfits, -⟩ := hoccurs
  obtain ⟨d, part, rfl, -, hfits⟩ := (fits_character_iff (by decide : ' ' ≠ '*')).1 hfits
  obtain ⟨e, part, rfl, hfold, -⟩ := (fits_character_iff (by decide : 'c' ≠ '*')).1 hfits
  have hseen : e ∈ [' ', 'a'] := by
    have hseenTags : visible (sampleNote "a\x00b c" ["a"]).stored.tags.toList = [' ', 'a'] := rfl
    rw [← hseenTags, hvisible]
    simp
  rcases List.mem_cons.1 hseen with rfl | hseen
  · exact absurd hfold (by decide)
  · rw [List.mem_singleton.1 hseen] at hfold
    exact absurd hfold (by decide)

end CardBrowser.Search
