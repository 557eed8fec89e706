import Mathlib
import CardBrowser.Proofs.Outcome
import CardBrowser.Proofs.Search.Words
import CardBrowser.Search.Condition
import CardBrowser.Card

/-!
# The meaning of words

`WordHolds` says when a word of a search text holds of a card and its note, in terms of the
characters of the word. Terms are what the words are read as, and `Term.Holds` says the same of
them;
`of_word_holds` and `clause_holds` tie the two together. What it means that a text contains a value
is a parameter here.
-/

namespace CardBrowser.Search

section Words

variable (contains : List Char → List Char → Prop) (today : Int) (card : Card) (note : StoredNote)

/-- The names of the qualifiers. -/
def qualifierNames : List String := ["tag", "nid", "cid", "deck", "card", "is"]

/-- A word begins with a name, in any case, and a colon, after which a value stands. -/
def HasQualifier (name : String) (value word : List Char) : Prop :=
  ∃ written, word = written ++ ':' :: value ∧ written.map Text.foldCase = name.toList

/-- The number that a text writes, where white space around it is allowed. -/
def number? (text : List Char) : Option Int :=
  Text.readInt64? (Text.trimBlanks text)

/-- A card is in a state, which is given in lower case. -/
def StateHolds (state : List Char) : Prop :=
  (state = "new".toList ∧ card.type = 0) ∨
  (state = "review".toList ∧ card.type = 2) ∨
  (state = "learn".toList ∧ (card.queue = 1 ∨ card.queue = 3)) ∨
  (state = "suspended".toList ∧ card.queue = -1) ∨
  (state = "due".toList ∧ (card.queue = 2 ∨ card.queue = 3) ∧ card.due ≤ today)

/-- A card and its note have what the qualifier of a name asks for. -/
def QualifierHolds (name : String) (value : List Char) : Prop :=
  (name = "tag" ∧ contains (' ' :: value ++ [' ']) note.tags.toList) ∨
  (name = "nid" ∧ ∃ part ∈ value.splitOn ',', number? part = some card.noteId) ∨
  (name = "cid" ∧ ∃ part ∈ value.splitOn ',', number? part = some card.id) ∨
  (name = "deck" ∧ number? value = some card.deckId) ∨
  (name = "card" ∧ ∃ n, number? value = some n ∧ card.ordinal = n - 1) ∨
  (name = "is" ∧ StateHolds today card (value.map Text.foldCase))

/-- A word without its dash holds of a card and its note: if it has no known qualifier, the sort
field or the fields contain it. -/
inductive PlainWordHolds (word : List Char) : Prop
  | text (hunqualified : ∀ name ∈ qualifierNames, ∀ value, ¬ HasQualifier name value word)
      (h : contains word note.sortField.toList ∨ contains word note.fields.toList)
  | qualified {name : String} {value : List Char} (hword : HasQualifier name value word)
      (h : QualifierHolds contains today card note name value)

/-- A word holds of a card and its note. After a dash stands what must not hold. -/
def WordHolds : List Char → Prop
  | '-' :: c :: rest => ¬ PlainWordHolds contains today card note (c :: rest)
  | word => PlainWordHolds contains today card note word

/-! ## Terms -/

/-- A card is in a state. -/
def CardState.Holds : CardState → Prop
  | new => card.type = 0
  | learn => card.queue = 1 ∨ card.queue = 3
  | review => card.type = 2
  | suspended => card.queue = -1
  | due => (card.queue = 2 ∨ card.queue = 3) ∧ card.due ≤ today

/-- A term holds of a card and its note. -/
def Term.Holds : Term → Prop
  | text value => contains value note.sortField.toList ∨ contains value note.fields.toList
  | tag value => contains (' ' :: value ++ [' ']) note.tags.toList
  | notes ids => card.noteId ∈ ids
  | cards ids => card.id ∈ ids
  | deck id => card.deckId = id
  | ordinal n => card.ordinal = n
  | state wanted => wanted.Holds today card

/-- A clause holds of a card and its note. -/
def Clause.Holds (clause : Clause) : Prop :=
  if clause.negated then ¬ clause.term.Holds contains today card note
  else clause.term.Holds contains today card note

end Words

variable {contains : List Char → List Char → Prop} {today : Int} {card : Card} {note : StoredNote}
  {word name value : List Char} {term : Term} {clause : Clause}

/-! ## Qualifiers -/

/-- A word is split where a part without colons is followed by a colon. -/
theorem split_colon_append (h : ':' ∉ name) :
    splitColon? (name ++ ':' :: value) = some (name, value) := by
  have hkeep : ∀ c ∈ name, decide (c ≠ ':') = true := by
    rintro c hmem
    rw [decide_eq_true_eq]
    rintro rfl
    exact h hmem
  unfold splitColon?
  rw [List.dropWhile_append_of_pos hkeep, List.takeWhile_append_of_pos hkeep]
  simp

/-- What a word is split into. -/
theorem eq_of_split_colon (h : splitColon? word = some (name, value)) :
    word = name ++ ':' :: value ∧ ':' ∉ name := by
  unfold splitColon? at h
  cases hdrop : word.dropWhile (· ≠ ':') with
  | nil =>
      rw [hdrop] at h
      cases h
  | cons c rest =>
      rw [hdrop] at h
      obtain ⟨rfl, rfl⟩ := Prod.mk.inj (Option.some.inj h)
      obtain rfl : c = ':' := by
        have hhead := List.head?_dropWhile_not (fun c => decide (c ≠ ':')) word
        rw [hdrop] at hhead
        simpa using hhead
      refine ⟨?_, fun hmem => ?_⟩
      · rw [← hdrop, List.takeWhile_append_dropWhile]
      · simpa using List.mem_takeWhile_imp hmem

/-- The written form of a name without colons has no colon. -/
theorem not_mem_of_fold {written : List Char} {qualifier : String} (hcolon : ':' ∉ qualifier.toList)
    (h : written.map Text.foldCase = qualifier.toList) : ':' ∉ written := by
  intro hmem
  apply hcolon
  rw [← h]
  exact List.mem_map.2 ⟨':', hmem, by decide⟩

/-- The qualifier of a word is what stands before its first colon. -/
theorem has_qualifier_iff (h : splitColon? word = some (name, value)) {qualifier : String}
    (hcolon : ':' ∉ qualifier.toList) {other : List Char} :
    HasQualifier qualifier other word ↔
      name.map Text.foldCase = qualifier.toList ∧ other = value := by
  constructor
  · rintro ⟨written, rfl, hwritten⟩
    rw [split_colon_append (not_mem_of_fold hcolon hwritten)] at h
    obtain ⟨rfl, rfl⟩ := Prod.mk.inj (Option.some.inj h)
    exact ⟨hwritten, rfl⟩
  · rintro ⟨hname, rfl⟩
    exact ⟨name, (eq_of_split_colon h).1, hname⟩

/-- The names that are known are those of the qualifiers. -/
theorem exists_qualifier {known : String} (h : known ∈ qualifierNames) :
    ∃ qualifier : Qualifier, qualifier.name = known := by
  have hnames : qualifierNames = Qualifier.all.map Qualifier.name := rfl
  rw [hnames] at h
  obtain ⟨qualifier, -, hname⟩ := List.mem_map.1 h
  exact ⟨qualifier, hname⟩

/-- The name of a qualifier is known. -/
theorem name_mem_names (qualifier : Qualifier) : qualifier.name ∈ qualifierNames := by
  cases qualifier <;> decide

/-- The name of a qualifier has no colon. -/
theorem colon_not_mem_name (qualifier : Qualifier) : ':' ∉ qualifier.name.toList := by
  cases qualifier <;> decide

/-- The qualifier of a name is that of the name in lower case. -/
theorem of_name_eq_some_iff {qualifier : Qualifier} :
    Qualifier.ofName? name = some qualifier ↔
      name.map Text.foldCase = qualifier.name.toList := by
  constructor
  · intro h
    have hname : qualifier.name.toList = name.map Text.foldCase := by
      simpa using List.find?_some h
    exact hname.symm
  · intro h
    unfold Qualifier.ofName?
    rw [h]
    cases qualifier <;> rfl

/-- A word has at most one qualifier and one value. -/
theorem HasQualifier.unique {qualifier other : Qualifier} {otherValue : List Char}
    (h : HasQualifier qualifier.name value word)
    (hother : HasQualifier other.name otherValue word) :
    qualifier = other ∧ value = otherValue := by
  obtain ⟨written, rfl, hwritten⟩ := h
  have hcolon : ':' ∉ written := not_mem_of_fold (colon_not_mem_name qualifier) hwritten
  obtain ⟨hname, rfl⟩ := (has_qualifier_iff (split_colon_append hcolon)
    (colon_not_mem_name other)).1 hother
  have hsame := (of_name_eq_some_iff.2 hwritten).symm.trans (of_name_eq_some_iff.2 hname)
  exact ⟨Option.some.inj hsame, rfl⟩

/-! ## What words are read as -/

/-- A word with a qualifier is read by it and by its value. -/
theorem of_word_of_qualifier {qualifier : Qualifier}
    (h : HasQualifier qualifier.name value word) :
    Term.ofWord word =
      if value = [] then .error (.missingValue qualifier.name)
      else Term.ofQualified value qualifier := by
  obtain ⟨written, rfl, hwritten⟩ := h
  unfold Term.ofWord
  rw [split_colon_append (not_mem_of_fold (colon_not_mem_name qualifier) hwritten)]
  dsimp only
  rw [of_name_eq_some_iff.2 hwritten]

/-- A word without a known qualifier is read as text. -/
theorem of_word_of_unqualified
    (h : ∀ name ∈ qualifierNames, ∀ value, ¬ HasQualifier name value word) :
    Term.ofWord word = .ok (.text word) := by
  unfold Term.ofWord
  cases hsplit : splitColon? word with
  | none => rfl
  | some split =>
      obtain ⟨name, value⟩ := split
      dsimp only
      cases hname : Qualifier.ofName? name with
      | none => rfl
      | some qualifier =>
          have hword : HasQualifier qualifier.name value word :=
            (has_qualifier_iff hsplit (colon_not_mem_name qualifier)).2
              ⟨of_name_eq_some_iff.1 hname, rfl⟩
          exact absurd hword (h _ (name_mem_names qualifier) value)

/-- A word has a known qualifier or none. -/
theorem word_cases (word : List Char) :
    (∀ name ∈ qualifierNames, ∀ value, ¬ HasQualifier name value word) ∨
      ∃ (qualifier : Qualifier) (value : List Char), HasQualifier qualifier.name value word := by
  by_cases h : ∃ (qualifier : Qualifier) (value : List Char), HasQualifier qualifier.name value word
  · exact Or.inr h
  · refine Or.inl fun name hname value hword => h ?_
    obtain ⟨qualifier, rfl⟩ := exists_qualifier hname
    exact ⟨qualifier, value, hword⟩

/-- A number is read if the text writes one. -/
theorem read_number_eq_ok_iff {n : Int} : readNumber value = .ok n ↔ number? value = some n := by
  unfold readNumber number?
  cases Text.readInt64? (Text.trimBlanks value) <;> simp

/-- The numbers that are read are those that the parts of the text write. -/
theorem mem_of_read_numbers {ids : List Int} (h : readNumbers value = .ok ids) {id : Int} :
    id ∈ ids ↔ ∃ part ∈ value.splitOn ',', number? part = some id := by
  unfold readNumbers at h
  generalize value.splitOn ',' = parts at h
  have hparts := Except.map_m_eq_ok_iff.1 h
  clear h
  induction hparts with
  | nil => simp
  | cons hpart _ ih =>
      rw [List.mem_cons, List.exists_mem_cons_iff, read_number_eq_ok_iff.1 hpart,
        Option.some.injEq, eq_comm]
      exact or_congr_right ih

/-- What a qualifier and its value are read as. -/
inductive Qualifier.Reads (value : List Char) : Qualifier → Term → Prop
  | tag : Reads value .tag (.tag value)
  | notes {ids : List Int} (h : readNumbers value = .ok ids) : Reads value .note (.notes ids)
  | cards {ids : List Int} (h : readNumbers value = .ok ids) : Reads value .card (.cards ids)
  | deck {n : Int} (h : readNumber value = .ok n) : Reads value .deck (.deck n)
  | ordinal {n : Int} (h : readNumber value = .ok n) (hlow : 1 ≤ n) :
      Reads value .ordinal (.ordinal (n - 1))
  | state {wanted : CardState} (h : wanted.name.toList = value.map Text.foldCase) :
      Reads value .state (.state wanted)

/-- A qualifier and its value are read as nothing else. -/
theorem reads_of_qualified {qualifier : Qualifier}
    (h : Term.ofQualified value qualifier = .ok term) : qualifier.Reads value term := by
  cases qualifier with
  | tag =>
      cases h
      exact .tag
  | note =>
      obtain ⟨ids, hids, rfl⟩ := Except.map_eq_ok_iff.1 h
      exact .notes hids
  | card =>
      obtain ⟨ids, hids, rfl⟩ := Except.map_eq_ok_iff.1 h
      exact .cards hids
  | deck =>
      obtain ⟨n, hn, rfl⟩ := Except.map_eq_ok_iff.1 h
      exact .deck hn
  | ordinal =>
      obtain ⟨n, hn, h⟩ := Except.bind_eq_ok_iff.1 h
      split at h
      · cases h
      · rename_i hlow
        cases h
        exact .ordinal hn (by omega)
  | state =>
      unfold Term.ofQualified at h
      dsimp only at h
      split at h
      · rename_i wanted hwanted
        cases h
        exact .state (by simpa using List.find?_some hwanted)
      · cases h

/-- A word is read as text, or as what its qualifier and its value are read as. -/
theorem of_word_cases (h : Term.ofWord word = .ok term) :
    ((∀ name ∈ qualifierNames, ∀ value, ¬ HasQualifier name value word) ∧ term = .text word) ∨
      ∃ (qualifier : Qualifier) (value : List Char),
        HasQualifier qualifier.name value word ∧ qualifier.Reads value term := by
  rcases word_cases word with hunqualified | ⟨qualifier, value, hword⟩
  · rw [of_word_of_unqualified hunqualified] at h
    exact Or.inl ⟨hunqualified, (Except.ok.inj h).symm⟩
  · rw [of_word_of_qualifier hword] at h
    split at h
    · cases h
    · exact Or.inr ⟨qualifier, value, hword, reads_of_qualified h⟩

/-- The term of a qualifier holds if what the qualifier asks for does. -/
theorem Qualifier.Reads.holds_iff {qualifier : Qualifier} (h : qualifier.Reads value term) :
    term.Holds contains today card note ↔
      QualifierHolds contains today card note qualifier.name value := by
  cases h with
  | tag => simp [QualifierHolds, Qualifier.name, Term.Holds]
  | notes hids => simp [QualifierHolds, Qualifier.name, Term.Holds, mem_of_read_numbers hids]
  | cards hids => simp [QualifierHolds, Qualifier.name, Term.Holds, mem_of_read_numbers hids]
  | deck hn =>
      simp [QualifierHolds, Qualifier.name, Term.Holds, read_number_eq_ok_iff.1 hn, eq_comm]
  | ordinal hn => simp [QualifierHolds, Qualifier.name, Term.Holds, read_number_eq_ok_iff.1 hn]
  | @state wanted hname =>
      have hstate : QualifierHolds contains today card note Qualifier.state.name value ↔
          StateHolds today card wanted.name.toList := by
        rw [hname]
        simp [QualifierHolds, Qualifier.name]
      rw [hstate]
      cases wanted <;> simp [StateHolds, CardState.name, Term.Holds, CardState.Holds]

/-- Only a known qualifier asks for anything. -/
theorem mem_names_of_holds {qualifier : String}
    (h : QualifierHolds contains today card note qualifier value) : qualifier ∈ qualifierNames := by
  rcases h with ⟨rfl, -⟩ | ⟨rfl, -⟩ | ⟨rfl, -⟩ | ⟨rfl, -⟩ | ⟨rfl, -⟩ | ⟨rfl, -⟩ <;> decide

/-- What a word is read as holds if the word does. -/
theorem of_word_holds (h : Term.ofWord word = .ok term) :
    term.Holds contains today card note ↔ PlainWordHolds contains today card note word := by
  rcases of_word_cases h with ⟨hunqualified, rfl⟩ | ⟨qualifier, value, hword, hreads⟩
  · constructor
    · exact fun h => .text hunqualified h
    · intro h
      cases h with
      | text _ h => exact h
      | qualified hword h => exact absurd hword (hunqualified _ (mem_names_of_holds h) _)
  · rw [hreads.holds_iff]
    constructor
    · exact fun h => .qualified hword h
    · intro h
      cases h with
      | text hunqualified => exact absurd hword (hunqualified _ (name_mem_names qualifier) _)
      | qualified hother hholds =>
          obtain ⟨other, rfl⟩ := exists_qualifier (mem_names_of_holds hholds)
          obtain ⟨rfl, rfl⟩ := hword.unique hother
          exact hholds

/-- The clause of a word holds if the word does. -/
theorem clause_holds (h : Clause.ofWord word = .ok clause) :
    clause.Holds contains today card note ↔ WordHolds contains today card note word := by
  unfold Clause.ofWord at h
  split at h
  · obtain ⟨term, hterm, rfl⟩ := Except.map_eq_ok_iff.1 h
    exact not_congr (of_word_holds hterm)
  · rename_i hdash
    obtain ⟨term, hterm, rfl⟩ := Except.map_eq_ok_iff.1 h
    have hword : WordHolds contains today card note word ↔
        PlainWordHolds contains today card note word := by
      unfold WordHolds
      split
      · exact absurd rfl (hdash _ _)
      · exact Iff.rfl
    rw [hword]
    exact of_word_holds hterm

/-! ## Search texts -/

/-- A text is read clause by clause if its quotes come in pairs. -/
theorem clauses_eq_ok_iff {text : List Char} {found : List Clause} :
    clauses text = .ok found ↔
      text.count '"' % 2 = 0 ∧ (words text).mapM Clause.ofWord = .ok found := by
  unfold clauses
  rw [words_eq]
  split_ifs with hquotes
  · exact (and_iff_right hquotes).symm
  · simp [hquotes]

/-- The predicate of a text is that of its clauses. -/
theorem of_text_eq_ok_iff {text : String} {predicate : Predicate} :
    Predicate.ofText today text = .ok predicate ↔
      ∃ found, clauses text.toList = .ok found ∧ predicate = Predicate.ofClauses today found := by
  unfold Predicate.ofText
  cases clauses text.toList <;> simp [eq_comm]

/-- The clauses of words hold if the words do. -/
theorem clauses_hold {words : List (List Char)} {clauses : List Clause}
    (h : words.mapM Clause.ofWord = .ok clauses) :
    (∀ clause ∈ clauses, clause.Holds contains today card note) ↔
      ∀ word ∈ words, WordHolds contains today card note word := by
  have hwords := Except.map_m_eq_ok_iff.1 h
  clear h
  induction hwords with
  | nil => simp
  | cons hword _ ih =>
      rw [List.forall_mem_cons, List.forall_mem_cons, clause_holds hword]
      exact and_congr_right fun _ => ih

end CardBrowser.Search
