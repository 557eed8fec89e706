import Mathlib
import CardBrowser.Proofs.Search.Meaning
import CardBrowser.Proofs.Text.Numerals

/-!
# The grammar of search texts

A search text is refused for its quotes or for a word that has a known qualifier and not the value
that the qualifier asks for: `text_refused_iff`. `Malformed` says which words these are, without
the order in which a word is checked. Numbers that are accepted fit in 64 bits: `Term.Fits`.
-/

namespace CardBrowser.Search

open CardBrowser.Text

variable {word value : List Char} {term : Term} {clause : Clause}

/-- A word without its dash. A dash with nothing after it stays. -/
def undashed : List Char → List Char
  | '-' :: c :: rest => c :: rest
  | word => word

/-- Whether a word has a dash with something after it. -/
def isNegated : List Char → Bool
  | '-' :: _ :: _ => true
  | _ => false

/-- The states that a word can ask for, in lower case. -/
def stateNames : List String := ["new", "learn", "review", "suspended", "due"]

/-- A word without its dash has a known qualifier, and no value or one that the qualifier does not
take. -/
inductive Malformed (word : List Char) : Prop
  | missing {name : String} (hname : name ∈ qualifierNames) (h : HasQualifier name [] word)
  | ids {name : String} {value part : List Char} (hname : name = "nid" ∨ name = "cid")
      (h : HasQualifier name value word) (hpart : part ∈ value.splitOn ',')
      (hnumber : ∀ n, ¬ WritesInt64 part n)
  | number {name : String} {value : List Char} (hname : name = "deck" ∨ name = "card")
      (h : HasQualifier name value word) (hnumber : ∀ n, ¬ WritesInt64 value n)
  | ordinal {value : List Char} {n : Int} (h : HasQualifier "card" value word)
      (hnumber : WritesInt64 value n) (hlow : n < 1)
  | state {value : List Char} (h : HasQualifier "is" value word)
      (hstate : ∀ name ∈ stateNames, value.map foldCase ≠ name.toList)

/-! ## Values -/

/-- A text is read as a number exactly when it writes one. -/
theorem read_number_iff_writes {n : Int} : readNumber value = .ok n ↔ WritesInt64 value n := by
  rw [read_number_eq_ok_iff, ← read_trimmed_iff]
  rfl

/-- Numbers are read exactly when each part between commas writes one. -/
theorem exists_read_numbers_iff :
    (∃ ids, readNumbers value = .ok ids) ↔
      ∀ part ∈ value.splitOn ',', ∃ n, WritesInt64 part n := by
  unfold readNumbers
  simp only [Except.exists_map_m_eq_ok_iff, read_number_iff_writes]

/-- A state is read from its name in any case. -/
theorem exists_state_iff :
    (∃ wanted, CardState.ofName? value = some wanted) ↔
      ∃ name ∈ stateNames, value.map foldCase = name.toList := by
  have hnames : stateNames = CardState.all.map CardState.name := rfl
  unfold CardState.ofName?
  rw [← Option.isSome_iff_exists, List.find?_isSome, hnames]
  simp only [List.mem_map, exists_exists_and_eq_and, beq_iff_eq]
  exact exists_congr fun _ => and_congr_right fun _ => eq_comm

/-- A qualifier does not take a value. -/
def Qualifier.Refuses (value : List Char) : Qualifier → Prop
  | tag => False
  | note | card => ∃ part ∈ value.splitOn ',', ∀ n, ¬ WritesInt64 part n
  | deck => ∀ n, ¬ WritesInt64 value n
  | ordinal => ∀ n, WritesInt64 value n → n < 1
  | state => ∀ name ∈ stateNames, value.map foldCase ≠ name.toList

/-- A value becomes a term unless its qualifier does not take it. -/
theorem exists_of_qualified_iff {qualifier : Qualifier} :
    (∃ term, Term.ofQualified value qualifier = .ok term) ↔ ¬ qualifier.Refuses value := by
  have hids : (∃ ids, readNumbers value = .ok ids) ↔
      ¬ ∃ part ∈ value.splitOn ',', ∀ n, ¬ WritesInt64 part n := by
    rw [exists_read_numbers_iff]
    push Not
    rfl
  cases qualifier with
  | tag => exact iff_of_true ⟨_, rfl⟩ id
  | note =>
      simp only [Term.ofQualified, Except.map_eq_ok_iff, Qualifier.Refuses, ← hids]
      tauto
  | card =>
      simp only [Term.ofQualified, Except.map_eq_ok_iff, Qualifier.Refuses, ← hids]
      tauto
  | deck =>
      simp only [Term.ofQualified, Except.map_eq_ok_iff, read_number_iff_writes,
        Qualifier.Refuses]
      push Not
      tauto
  | ordinal =>
      simp only [Term.ofQualified, Except.bind_eq_ok_iff, read_number_iff_writes,
        Qualifier.Refuses]
      push Not
      constructor
      · rintro ⟨term, n, hn, h⟩
        refine ⟨n, hn, ?_⟩
        by_contra hlow
        rw [if_pos (by omega)] at h
        cases h
      · rintro ⟨n, hn, hlow⟩
        exact ⟨_, n, hn, if_neg (by omega)⟩
  | state =>
      have hstate : Qualifier.state.Refuses value ↔
          ¬ ∃ wanted, CardState.ofName? value = some wanted := by
        rw [exists_state_iff]
        push Not
        rfl
      rw [hstate, not_not]
      unfold Term.ofQualified
      cases CardState.ofName? value <;> simp

/-! ## Words -/

/-- A malformed word with a qualifier has no value or one that the qualifier does not take. -/
theorem Malformed.refuses {qualifier : Qualifier} (hmalformed : Malformed word)
    (h : HasQualifier qualifier.name value word) : value = [] ∨ qualifier.Refuses value := by
  cases hmalformed with
  | missing hname hword =>
      obtain ⟨other, rfl⟩ := exists_qualifier hname
      exact Or.inl (h.unique hword).2
  | ids hname hword hpart hnumber =>
      rcases hname with rfl | rfl
      · obtain ⟨rfl, rfl⟩ := h.unique (show HasQualifier Qualifier.note.name _ word from hword)
        exact Or.inr ⟨_, hpart, hnumber⟩
      · obtain ⟨rfl, rfl⟩ := h.unique (show HasQualifier Qualifier.card.name _ word from hword)
        exact Or.inr ⟨_, hpart, hnumber⟩
  | number hname hword hnumber =>
      rcases hname with rfl | rfl
      · obtain ⟨rfl, rfl⟩ := h.unique (show HasQualifier Qualifier.deck.name _ word from hword)
        exact Or.inr hnumber
      · obtain ⟨rfl, rfl⟩ := h.unique (show HasQualifier Qualifier.ordinal.name _ word from hword)
        exact Or.inr fun n hn => absurd hn (hnumber n)
  | ordinal hword hnumber hlow =>
      obtain ⟨rfl, rfl⟩ := h.unique (show HasQualifier Qualifier.ordinal.name _ word from hword)
      refine Or.inr fun m hm => ?_
      have hsame := (read_trimmed_iff.2 hm).symm.trans (read_trimmed_iff.2 hnumber)
      obtain rfl := Option.some.inj hsame
      exact hlow
  | state hword hstate =>
      obtain ⟨rfl, rfl⟩ := h.unique (show HasQualifier Qualifier.state.name _ word from hword)
      exact Or.inr hstate

/-- A word is malformed if its qualifier does not take its value. -/
theorem malformed_of_refuses {qualifier : Qualifier} (h : HasQualifier qualifier.name value word)
    (hrefuses : qualifier.Refuses value) : Malformed word := by
  cases qualifier with
  | tag => exact hrefuses.elim
  | note =>
      obtain ⟨part, hpart, hnumber⟩ := hrefuses
      exact .ids (Or.inl rfl) h hpart hnumber
  | card =>
      obtain ⟨part, hpart, hnumber⟩ := hrefuses
      exact .ids (Or.inr rfl) h hpart hnumber
  | deck => exact .number (Or.inl rfl) h hrefuses
  | ordinal =>
      by_cases hnumber : ∃ n, WritesInt64 value n
      · obtain ⟨n, hn⟩ := hnumber
        exact .ordinal h hn (hrefuses n hn)
      · exact .number (Or.inr rfl) h fun n hn => hnumber ⟨n, hn⟩
  | state => exact .state h hrefuses

/-- A word with a qualifier is malformed if it has no value or one that the qualifier does not
take. -/
theorem malformed_iff {qualifier : Qualifier} (h : HasQualifier qualifier.name value word) :
    Malformed word ↔ value = [] ∨ qualifier.Refuses value := by
  refine ⟨fun hmalformed => hmalformed.refuses h, ?_⟩
  rintro (rfl | hrefuses)
  · exact .missing (name_mem_names qualifier) h
  · exact malformed_of_refuses h hrefuses

/-- A malformed word has a known qualifier. -/
theorem Malformed.has_qualifier (h : Malformed word) :
    ∃ name ∈ qualifierNames, ∃ value, HasQualifier name value word := by
  cases h with
  | missing hname hword => exact ⟨_, hname, _, hword⟩
  | ids hname hword => rcases hname with rfl | rfl <;> exact ⟨_, by decide, _, hword⟩
  | number hname hword => rcases hname with rfl | rfl <;> exact ⟨_, by decide, _, hword⟩
  | ordinal hword => exact ⟨_, by decide, _, hword⟩
  | state hword => exact ⟨_, by decide, _, hword⟩

/-- A word becomes a term unless it is malformed. -/
theorem exists_of_word_iff : (∃ term, Term.ofWord word = .ok term) ↔ ¬ Malformed word := by
  rcases word_cases word with hunqualified | ⟨qualifier, value, hword⟩
  · refine iff_of_true ⟨_, of_word_of_unqualified hunqualified⟩ fun hmalformed => ?_
    obtain ⟨name, hname, value, hword⟩ := hmalformed.has_qualifier
    exact hunqualified name hname value hword
  · rw [of_word_of_qualifier hword, malformed_iff hword, not_or, ← exists_of_qualified_iff]
    split
    · rename_i hempty
      simp [hempty]
    · rename_i hvalue
      exact (and_iff_right hvalue).symm

/-- The clause of a word is made of what stands after its dash. -/
theorem of_word_eq (word : List Char) :
    Clause.ofWord word = (Term.ofWord (undashed word)).map fun term => ⟨isNegated word, term⟩ := by
  fun_cases Clause.ofWord word with
  | case1 c rest => rfl
  | case2 _ hdash => rw [undashed, isNegated] <;> exact hdash

/-- A word that is not negated is read with its dash, if it begins with one. -/
theorem undashed_of_not_negated (h : isNegated word = false) : undashed word = word := by
  fun_cases undashed word with
  | case1 c rest => cases h
  | case2 => rfl

/-- The numbers of a term fit in 64 bits. So does the ordinal as it is written, counted from one. -/
def Term.Fits : Term → Prop
  | notes ids | cards ids => ∀ id ∈ ids, isInt64 id = true
  | deck id => isInt64 id = true
  | ordinal n => isInt64 n = true ∧ isInt64 (n + 1) = true
  | _ => True

/-- A number that is read fits in 64 bits. -/
theorem is_int64_of_read_number {n : Int} (h : readNumber value = .ok n) : isInt64 n = true := by
  obtain ⟨-, -, -, -, -, -, -, hlow, hhigh⟩ := read_number_iff_writes.1 h
  exact is_int64_iff.2 ⟨hlow, hhigh⟩

/-- Numbers that are read fit in 64 bits. -/
theorem is_int64_of_read_numbers {ids : List Int} (h : readNumbers value = .ok ids) :
    ∀ id ∈ ids, isInt64 id = true := by
  intro id hmem
  obtain ⟨part, -, hpart⟩ := (mem_of_read_numbers h).1 hmem
  exact is_int64_of_read_number (read_number_eq_ok_iff.2 hpart)

/-- The term of a qualifier and its value has numbers that fit. One is taken from an ordinal only
after it was found to be one at least. -/
theorem Qualifier.Reads.fits {qualifier : Qualifier} (h : qualifier.Reads value term) :
    term.Fits := by
  cases h with
  | tag => trivial
  | notes hids => exact is_int64_of_read_numbers hids
  | cards hids => exact is_int64_of_read_numbers hids
  | deck hn => exact is_int64_of_read_number hn
  | ordinal hn hlow =>
      obtain ⟨-, hhigh⟩ := is_int64_iff.1 (is_int64_of_read_number hn)
      refine ⟨is_int64_iff.2 ⟨by omega, by omega⟩, ?_⟩
      rw [Int.sub_add_cancel]
      exact is_int64_of_read_number hn
  | state => trivial

/-- The term of a word has numbers that fit. -/
theorem fits_of_word (h : Term.ofWord word = .ok term) : term.Fits := by
  rcases of_word_cases h with ⟨-, rfl⟩ | ⟨qualifier, value, -, hreads⟩
  · trivial
  · exact hreads.fits

/-! ## Texts -/

/-- A search text is refused exactly when its quotes do not come in pairs or one of its words is
malformed after its dash. Whether or not the text is refused, the numbers of the words that are read
fit in 64 bits. -/
theorem text_refused_iff (today : Int) (text : String) :
    ((∃ error, Predicate.ofText today text = .error error) ↔
      text.toList.count '"' % 2 = 1 ∨
        ∃ word ∈ words text.toList, Malformed (undashed word)) ∧
    ∀ word ∈ words text.toList, ∀ clause,
      Clause.ofWord word = .ok clause → clause.term.Fits := by
  have hwords : ∀ words : List (List Char), (∃ clauses, words.mapM Clause.ofWord = .ok clauses) ↔
      ¬ ∃ word ∈ words, Malformed (undashed word) := by
    intro words
    simp only [Except.exists_map_m_eq_ok_iff, of_word_eq, Except.map_eq_ok_iff]
    push Not
    refine forall₂_congr fun word _ => ?_
    rw [← exists_of_word_iff]
    exact ⟨fun ⟨_, term, hterm, _⟩ => ⟨term, hterm⟩, fun ⟨term, hterm⟩ => ⟨_, term, hterm, rfl⟩⟩
  constructor
  · have haccepted : (∃ predicate, Predicate.ofText today text = .ok predicate) ↔
        text.toList.count '"' % 2 = 0 ∧
          ¬ ∃ word ∈ words text.toList, Malformed (undashed word) := by
      rw [← hwords]
      simp only [of_text_eq_ok_iff, clauses_eq_ok_iff]
      exact ⟨fun ⟨_, found, ⟨hquotes, hfound⟩, _⟩ => ⟨hquotes, found, hfound⟩,
        fun ⟨hquotes, found, hfound⟩ => ⟨_, found, ⟨hquotes, hfound⟩, rfl⟩⟩
    rw [Except.exists_error_iff, haccepted, not_and_or, not_not]
    exact or_congr_left (by omega)
  · intro word _ clause hclause
    rw [of_word_eq] at hclause
    obtain ⟨term, hterm, rfl⟩ := Except.map_eq_ok_iff.1 hclause
    exact fits_of_word hterm

/-- The greatest number of 64 bits is accepted as an ordinal and is counted from zero without
overflow; the number after it is refused. -/
theorem text_refused_iff_greatest :
    (∃ error, Predicate.ofText 0 "-is:Due card:\"9223372036854775808 \"" = .error error) ∧
      (∃ predicate, Predicate.ofText 0 "-is:Due card:\"9223372036854775807 \"" =
        .ok predicate) ∧
      (Term.ordinal 9223372036854775806).Fits := by
  obtain ⟨hrefused, -⟩ := text_refused_iff 0 "-is:Due card:\"9223372036854775808 \""
  obtain ⟨-, hfits⟩ := text_refused_iff 0 "-is:Due card:\"9223372036854775807 \""
  refine ⟨hrefused.2 (Or.inr ⟨"card:9223372036854775808 ".toList, by decide, ?_⟩),
    Except.eq_ok_of_is_some (by decide),
    hfits "card:9223372036854775807 ".toList (by decide)
      ⟨false, .ordinal 9223372036854775806⟩ (by decide)⟩
  have hword : HasQualifier "card" "9223372036854775808 ".toList
      (undashed "card:9223372036854775808 ".toList) :=
    ⟨"card".toList, by decide, by decide⟩
  have hnone : readInt64? (trimBlanks "9223372036854775808 ".toList) = none := by decide
  refine .number (Or.inr rfl) hword fun n hn => ?_
  have hread := hnone.symm.trans (read_trimmed_iff.2 hn)
  cases hread

end CardBrowser.Search
