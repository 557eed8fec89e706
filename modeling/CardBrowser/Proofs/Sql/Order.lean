import Mathlib
import CardBrowser.Sql.Value

/-!
# The order of values as an order of keys

`compares_order_key` says that values are put in order by the keys of `Value.orderKey`: by kind,
then numbers by their place on the line and texts by the bytes of their UTF-8 form. A text is cut
before it is looked at, as `NOCASE` does at a NUL, and texts alike in that are told apart by their
length. That UTF-8 keeps the order of code points is `utf8_strict_mono`.
-/

namespace CardBrowser.Sql

/-! ## UTF-8 -/

/-- The bytes of characters in UTF-8. -/
def utf8 (characters : List Char) : List Nat :=
  characters.flatMap fun c => (String.utf8EncodeChar c).map UInt8.toNat

/-- A smaller character has smaller bytes, whatever follows. -/
theorem utf8_lt_of_lt {c d : Char} (h : c < d) (rest others : List Nat) :
    (String.utf8EncodeChar c).map UInt8.toNat ++ rest <
      (String.utf8EncodeChar d).map UInt8.toNat ++ others := by
  have hlt : c.val.toNat < d.val.toNat := UInt32.lt_iff_toNat_lt.1 h
  have hbound : d.val.toNat < 0x110000 := by
    have hvalid := d.valid
    simp only [UInt32.isValidChar, Nat.isValidChar] at hvalid
    omega
  -- The bytes of a code point are its digits to base 64, and a first byte that tells their number.
  have hdigits : ∀ n : Nat, n / 4096 = n / 64 / 64 ∧ n / 262144 = n / 64 / 64 / 64 := by
    intro n
    omega
  have hlater : ∀ n : Nat, (n % 64 + 128) % 256 = n % 64 + 128 := by
    intro n
    omega
  have hfirst : ∀ n : Nat, n < 0x110000 →
      (n / 64 / 64 / 64 % 8 + 240) % 256 = n / 64 / 64 / 64 + 240 := by
    intro n hn
    omega
  unfold String.utf8EncodeChar
  dsimp only
  generalize c.val.toNat = m at *
  generalize d.val.toNat = n at *
  obtain ⟨hm, hm'⟩ := hdigits m
  obtain ⟨hn, hn'⟩ := hdigits n
  split_ifs <;>
    first
    | omega
    | simp only [List.map_cons, List.map_nil, List.cons_append, List.nil_append,
        List.cons_lt_cons_iff, UInt8.toNat_ofNat', hm, hm', hn, hn', hlater,
        hfirst m (hlt.trans hbound), hfirst n hbound]
      omega

/-- UTF-8 keeps the order of characters. -/
theorem utf8_strict_mono : StrictMono utf8 := by
  intro left right h
  induction h with
  | @nil c rest =>
      have hne : (String.utf8EncodeChar c).map UInt8.toNat ≠ [] := by
        simp [String.utf8EncodeChar_ne_nil]
      show [] < (String.utf8EncodeChar c).map UInt8.toNat ++ utf8 rest
      cases hbytes : (String.utf8EncodeChar c).map UInt8.toNat with
      | nil => exact absurd hbytes hne
      | cons byte bytes => exact List.nil_lt_cons byte _
  | cons _ ih => exact List.append_left_lt ih
  | rel h => exact utf8_lt_of_lt h _ _

/-- Texts are compared as their bytes are. -/
theorem compares_utf8 (left right : List Char) :
    (compare (String.ofList left) (String.ofList right)).Compares (utf8 left) (utf8 right) := by
  have hlt : String.ofList left < String.ofList right ↔ utf8 left < utf8 right := by
    rw [utf8_strict_mono.lt_iff_lt]
    show (String.ofList left).toList < (String.ofList right).toList ↔ _
    rw [String.toList_ofList, String.toList_ofList]
  have heq : String.ofList left = String.ofList right ↔ utf8 left = utf8 right := by
    rw [utf8_strict_mono.injective.eq_iff, String.ofList_inj]
  show (compareOfLessAndEq _ _).Compares _ _
  unfold compareOfLessAndEq
  split_ifs with hless hsame
  · exact hlt.1 hless
  · exact heq.1 hsame
  · exact lt_of_le_of_ne (not_lt.1 fun h => hless (hlt.2 h)) fun h => hsame (heq.2 h.symm)

/-! ## Keys -/

/-- What a text is put in order by: its bytes without the case of letters up to where it is cut, and
then its length. -/
abbrev TextKey := List Nat ×ₗ Nat

/-- What a value is put in order by: its kind, its place if it is a number, and its text. -/
abbrev ValueKey := Nat ×ₗ (Int ×ₗ Rat) ×ₗ TextKey

/-- The key of a text that is cut in a given way. -/
def textKey (cut : List Char → List Char) (text : String) : TextKey :=
  toLex (utf8 ((cut text.toList).map Text.foldCase), text.utf8ByteSize)

/-- The key of a value. -/
def Value.orderKey (cut : List Char → List Char) (value : Value) : ValueKey :=
  toLex (value.rank, toLex (toLex value.numberPlace,
    match value with
    | .text s => textKey cut s
    | _ => toLex ([], 0)))

/-- Pairs are compared by their first parts and then by their second parts. -/
theorem compares_to_lex {α β : Type} [LinearOrder α] [LinearOrder β] {a c : α} {b d : β}
    {first second : Ordering} (hfirst : first.Compares a c) (hsecond : second.Compares b d) :
    (first.then second).Compares (toLex (a, b)) (toLex (c, d)) := by
  cases first with
  | lt => exact Prod.Lex.toLex_lt_toLex.2 (Or.inl hfirst)
  | gt => exact Prod.Lex.toLex_lt_toLex.2 (Or.inl hfirst)
  | eq =>
      obtain rfl : a = c := hfirst
      cases second with
      | lt => exact Prod.Lex.toLex_lt_toLex.2 (Or.inr ⟨rfl, hsecond⟩)
      | eq => exact congrArg (fun b => toLex (a, b)) hsecond
      | gt => exact Prod.Lex.toLex_lt_toLex.2 (Or.inr ⟨rfl, hsecond⟩)

/-- Places on the line are compared as pairs. -/
theorem compares_place (p q : Int × Rat) : (Value.placeOrder p q).Compares (toLex p) (toLex q) := by
  refine compares_to_lex ((compare_iff _ _).1 rfl) ?_
  rw [← LinearOrder.compare_eq_compareOfLessAndEq]
  exact (compare_iff _ _).1 rfl

/-- Texts are compared without regard to case by their keys. -/
theorem compares_text_key (s t : String) :
    (Collation.noCase.order s t).Compares (textKey beforeNul s) (textKey beforeNul t) :=
  compares_to_lex (compares_utf8 _ _) ((compare_iff _ _).1 rfl)

/-- Values that are not both texts are compared by their kind and their place. -/
theorem Value.compares_place {κ : Type} [LinearOrder κ] (a b : Value) {left right : κ}
    (h : a.rank = b.rank → left = right) :
    ((compare a.rank b.rank).then (placeOrder a.numberPlace b.numberPlace)).Compares
      (toLex (a.rank, toLex (toLex a.numberPlace, left)))
      (toLex (b.rank, toLex (toLex b.numberPlace, right))) := by
  by_cases hrank : a.rank = b.rank
  · obtain rfl := h hrank
    have hplace := compares_to_lex (Sql.compares_place a.numberPlace b.numberPlace)
      (show Ordering.eq.Compares left left from rfl)
    rw [Ordering.then_eq] at hplace
    exact compares_to_lex ((compare_iff _ _).1 rfl) hplace
  · -- The kind decides, so any second comparison will do.
    have hne : compare a.rank b.rank ≠ .eq := fun heq => hrank (compare_eq_iff_eq.1 heq)
    have hthen : ∀ second, (compare a.rank b.rank).then second = compare a.rank b.rank := by
      intro second
      cases hcompare : compare a.rank b.rank with
      | eq => exact absurd hcompare hne
      | lt => rfl
      | gt => rfl
    have hkeys := compares_to_lex ((compare_iff a.rank b.rank).1 rfl)
      (cmp_compares (toLex (toLex a.numberPlace, left)) (toLex (toLex b.numberPlace, right)))
    rw [hthen] at hkeys ⊢
    exact hkeys

/-- Whole numbers are compared as numbers. -/
theorem Value.compares_integer (collation : Collation) (m n : Int) :
    (Value.order collation (.integer m) (.integer n)).Compares m n := by
  show (compareOfLessAndEq (m : Rat) (n : Rat)).Compares m n
  unfold compareOfLessAndEq
  split_ifs with hless hsame
  · exact Int.cast_lt.1 hless
  · exact Int.cast_inj.1 hsame
  · exact lt_of_le_of_ne (Int.cast_le.1 (not_lt.1 hless)) fun h => hsame (h ▸ rfl)

/-- What a value is put in order by if its text has a key: its kind, its place if it is a number, and
that key. -/
def Value.keyBy {κ : Type} (key : String → κ) (other : κ) (value : Value) :
    Nat ×ₗ (Int ×ₗ Rat) ×ₗ κ :=
  toLex (value.rank, toLex (toLex value.numberPlace,
    match value with
    | .text s => key s
    | _ => other))

/-- Values are compared by these keys if texts are compared by theirs. -/
theorem Value.compares_key_by {κ : Type} [LinearOrder κ] {collation : Collation}
    {key : String → κ} (h : ∀ s t, (collation.order s t).Compares (key s) (key t)) (other : κ)
    (a b : Value) : (Value.order collation a b).Compares (a.keyBy key other) (b.keyBy key other) := by
  by_cases htext : a.rank = 2 ∧ b.rank = 2
  · obtain ⟨s, rfl⟩ : ∃ s, a = .text s := by
      cases a <;> simp_all [rank]
    obtain ⟨t, rfl⟩ : ∃ t, b = .text t := by
      cases b <;> simp_all [rank]
    have horder : Value.order collation (.text s) (.text t) =
        Ordering.eq.then (Ordering.eq.then (collation.order s t)) := rfl
    rw [horder]
    exact compares_to_lex rfl (compares_to_lex rfl (h s t))
  · have horder : Value.order collation a b =
        (compare a.rank b.rank).then (placeOrder a.numberPlace b.numberPlace) := by
      unfold order
      split
      · exact absurd ⟨rfl, rfl⟩ htext
      · rfl
    rw [horder]
    refine Value.compares_place a b fun hrank => ?_
    -- Values of one kind that are not both texts are not texts at all.
    cases a <;> cases b <;> simp_all [rank]

/-- Without regard to case, values are compared by their keys. -/
theorem Value.compares_order_key (a b : Value) :
    (Value.order .noCase a b).Compares (a.orderKey beforeNul) (b.orderKey beforeNul) :=
  Value.compares_key_by compares_text_key (toLex ([], 0)) a b

end CardBrowser.Sql
