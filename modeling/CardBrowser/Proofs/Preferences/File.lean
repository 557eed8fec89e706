import Mathlib
import CardBrowser.Preferences.File
import CardBrowser.Proofs.Json.ReadBack

/-!
# Preference files

A file whose values can be written is read back with the values that it held, `reopen_flush`. Every
file that can be opened is such a file, `writable_of_open`, and stays one while values are set that
are nested less deeply than a text may be, `writable_set_all`. One value that is nested more deeply
makes all of them unreadable: `reopen_flush_of_deep`.
-/

namespace CardBrowser.PreferenceFile

open CardBrowser.Json

variable {path key : String} {content : FileContent} {file : PreferenceFile} {value : Json.Value}
  {calls : List (String × Json.Value)}

/-! ## Calls -/

/-- Sets values one after the other. -/
def setAll (file : PreferenceFile) (calls : List (String × Json.Value)) : PreferenceFile :=
  calls.foldl (fun file (key, value) =>
    PreferenceStore.withValues ((PreferenceStore.values file).set key value) file) file

/-- The values of a file can be written so that they are read again. -/
structure Writable (file : PreferenceFile) : Prop where
  wellFormed : (Value.object file.values).WellFormed
  depth : (Value.object file.values).depth ≤ depthLimit

/-- A value can be set without making a file unreadable. -/
structure Settable (value : Json.Value) : Prop where
  wellFormed : value.WellFormed
  depth : value.depth < depthLimit

/-- Setting a value keeps a file writable. -/
theorem Writable.set (hfile : file.Writable) (hvalue : Settable value) (key : String) :
    Writable { file with values := file.values.set key value } := by
  obtain ⟨⟨hordered, hmembers⟩, hdepth⟩ := hfile
  have hdepth := Value.members_depth_le_iff.1 (Nat.le_of_succ_le_succ hdepth)
  rw [Value.members_well_formed_iff] at hmembers
  refine ⟨⟨Members.pairwise_set hordered key value, Value.members_well_formed_iff.2 ?_⟩,
    Nat.succ_le_succ (Value.members_depth_le_iff.2 ?_)⟩
  · intro member hmem
    rcases Members.mem_set hmem with rfl | hmem
    · exact hvalue.wellFormed
    · exact hmembers member hmem
  · intro member hmem
    rcases Members.mem_set hmem with rfl | hmem
    · exact Nat.le_of_lt_succ hvalue.depth
    · exact hdepth member hmem

/-- Setting values keeps a file writable. -/
theorem writable_set_all (hfile : file.Writable) (hcalls : ∀ call ∈ calls, Settable call.2) :
    (file.setAll calls).Writable := by
  induction calls generalizing file with
  | nil => exact hfile
  | cons call calls ih =>
      obtain ⟨hcall, hcalls⟩ := List.forall_mem_cons.1 hcalls
      exact ih (hfile.set hcall call.1) hcalls

/-- The values under other keys stay as they are. -/
theorem get_set_all_of_not_mem (file : PreferenceFile) (h : key ∉ calls.map Prod.fst) :
    (file.setAll calls).values.get? key = file.values.get? key := by
  induction calls generalizing file with
  | nil => rfl
  | cons call calls ih =>
      rw [List.map_cons, List.mem_cons, not_or] at h
      exact (ih _ h.2).trans (Members.get_set_of_ne h.1 call.2 file.values)

/-! ## Opening and flushing -/

/-- A text that is no object has no values. -/
theorem values_of_eq_nil {text : String}
    (h : ∀ members, Value.ofText? text ≠ some (.object members)) : valuesOf text = [] := by
  unfold valuesOf
  split
  · rename_i members heq
    exact absurd heq (h members)
  · rfl

/-- A file without values can be written. -/
theorem writable_empty (path : String) (content : FileContent) : Writable ⟨path, content, []⟩ where
  wellFormed := ⟨List.Pairwise.nil, trivial⟩
  depth := (by decide : 1 ≤ depthLimit)

/-- The values of a file that has been opened can be written again. -/
theorem writable_of_open (h : open? path content = .ok file) : file.Writable := by
  cases content with
  | missing => exact Except.ok.inj h ▸ writable_empty path _
  | unreachable => exact Except.ok.inj h ▸ writable_empty path _
  | text written =>
      obtain rfl := Except.ok.inj h
      unfold valuesOf
      split
      · rename_i members heq
        obtain ⟨hvalue, hdepth⟩ := Value.of_text_spec heq
        exact ⟨hvalue, hdepth⟩
      · exact writable_empty path _
  | binary => cases h
  | directory => cases h

/-- What has been flushed stands in the file. -/
theorem flush_eq_ok (h : file.flush.1 = .ok ()) :
    file.flush.2 = { file with content := .text (Value.object file.values).pretty } := by
  unfold flush at h ⊢
  split at h
  · cases h
  · cases h
  · rfl

/-- The values of a written object are those that are read back, or none if it is nested too
deeply. -/
theorem values_of_pretty (values : Members) (h : (Value.object values).WellFormed) :
    valuesOf (Value.object values).pretty =
      if (Value.object values).depth ≤ depthLimit then Value.rereadMembers values else [] := by
  unfold valuesOf
  rw [Value.of_text_pretty h]
  split_ifs <;> rfl

/-- A file that has been flushed is opened again with the values that it had, read back. -/
theorem reopen_flush (hfile : file.Writable) (hflush : file.flush.1 = .ok ()) :
    ∃ again, file.flush.2.reopen = .ok again ∧ again.values = Value.rereadMembers file.values := by
  rw [flush_eq_ok hflush]
  exact ⟨_, rfl, (values_of_pretty _ hfile.wellFormed).trans (if_pos hfile.depth)⟩

/-- A file whose values are nested too deeply is flushed all the same, and opened again without any
of them. -/
theorem reopen_flush_of_deep (h : (Value.object file.values).WellFormed)
    (hdepth : depthLimit < (Value.object file.values).depth) (hflush : file.flush.1 = .ok ()) :
    ∃ again, file.flush.2.reopen = .ok again ∧ again.values = [] := by
  rw [flush_eq_ok hflush]
  exact ⟨_, rfl, (values_of_pretty _ h).trans (if_neg (not_le.2 hdepth))⟩

/-! ## Round trips -/

/-- After values have been set and flushed, the file is opened again and every key has the value
that it had, except that its floating-point numbers are those that their digits are read as. So
nothing changes where they are read back as themselves, as is the case if there are none, and the
values of other programs stay. A text that is no object counts as an empty file. -/
theorem set_values_found_again (hopen : open? path content = .ok file)
    (hcalls : ∀ call ∈ calls, Settable call.2) (hflush : (file.setAll calls).flush.1 = .ok ()) :
    (∃ again, (file.setAll calls).flush.2.reopen = .ok again ∧ ∀ key,
      again.values.get? key = ((file.setAll calls).values.get? key).map Value.reread ∧
      ((∀ value, (file.setAll calls).values.get? key = some value →
          ∀ x ∈ value.floats, x.reread = x) →
        again.values.get? key = (file.setAll calls).values.get? key) ∧
      (key ∉ calls.map Prod.fst →
        (file.setAll calls).values.get? key = file.values.get? key)) ∧
    ∀ path text, (∀ members, Value.ofText? text ≠ some (.object members)) →
      open? path (.text text) = .ok ⟨path, .text text, []⟩ := by
  refine ⟨?_, fun path text htext => ?_⟩
  · have hfile := writable_set_all (writable_of_open hopen) hcalls
    obtain ⟨again, hreopen, hvalues⟩ := reopen_flush hfile hflush
    have hget : ∀ key, again.values.get? key =
        ((file.setAll calls).values.get? key).map Value.reread := by
      intro key
      rw [hvalues]
      exact Value.get_reread key _
    refine ⟨again, hreopen, fun key => ⟨hget key, fun hfloats => ?_, get_set_all_of_not_mem file⟩⟩
    rw [hget key]
    cases hvalue : (file.setAll calls).values.get? key with
    | none => rfl
    | some value => exact congrArg some (Value.reread_of_floats value (hfloats value hvalue))
  · exact congrArg (fun values => Except.ok (PreferenceFile.mk path (.text text) values))
      (values_of_eq_nil htext)

/-- The file of another program. -/
def themeFile : PreferenceFile :=
  ⟨"prefs.json", .text "\x7b\n  \"theme\": \"dark\"\n\x7d", [("theme", .string "dark")]⟩

/-- The file is opened with its value. -/
theorem open_theme_file : open? themeFile.path themeFile.content = .ok themeFile := by
  have hwritten : (Value.object themeFile.values).pretty =
      "\x7b\n  \"theme\": \"dark\"\n\x7d" := by decide +kernel
  have hvalues : valuesOf "\x7b\n  \"theme\": \"dark\"\n\x7d" = themeFile.values := by
    rw [← hwritten, values_of_pretty themeFile.values
      ⟨List.pairwise_singleton _ _, trivial, trivial⟩]
    rfl
  exact congrArg (fun values => Except.ok (PreferenceFile.mk "prefs.json" (.text _) values)) hvalues

/-- A value that is set in the file of another program is found again, and so is the value that was
there. -/
theorem set_values_found_again_with_theme :
    ∃ again, (themeFile.setAll
        [("uniqueNotes", .array [.bool true, .integer (-1)])]).flush.2.reopen = .ok again ∧
      again.values.get? "theme" = some (.string "dark") ∧
      again.values.get? "uniqueNotes" = some (.array [.bool true, .integer (-1)]) := by
  have hcalls : ∀ call ∈ [("uniqueNotes", Value.array [.bool true, .integer (-1)])],
      Settable call.2 := by
    intro call hmem
    rw [List.mem_singleton.1 hmem]
    exact ⟨⟨trivial, ⟨by decide, by decide⟩, trivial⟩, by decide⟩
  obtain ⟨⟨again, hreopen, hget⟩, -⟩ := set_values_found_again open_theme_file hcalls rfl
  exact ⟨again, hreopen, (hget "theme").1, (hget "uniqueNotes").1⟩

/-- A floating-point value, if there is one. -/
def numberOf? : Option Json.Value → Option Binary64
  | some (.float x) => some x
  | _ => none

/-- The value of another program need not be found again: `1e-24` is read as a number whose shortest
digits are `1.0000000000000001e-24`, and these are read as the number below it. -/
theorem float_not_found_again : ¬ ∀ (path : String) (content : FileContent) (file : PreferenceFile)
    (calls : List (String × Json.Value)), open? path content = .ok file →
      (∀ call ∈ calls, Settable call.2 ∧ call.2.floats = []) →
      (file.setAll calls).flush.1 = .ok () →
      ∃ again, (file.setAll calls).flush.2.reopen = .ok again ∧
        ∀ key, again.values.get? key = (file.setAll calls).values.get? key := by
  intro h
  obtain ⟨again, hreopen, hget⟩ :=
    h "prefs.json" (.text "\x7b\"scale\": 1e-24\x7d") _ [] rfl nofun rfl
  obtain rfl := Except.ok.inj hreopen
  exact absurd (congrArg numberOf? (hget "scale")) (by decide +kernel)

end CardBrowser.PreferenceFile
