import Mathlib
import CardBrowser.Proofs.Json.Float
import CardBrowser.Proofs.Json.Reading
import CardBrowser.Proofs.Preferences.Saved

/-!
# Values that are read back

A value that is well-formed is read back from its text, except that each floating-point number
becomes the one that its digits are read as: `of_text_pretty`. A value that is nested more deeply
than a text may be is not read back at all. Whatever value is read from a text is well-formed and no
deeper than that, `of_text_spec`, so it can be written and read again.
-/

namespace CardBrowser

/-- The number that is read from the text of a number. -/
def Binary64.reread (x : Binary64) : Binary64 :=
  match Json.Value.ofText? x.jsonText with
  | some (.float y) => y
  | _ => x

namespace Json

variable {members : Members} {name : String} {value : Value}

/-! ## Members in order -/

namespace Members

/-- A member that comes after all others is added behind them. -/
theorem set_of_forall_lt (h : ∀ key ∈ members.map Prod.fst, key < name) (value : Value) :
    members.set name value = members ++ [(name, value)] := by
  induction members with
  | nil => rfl
  | cons member members ih =>
      obtain ⟨key, old⟩ := member
      rw [List.map_cons, List.forall_mem_cons] at h
      unfold set
      rw [if_neg (lt_asymm h.1), if_neg h.1.ne, ih h.2]
      rfl

/-- After a member is set there are no others but it and those that there were. -/
theorem mem_set {member : String × Value} (h : member ∈ members.set name value) :
    member = (name, value) ∨ member ∈ members := by
  induction members with
  | nil => exact Or.inl (List.mem_singleton.1 h)
  | cons first members ih =>
      obtain ⟨key, old⟩ := first
      unfold set at h
      split_ifs at h with hlt heq
      · exact List.mem_cons.1 h
      · exact (List.mem_cons.1 h).imp_right (List.mem_cons_of_mem _)
      · rcases List.mem_cons.1 h with rfl | h
        · exact Or.inr List.mem_cons_self
        · exact (ih h).imp_right (List.mem_cons_of_mem _)

/-- Setting a member keeps the order of the names. -/
theorem pairwise_set (h : (members.map Prod.fst).Pairwise (· < ·)) (name : String) (value : Value) :
    ((members.set name value).map Prod.fst).Pairwise (· < ·) := by
  induction members with
  | nil => exact List.pairwise_singleton _ _
  | cons member members ih =>
      obtain ⟨key, old⟩ := member
      obtain ⟨hfirst, hrest⟩ := List.pairwise_cons.1 h
      unfold set
      split_ifs with hlt heq
      · refine List.pairwise_cons.2 ⟨fun other hmem => ?_, h⟩
        rcases List.mem_cons.1 hmem with rfl | hmem
        · exact hlt
        · exact hlt.trans (hfirst other hmem)
      · subst heq
        exact h
      · refine List.pairwise_cons.2 ⟨fun other hmem => ?_, ih hrest⟩
        obtain ⟨found, hfound, rfl⟩ := List.mem_map.1 hmem
        rcases mem_set hfound with rfl | hfound
        · exact lt_of_le_of_ne (not_lt.1 hlt) heq
        · exact hfirst _ (List.mem_map_of_mem hfound)

/-- Members that are in order are added one behind the other. -/
theorem fold_set_of_pairwise (later : Members)
    (h : ((members ++ later).map Prod.fst).Pairwise (· < ·)) :
    later.foldl (fun members (name, value) => set name value members) members =
      members ++ later := by
  induction later generalizing members with
  | nil => exact (List.append_nil _).symm
  | cons member later ih =>
      obtain ⟨name, value⟩ := member
      have hlast : ∀ key ∈ members.map Prod.fst, key < name := by
        rw [List.map_append, List.pairwise_append] at h
        exact fun key hmem => h.2.2 key hmem name List.mem_cons_self
      rw [List.foldl_cons]
      dsimp only
      rw [set_of_forall_lt hlast, ih (by simpa using h), List.append_assoc]
      rfl

/-- Members that are in order make an object of themselves. -/
theorem of_list_of_pairwise (h : (members.map Prod.fst).Pairwise (· < ·)) :
    ofList members = members :=
  fold_set_of_pairwise members h

/-- The members that a list makes are in order. -/
theorem pairwise_of_list (pairs : List (String × Value)) :
    ((ofList pairs).map Prod.fst).Pairwise (· < ·) := by
  unfold ofList
  induction pairs using List.reverseRecOn with
  | nil => exact List.Pairwise.nil
  | append_singleton pairs pair ih =>
      rw [List.foldl_append]
      exact pairwise_set ih pair.1 pair.2

/-- The members that a list makes are among those of the list. -/
theorem mem_of_list {pairs : List (String × Value)} {member : String × Value}
    (h : member ∈ ofList pairs) : member ∈ pairs := by
  unfold ofList at h
  induction pairs using List.reverseRecOn with
  | nil => exact h
  | append_singleton pairs pair ih =>
      rw [List.foldl_append] at h
      rcases mem_set h with rfl | h
      · exact List.mem_append_right _ (List.mem_singleton_self _)
      · exact List.mem_append_left _ (ih h)

end Members

namespace Value

/-! ## Well-formed values -/

mutual

/-- Whether whole numbers fit in words of 64 bits, floating-point numbers are finite, and members
are in the order of their names. -/
def WellFormed : Value → Prop
  | integer n => FitsWord n
  | float x => x.IsFinite
  | array items => ItemsWellFormed items
  | object members => (members.map Prod.fst).Pairwise (· < ·) ∧ MembersWellFormed members
  | _ => True

/-- Whether all items are well-formed. -/
def ItemsWellFormed : List Value → Prop
  | [] => True
  | item :: rest => item.WellFormed ∧ ItemsWellFormed rest

/-- Whether the values of all members are well-formed. -/
def MembersWellFormed : List (String × Value) → Prop
  | [] => True
  | (_, value) :: rest => value.WellFormed ∧ MembersWellFormed rest

end

mutual

/-- How deeply arrays and objects are nested. -/
def depth : Value → Nat
  | array items => itemsDepth items + 1
  | object members => membersDepth members + 1
  | _ => 0

/-- The greatest depth of the items. -/
def itemsDepth : List Value → Nat
  | [] => 0
  | item :: rest => max item.depth (itemsDepth rest)

/-- The greatest depth of the members. -/
def membersDepth : List (String × Value) → Nat
  | [] => 0
  | (_, value) :: rest => max value.depth (membersDepth rest)

end

mutual

/-- The value with the floating-point numbers that theirs are read as. -/
def reread : Value → Value
  | float x => float x.reread
  | array items => array (rereadItems items)
  | object members => object (rereadMembers members)
  | value => value

/-- The items with the floating-point numbers that theirs are read as. -/
def rereadItems : List Value → List Value
  | [] => []
  | item :: rest => item.reread :: rereadItems rest

/-- The members with the floating-point numbers that theirs are read as. -/
def rereadMembers : List (String × Value) → List (String × Value)
  | [] => []
  | (name, value) :: rest => (name, value.reread) :: rereadMembers rest

end

mutual

/-- The floating-point numbers of a value. -/
def floats : Value → List Binary64
  | float x => [x]
  | array items => itemsFloats items
  | object members => membersFloats members
  | _ => []

/-- The floating-point numbers of the items. -/
def itemsFloats : List Value → List Binary64
  | [] => []
  | item :: rest => item.floats ++ itemsFloats rest

/-- The floating-point numbers of the members. -/
def membersFloats : List (String × Value) → List Binary64
  | [] => []
  | (_, value) :: rest => value.floats ++ membersFloats rest

end

mutual

/-- The tree that the text of a value is read as. -/
def node : Value → Node
  | null => .null
  | bool value => .bool value
  | integer n => .number (.ofInt n)
  | float x => .number (.ofFloat x)
  | string text => .string (piecesOf text)
  | array items => .array (itemNodes items)
  | object members => .object (memberNodes members)

/-- The trees of the items. -/
def itemNodes : List Value → List Node
  | [] => []
  | item :: rest => item.node :: itemNodes rest

/-- The trees of the members. -/
def memberNodes : List (String × Value) → List (List Piece × Node)
  | [] => []
  | (name, value) :: rest => (piecesOf name, value.node) :: memberNodes rest

end

/-! ## Reading texts -/

mutual

/-- A value is written so that it is read as its tree. -/
theorem reads_pretty (level : Nat) : ∀ value : Value, value.WellFormed →
    Reads (value.prettyAt level).toList value.node
  | null, _ => reads_null
  | bool true, _ => reads_bool true
  | bool false, _ => reads_bool false
  | integer n, _ => by
      rw [prettyAt, node, ← Numeral.text_of_int]
      exact reads_numeral (Numeral.well_formed_of_int n)
  | float x, h => by
      rw [prettyAt, node, ← Numeral.text_of_float h]
      exact reads_numeral (Numeral.well_formed_of_float h)
  | string text, _ => reads_string text
  | array items, h => by
      rw [prettyAt, node]
      exact reads_array level (reads_pretty_items (level + 1) items h)
  | object members, h => by
      rw [prettyAt, node]
      exact reads_object level (reads_pretty_members (level + 1) members h.2)

/-- Items are written so that they are read as their trees. -/
theorem reads_pretty_items (level : Nat) : ∀ items : List Value, ItemsWellFormed items →
    List.Forall₂ Reads ((prettyItems level items).map String.toList) (itemNodes items)
  | [], _ => .nil
  | item :: rest, h => .cons (reads_pretty level item h.1) (reads_pretty_items level rest h.2)

/-- Members are written so that they are read as their trees. -/
theorem reads_pretty_members (level : Nat) : ∀ members : List (String × Value),
    MembersWellFormed members →
    List.Forall₂ ReadsMember ((prettyMembers level members).map String.toList) (memberNodes members)
  | [], _ => .nil
  | (name, value) :: rest, h => by
      refine .cons ⟨name, (value.prettyAt level).toList, ?_, rfl, reads_pretty level value h.1⟩
        (reads_pretty_members level rest h.2)
      rw [String.toList_append, String.toList_append]
      simp

end

/-- A text that is read as a tree is read as that tree alone. -/
theorem node_of_reads {text : String} {node : Node} (h : Reads text.toList node) :
    Node.ofText? text = some node := by
  have hread := h.read (text.toList.length + 1) [] (Nat.le_succ _) rfl
  rw [List.append_nil] at hread
  unfold Node.ofText?
  rw [hread]
  rfl

/-- The text of a finite number is read as a floating-point number. -/
theorem of_json_text {x : Binary64} (h : x.IsFinite) :
    ofText? x.jsonText = (Numeral.ofFloat x).float?.map float := by
  have hnode : Node.ofText? x.jsonText = some (.number (.ofFloat x)) :=
    node_of_reads (reads_pretty 0 (float x) h)
  have hvalue : (Node.number (.ofFloat x)).value? = (Numeral.ofFloat x).float?.map float := by
    rw [Node.value?, Numeral.value?, Numeral.integer_of_float]
  unfold ofText?
  rw [hnode, Option.bind_some, hvalue]
  rfl

/-- A finite number is read back as `reread` says. -/
theorem float_of_finite {x : Binary64} (h : x.IsFinite) :
    (Numeral.ofFloat x).float? = some x.reread := by
  obtain ⟨y, hy⟩ := Option.isSome_iff_exists.1 (Numeral.float_of_float h)
  unfold Binary64.reread
  rw [of_json_text h, hy]
  rfl

mutual

/-- The tree of a value is as deep as it. -/
theorem depth_node : ∀ value : Value, value.node.depth = value.depth
  | null => rfl
  | bool _ => rfl
  | integer _ => rfl
  | float _ => rfl
  | string _ => rfl
  | array items => congrArg (· + 1) (depth_item_nodes items)
  | object members => congrArg (· + 1) (depth_member_nodes members)

/-- The trees of items are as deep as they. -/
theorem depth_item_nodes : ∀ items : List Value,
    Node.itemsDepth (itemNodes items) = itemsDepth items
  | [] => rfl
  | item :: rest => congrArg₂ max (depth_node item) (depth_item_nodes rest)

/-- The trees of members are as deep as they. -/
theorem depth_member_nodes : ∀ members : List (String × Value),
    Node.membersDepth (memberNodes members) = membersDepth members
  | [] => rfl
  | (_, value) :: rest => congrArg₂ max (depth_node value) (depth_member_nodes rest)

end

/-- The names of members stay. -/
theorem names_reread (members : Members) :
    (rereadMembers members).map Prod.fst = members.map Prod.fst := by
  induction members with
  | nil => rfl
  | cons member members ih => exact congrArg (member.1 :: ·) ih

mutual

/-- The tree of a value stands for the value that is read back. -/
theorem value_of_node : ∀ value : Value, value.WellFormed → value.node.value? = some value.reread
  | null, _ => rfl
  | bool _, _ => rfl
  | integer n, h => by
      rw [node, Node.value?, Numeral.value?, Numeral.integer_of_int h]
      rfl
  | float x, h => by
      rw [node, Node.value?, Numeral.value?, Numeral.integer_of_float]
      dsimp only
      rw [float_of_finite h]
      rfl
  | string text, _ => by
      rw [node, Node.value?, piecesOf, piece_text_of_pieces, Option.map_some, String.ofList_toList]
      rfl
  | array items, h => by
      rw [node, Node.value?, values_of_item_nodes items h]
      rfl
  | object members, h => by
      rw [node, Node.value?, values_of_member_nodes members h.2, Option.map_some,
        Members.of_list_of_pairwise (by rw [names_reread]; exact h.1)]
      rfl

/-- The trees of items stand for the values that are read back. -/
theorem values_of_item_nodes : ∀ items : List Value, ItemsWellFormed items →
    Node.itemValues? (itemNodes items) = some (rereadItems items)
  | [], _ => rfl
  | item :: rest, h => by
      rw [itemNodes, Node.itemValues?, value_of_node item h.1, values_of_item_nodes rest h.2]
      rfl

/-- The trees of members stand for the values that are read back. -/
theorem values_of_member_nodes : ∀ members : List (String × Value), MembersWellFormed members →
    Node.memberValues? (memberNodes members) = some (rereadMembers members)
  | [], _ => rfl
  | (name, value) :: rest, h => by
      rw [memberNodes, Node.memberValues?, piecesOf, piece_text_of_pieces, value_of_node value h.1,
        values_of_member_nodes rest h.2]
      simp [rereadMembers]

end

/-- A well-formed value is read back from its text exactly if a text may be nested so deeply. -/
theorem of_text_pretty (h : value.WellFormed) :
    ofText? value.pretty = if value.depth ≤ depthLimit then some value.reread else none := by
  unfold ofText?
  rw [pretty, node_of_reads (reads_pretty 0 value h), Option.bind_some, depth_node,
    value_of_node value h]

mutual

/-- A value whose floating-point numbers are read back as themselves is read back as itself. -/
theorem reread_of_floats : ∀ value : Value,
    (∀ x ∈ value.floats, x.reread = x) → value.reread = value
  | null, _ => rfl
  | bool _, _ => rfl
  | integer _, _ => rfl
  | float x, h => congrArg float (h x (List.mem_singleton_self x))
  | string _, _ => rfl
  | array items, h => congrArg array (reread_items_of_floats items h)
  | object members, h => congrArg object (reread_members_of_floats members h)

/-- Items whose floating-point numbers are read back as themselves are read back as themselves. -/
theorem reread_items_of_floats : ∀ items : List Value,
    (∀ x ∈ itemsFloats items, x.reread = x) → rereadItems items = items
  | [], _ => rfl
  | item :: rest, h => by
      obtain ⟨hitem, hrest⟩ := List.forall_mem_append.1 h
      exact congrArg₂ List.cons (reread_of_floats item hitem) (reread_items_of_floats rest hrest)

/-- Members whose floating-point numbers are read back as themselves are read back as themselves. -/
theorem reread_members_of_floats : ∀ members : List (String × Value),
    (∀ x ∈ membersFloats members, x.reread = x) → rereadMembers members = members
  | [], _ => rfl
  | (name, value) :: rest, h => by
      obtain ⟨hvalue, hrest⟩ := List.forall_mem_append.1 h
      rw [rereadMembers, reread_of_floats value hvalue, reread_members_of_floats rest hrest]

end

/-- A member is read back under its name. -/
theorem get_reread (name : String) (members : Members) :
    Members.get? name (rereadMembers members) = (members.get? name).map reread := by
  induction members with
  | nil => rfl
  | cons member members ih =>
      obtain ⟨key, value⟩ := member
      rw [rereadMembers, Members.get?, Members.get?]
      split_ifs with heq
      · rfl
      · exact ih

/-! ## Values that are read -/

/-- Members are well-formed if their values are. -/
theorem members_well_formed_iff :
    MembersWellFormed members ↔ ∀ member ∈ members, member.2.WellFormed := by
  induction members with
  | nil => exact ⟨nofun, fun _ => trivial⟩
  | cons member members ih =>
      rw [List.forall_mem_cons, ← ih]
      exact Iff.rfl

/-- Members are no deeper than a limit if their values are not. -/
theorem members_depth_le_iff {limit : Nat} :
    membersDepth members ≤ limit ↔ ∀ member ∈ members, member.2.depth ≤ limit := by
  induction members with
  | nil => exact ⟨nofun, fun _ => Nat.zero_le limit⟩
  | cons member members ih =>
      rw [List.forall_mem_cons, ← ih]
      exact max_le_iff

/-- A numeral stands for a well-formed value without depth. -/
theorem value_of_numeral {numeral : Numeral} (h : numeral.value? = some value) :
    value.WellFormed ∧ value.depth ≤ 0 := by
  unfold Numeral.value? at h
  split at h
  · rename_i n hinteger
    obtain rfl := Option.some.inj h
    exact ⟨Numeral.fits_of_integer hinteger, le_rfl⟩
  · obtain ⟨x, hx, rfl⟩ := Option.map_eq_some_iff.1 h
    exact ⟨Numeral.is_finite_of_float hx, le_rfl⟩

mutual

/-- The value of a tree is well-formed and no deeper than the tree. -/
theorem value_of_tree : ∀ {node : Node} {value : Value}, node.value? = some value →
    value.WellFormed ∧ value.depth ≤ node.depth
  | .null, _, h => by
      obtain rfl := Option.some.inj h
      exact ⟨trivial, le_rfl⟩
  | .bool _, _, h => by
      obtain rfl := Option.some.inj h
      exact ⟨trivial, le_rfl⟩
  | .number numeral, _, h => value_of_numeral h
  | .string pieces, _, h => by
      obtain ⟨text, -, rfl⟩ := Option.map_eq_some_iff.1 h
      exact ⟨trivial, le_rfl⟩
  | .array items, _, h => by
      obtain ⟨values, hvalues, rfl⟩ := Option.map_eq_some_iff.1 h
      exact (values_of_items hvalues).imp id Nat.succ_le_succ
  | .object trees, _, h => by
      obtain ⟨pairs, hpairs, rfl⟩ := Option.map_eq_some_iff.1 h
      obtain ⟨hvalues, hdepth⟩ := values_of_members hpairs
      rw [members_well_formed_iff] at hvalues
      rw [members_depth_le_iff] at hdepth
      refine ⟨⟨Members.pairwise_of_list pairs, members_well_formed_iff.2 fun member hmem =>
        hvalues member (Members.mem_of_list hmem)⟩, Nat.succ_le_succ ?_⟩
      exact members_depth_le_iff.2 fun member hmem => hdepth member (Members.mem_of_list hmem)

/-- The values of items are well-formed and no deeper than the items. -/
theorem values_of_items : ∀ {items : List Node} {values : List Value},
    Node.itemValues? items = some values →
    ItemsWellFormed values ∧ itemsDepth values ≤ Node.itemsDepth items
  | [], _, h => by
      obtain rfl := Option.some.inj h
      exact ⟨trivial, le_rfl⟩
  | item :: rest, _, h => by
      obtain ⟨value, hvalue, h⟩ := Option.bind_eq_some_iff.1 h
      obtain ⟨values, hvalues, h⟩ := Option.bind_eq_some_iff.1 h
      obtain rfl := Option.some.inj h
      obtain ⟨hitem, hitemDepth⟩ := value_of_tree hvalue
      obtain ⟨hrest, hrestDepth⟩ := values_of_items hvalues
      exact ⟨⟨hitem, hrest⟩, max_le_max hitemDepth hrestDepth⟩

/-- The values of members are well-formed and no deeper than the members. -/
theorem values_of_members : ∀ {trees : List (List Piece × Node)} {pairs : List (String × Value)},
    Node.memberValues? trees = some pairs →
    MembersWellFormed pairs ∧ membersDepth pairs ≤ Node.membersDepth trees
  | [], _, h => by
      obtain rfl := Option.some.inj h
      exact ⟨trivial, le_rfl⟩
  | (name, tree) :: rest, _, h => by
      obtain ⟨text, -, h⟩ := Option.bind_eq_some_iff.1 h
      obtain ⟨value, hvalue, h⟩ := Option.bind_eq_some_iff.1 h
      obtain ⟨pairs, hpairs, h⟩ := Option.bind_eq_some_iff.1 h
      obtain rfl := Option.some.inj h
      obtain ⟨hmember, hmemberDepth⟩ := value_of_tree hvalue
      obtain ⟨hrest, hrestDepth⟩ := values_of_members hpairs
      exact ⟨⟨hmember, hrest⟩, max_le_max hmemberDepth hrestDepth⟩

end

/-- A value that is read from a text is well-formed and no deeper than a text may be nested. -/
theorem of_text_spec {text : String} (h : ofText? text = some value) :
    value.WellFormed ∧ value.depth ≤ depthLimit := by
  obtain ⟨node, -, h⟩ := Option.bind_eq_some_iff.1 h
  split_ifs at h with hdepth
  obtain ⟨hvalue, hless⟩ := value_of_tree h
  exact ⟨hvalue, hless.trans hdepth⟩

end Value

end Json

end CardBrowser
