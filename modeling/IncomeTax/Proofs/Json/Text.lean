import IncomeTax.Proofs.Json.Token

/-!
# Documents read back from text

A document whose numbers are whole ones of at most 64 bits is read back from either of its written
forms. The two forms differ in the blanks between tokens only, so what is said about a written list
or object holds for all such blanks.

## Main definitions

* `Json.Spells` — a text that is read as the document wherever a value may stand
* `Json.Layout` — the blanks in a written list or object
* `Json.Plain` — the documents with such numbers only

## Main results

* `Json.Layout.spells_array`, `Json.Layout.spells_object` — lists and objects with any blanks
* `Json.Plain.parse?_compact`, `Json.Plain.parse?_pretty` — what is written is read back
-/

namespace IncomeTax.Json

open Text (isDigit numeral)

variable {c : Char} {cs gap rest after : List Char} {fuel : ℕ}

/-! ### Values -/

theorem skipSpace_append (blank : ∀ c ∈ gap, isSpace c = true) (cs : List Char) :
    skipSpace (gap ++ cs) = skipSpace cs := List.dropWhile_append_of_pos blank

theorem readValue_append (blank : ∀ c ∈ gap, isSpace c = true) (fuel : ℕ) (cs : List Char) :
    readValue fuel (gap ++ cs) = readValue fuel cs := by
  cases fuel with
  | zero => rfl
  | succ fuel => rw [readValue, readValue, skipSpace_append blank]

theorem readItems_append (blank : ∀ c ∈ gap, isSpace c = true) (fuel : ℕ) (cs : List Char) :
    readItems fuel (gap ++ cs) = readItems fuel cs := by
  cases fuel with
  | zero => rfl
  | succ fuel => rw [readItems, readItems, readValue_append blank]

theorem readMembers_append (blank : ∀ c ∈ gap, isSpace c = true) (fuel : ℕ) (cs : List Char) :
    readMembers fuel (gap ++ cs) = readMembers fuel cs := by
  cases fuel with
  | zero => rfl
  | succ fuel => rw [readMembers, readMembers, skipSpace_append blank]

/-- The text is read as the document wherever a value may stand. It starts with no blank, and with
nothing that would end a list. -/
structure Spells (cs : List Char) (j : Json) : Prop where
  starts : ∃ c ∈ cs.head?, isSpace c = false ∧ c ≠ ']'
  reads : ∀ fuel after, cs.length ≤ fuel → Delimits after →
    readValue fuel (cs ++ after) = some (j, after)

theorem Spells.skipSpace {j : Json} (spells : Spells cs j) (rest : List Char) :
    Json.skipSpace (cs ++ rest) = cs ++ rest := by
  obtain ⟨c, head, visible, -⟩ := spells.starts
  obtain ⟨more, rfl⟩ := List.head?_eq_some_iff.1 head
  exact List.dropWhile_cons_of_neg (by simp [visible])

/-- Some call is left for a text that is not empty. -/
theorem Spells.of_head {j : Json} (head : cs.head? = some c) (visible : isSpace c = false)
    (other : c ≠ ']') (reads : ∀ fuel after, cs.length ≤ fuel + 1 → Delimits after →
      readValue (fuel + 1) (cs ++ after) = some (j, after)) : Spells cs j where
  starts := ⟨c, head, visible, other⟩
  reads fuel after enough delimits := by
    cases fuel with
    | zero =>
      rw [List.eq_nil_of_length_eq_zero (Nat.le_zero.1 enough)] at head
      cases head
    | succ fuel => exact reads fuel after enough delimits

theorem spells_null : Spells "null".toList .null :=
  .of_head rfl rfl (by decide) fun _ _ _ _ => rfl

theorem spells_true : Spells "true".toList (.bool true) :=
  .of_head rfl rfl (by decide) fun _ _ _ _ => rfl

theorem spells_false : Spells "false".toList (.bool false) :=
  .of_head rfl rfl (by decide) fun _ _ _ _ => rfl

theorem quoted_append (s : String) (after : List Char) :
    quoted s ++ after = '"' :: (s.toList.flatMap escapeChar ++ '"' :: after) := by
  simp [quoted]

theorem spells_quoted (s : String) : Spells (quoted s) (.string s) := by
  refine .of_head rfl rfl (by decide) fun fuel after _ _ => ?_
  rw [quoted_append, readValue]
  change (readText _).map _ = _
  rw [readText_flatMap]
  rfl

/-- What starts with a digit is read as a number. -/
theorem readValue_of_isDigit (digit : isDigit c = true) (fuel : ℕ) (rest : List Char) :
    readValue (fuel + 1) (c :: rest) = readNumber false (c :: rest) := by
  have unchanged : skipSpace (c :: rest) = c :: rest :=
    List.dropWhile_cons_of_neg (by simp [isSpace_of_isDigit digit])
  rw [readValue, unchanged]
  -- All other values start with a character that is no digit.
  split <;> first
    | rfl
    | exact absurd (List.cons.inj ‹c :: rest = _›).1 (Text.ne_of_isDigit digit rfl)

theorem spells_whole {n : ℤ} (low : -2 ^ 63 ≤ n) (high : n < 2 ^ 64) :
    Spells (numberChars (.whole n)) (ofInt n) := by
  rcases lt_or_ge n 0 with negative | nonneg
  · have written : numberChars (.whole n) = '-' :: numeral n.natAbs := by
      simp [numberChars, negative]
    have value : -(n.natAbs : ℤ) = n := by omega
    rw [written]
    refine .of_head rfl rfl (by decide) fun fuel after _ delimits => ?_
    change readNumber true (numeral n.natAbs ++ after) = _
    rw [readNumber_numeral _ _ delimits, numberOf_neg_numeral (by omega) (by omega), value]
  · have written : numberChars (.whole n) = numeral n.natAbs := by
      simp [numberChars, nonneg]
    have value : (n.natAbs : ℤ) = n := Int.natAbs_of_nonneg nonneg
    have within : n.natAbs < 2 ^ 64 := by omega
    have fits : n.natAbs ≤ greatestWhole := Nat.le_sub_one_of_lt within
    rw [written]
    cases digits : numeral n.natAbs with
    | nil => exact absurd digits Nat.toDigits_ne_nil
    | cons c more =>
      have digit : isDigit c = true := Text.isDigit_of_mem_numeral (digits ▸ List.mem_cons_self)
      refine .of_head rfl (isSpace_of_isDigit digit) (Text.ne_of_isDigit digit rfl)
        fun fuel after _ delimits => ?_
      have read := readNumber_numeral false n.natAbs delimits
      rw [numberOf_numeral fits, ofNat, value, digits, List.cons_append] at read
      rw [List.cons_append, readValue_of_isDigit digit, read]

/-! ### Lists and objects -/

/-- A list that does not end at once goes on with its items. -/
theorem readValue_bracket (open_ : (skipSpace cs).head? ≠ some ']') (fuel : ℕ) :
    readValue (fuel + 1) ('[' :: cs) =
      (readItems fuel (skipSpace cs)).map fun (items, rest) => (.array items, rest) := by
  have unchanged : skipSpace ('[' :: cs) = '[' :: cs := rfl
  rw [readValue, unchanged]
  split
  case h_5 same =>
    obtain rfl := (List.cons.inj same).2
    split
    next closed => exact absurd (congrArg List.head? closed) open_
    next => rfl
  case h_8 bracket _ _ => exact absurd rfl (bracket cs)
  all_goals next same => exact absurd (List.cons.inj same).1 (by decide)

/-- An object that does not end at once goes on with its members. -/
theorem readValue_brace (open_ : (skipSpace cs).head? ≠ some '}') (fuel : ℕ) :
    readValue (fuel + 1) ('{' :: cs) =
      (readMembers fuel (skipSpace cs)).map fun (members, rest) => (objectOf members, rest) := by
  have unchanged : skipSpace ('{' :: cs) = '{' :: cs := rfl
  rw [readValue, unchanged]
  split
  case h_6 same =>
    obtain rfl := (List.cons.inj same).2
    split
    next closed => exact absurd (congrArg List.head? closed) open_
    next => rfl
  case h_8 brace _ => exact absurd rfl (brace cs)
  all_goals next same => exact absurd (List.cons.inj same).1 (by decide)

theorem spells_emptyArray : Spells ['[', ']'] (.array []) :=
  .of_head rfl rfl (by decide) fun _ _ _ _ => rfl

theorem spells_emptyObject : Spells ['{', '}'] (.object []) :=
  .of_head rfl rfl (by decide) fun _ _ _ _ => rfl

theorem objectOf_map (members : List (String × Json)) :
    objectOf (members.map fun (name, value) => (some name, value)) = .object members := by
  -- Every name was readable, so none is missing among the members.
  have named : (members.map fun m => ((some m.1 : Option String), m.2)).mapM
      (fun m => m.1.map fun name => (name, m.2)) = some members := by
    induction members with
    | nil => rfl
    | cons member members ih =>
      rw [List.map_cons, List.mapM_cons, ih]
      rfl
  unfold objectOf
  split
  next found =>
    cases found.symm.trans named
    rfl
  next missing => cases missing.symm.trans named

/-! ### Layouts -/

/-- The blanks in a written list or object: before each item, after a colon and before the end. -/
structure Layout where
  beforeItem : List Char
  afterColon : List Char
  beforeEnd : List Char
  beforeItem_blank : ∀ c ∈ beforeItem, isSpace c = true
  afterColon_blank : ∀ c ∈ afterColon, isSpace c = true
  beforeEnd_blank : ∀ c ∈ beforeEnd, isSpace c = true

namespace Layout

/-- The items after the first one, each after a comma, and the closing bracket. -/
def laterItems (layout : Layout) (write : Json → List Char) : List Json → List Char
  | [] => layout.beforeEnd ++ [']']
  | item :: items => ',' :: (layout.beforeItem ++ (write item ++ layout.laterItems write items))

/-- A member, with a colon after its name. -/
def memberChars (layout : Layout) (write : Json → List Char) (member : String × Json) :
    List Char :=
  quoted member.1 ++ ':' :: (layout.afterColon ++ write member.2)

/-- The members after the first one, each after a comma, and the closing brace. -/
def laterMembers (layout : Layout) (write : Json → List Char) :
    List (String × Json) → List Char
  | [] => layout.beforeEnd ++ ['}']
  | member :: members =>
    ',' :: (layout.beforeItem ++ (layout.memberChars write member ++
      layout.laterMembers write members))

variable {layout : Layout} {write : Json → List Char} {item : Json} {items : List Json}
  {member : String × Json} {members : List (String × Json)}

/-- A list is read item by item. -/
theorem readItems_laterItems (first : Spells (write item) item)
    (others : ∀ item ∈ items, Spells (write item) item)
    (enough : (write item ++ layout.laterItems write items).length ≤ fuel) :
    readItems fuel (write item ++ (layout.laterItems write items ++ after)) =
      some (item :: items, after) := by
  induction items generalizing item fuel with
  | nil =>
    simp only [laterItems, List.append_assoc, List.singleton_append, List.length_append,
      List.length_singleton] at enough ⊢
    cases fuel with
    | zero => omega
    | succ fuel =>
      have delimits : Delimits (layout.beforeEnd ++ ']' :: after) :=
        .append layout.beforeEnd_blank (.cons rfl _)
      rw [readItems, first.reads fuel _ (by omega) delimits]
      simp only [Option.bind_eq_bind, Option.bind_some, skipSpace_append layout.beforeEnd_blank]
      rfl
  | cons next items ih =>
    obtain ⟨second, others⟩ := List.forall_mem_cons.1 others
    simp only [laterItems, List.cons_append, List.append_assoc, List.length_append,
      List.length_cons] at enough ⊢
    cases fuel with
    | zero => omega
    | succ fuel =>
      -- The comma makes up for the call that the first item took.
      have short : (write next ++ layout.laterItems write items).length ≤ fuel := by
        rw [List.length_append]
        omega
      rw [readItems, first.reads fuel _ (by omega) (.cons rfl _)]
      change (readItems fuel (layout.beforeItem ++ _)).map _ = _
      rw [readItems_append layout.beforeItem_blank, ih second others short]
      rfl

/-- A list of items is read, whatever blanks it is written with. -/
theorem spells_array (each : ∀ item' ∈ item :: items, Spells (write item') item') :
    Spells ('[' :: (layout.beforeItem ++ (write item ++ layout.laterItems write items)))
      (.array (item :: items)) := by
  obtain ⟨first, others⟩ := List.forall_mem_cons.1 each
  refine .of_head rfl rfl (by decide) fun fuel after enough _ => ?_
  simp only [List.cons_append, List.append_assoc, List.length_cons, List.length_append] at enough ⊢
  have start : skipSpace (layout.beforeItem ++
      (write item ++ (layout.laterItems write items ++ after))) =
        write item ++ (layout.laterItems write items ++ after) := by
    rw [skipSpace_append layout.beforeItem_blank, first.skipSpace]
  -- No item looks like the end of an empty list.
  have open_ : (write item ++ (layout.laterItems write items ++ after)).head? ≠ some ']' := by
    obtain ⟨c, head, -, other⟩ := first.starts
    rw [List.head?_append, Option.mem_def.1 head]
    simpa using other
  have short : (write item ++ layout.laterItems write items).length ≤ fuel := by
    rw [List.length_append]
    omega
  rw [readValue_bracket (by rwa [start]), start, readItems_laterItems first others short]
  rfl

theorem memberChars_append (layout : Layout) (write : Json → List Char) (after : List Char)
    (member : String × Json) :
    layout.memberChars write member ++ after =
      '"' :: (member.1.toList.flatMap escapeChar ++
        '"' :: ':' :: (layout.afterColon ++ (write member.2 ++ after))) := by
  simp [memberChars, quoted]

theorem length_lt_memberChars (layout : Layout) (write : Json → List Char)
    (member : String × Json) :
    (write member.2).length < (layout.memberChars write member).length := by
  simp only [memberChars, List.length_append, List.length_cons]
  omega

/-- One member is read, and what follows it decides how the object goes on. -/
theorem readMembers_memberChars (spells : Spells (write member.2) member.2)
    (enough : (write member.2).length ≤ fuel) (delimits : Delimits after) :
    readMembers (fuel + 1) (layout.memberChars write member ++ after) =
      match skipSpace after with
      | ',' :: rest => (readMembers fuel rest).map fun (members, rest) =>
        ((some member.1, member.2) :: members, rest)
      | '}' :: rest => some ([(some member.1, member.2)], rest)
      | _ => none := by
  rw [memberChars_append, readMembers]
  change (readText _).bind _ = _
  rw [readText_flatMap]
  change (readValue fuel (layout.afterColon ++ _)).bind _ = _
  rw [readValue_append layout.afterColon_blank, spells.reads fuel after enough delimits]
  rfl

/-- An object is read member by member. -/
theorem readMembers_laterMembers (first : Spells (write member.2) member.2)
    (others : ∀ member ∈ members, Spells (write member.2) member.2)
    (enough : (layout.memberChars write member ++ layout.laterMembers write members).length ≤
      fuel) :
    readMembers fuel (layout.memberChars write member ++
        (layout.laterMembers write members ++ after)) =
      some ((member :: members).map fun (name, value) => (some name, value), after) := by
  induction members generalizing member fuel with
  | nil =>
    have value := layout.length_lt_memberChars write member
    simp only [laterMembers, List.append_assoc, List.singleton_append, List.length_append,
      List.length_singleton] at enough ⊢
    cases fuel with
    | zero => omega
    | succ fuel =>
      have delimits : Delimits (layout.beforeEnd ++ '}' :: after) :=
        .append layout.beforeEnd_blank (.cons rfl _)
      rw [readMembers_memberChars first (by omega) delimits,
        skipSpace_append layout.beforeEnd_blank]
      rfl
  | cons next members ih =>
    obtain ⟨second, others⟩ := List.forall_mem_cons.1 others
    have value := layout.length_lt_memberChars write member
    simp only [laterMembers, List.cons_append, List.append_assoc, List.length_append,
      List.length_cons] at enough ⊢
    cases fuel with
    | zero => omega
    | succ fuel =>
      have short : (layout.memberChars write next ++
          layout.laterMembers write members).length ≤ fuel := by
        rw [List.length_append]
        omega
      rw [readMembers_memberChars first (by omega) (.cons rfl _)]
      change (readMembers fuel (layout.beforeItem ++ _)).map _ = _
      rw [readMembers_append layout.beforeItem_blank, ih second others short]
      rfl

/-- An object of members is read, whatever blanks it is written with. -/
theorem spells_object (each : ∀ member' ∈ member :: members, Spells (write member'.2) member'.2) :
    Spells ('{' :: (layout.beforeItem ++
      (layout.memberChars write member ++ layout.laterMembers write members)))
        (.object (member :: members)) := by
  obtain ⟨first, others⟩ := List.forall_mem_cons.1 each
  refine .of_head rfl rfl (by decide) fun fuel after enough _ => ?_
  simp only [List.cons_append, List.append_assoc, List.length_cons, List.length_append] at enough ⊢
  have start : skipSpace (layout.beforeItem ++
      (layout.memberChars write member ++ (layout.laterMembers write members ++ after))) =
        layout.memberChars write member ++ (layout.laterMembers write members ++ after) := by
    rw [skipSpace_append layout.beforeItem_blank, memberChars_append]
    rfl
  have open_ : (layout.memberChars write member ++
      (layout.laterMembers write members ++ after)).head? ≠ some '}' := by
    rw [memberChars_append]
    simp
  have short : (layout.memberChars write member ++
      layout.laterMembers write members).length ≤ fuel := by
    rw [List.length_append]
    omega
  rw [readValue_brace (by rwa [start]), start, readMembers_laterMembers first others short]
  exact congrArg (fun j => some (j, after)) (objectOf_map _)

/-! ### The two written forms -/

/-- No blanks at all. -/
def compact : Layout := ⟨[], [], [], nofun, nofun, nofun⟩

theorem isSpace_of_mem_newLine {level : ℕ} : ∀ c ∈ newLine level, isSpace c = true := by
  intro c member
  rcases List.mem_cons.1 member with rfl | blank
  · rfl
  · rw [List.eq_of_mem_replicate blank]
    rfl

/-- A line for each item, indented by one level more than the whole. -/
def pretty (level : ℕ) : Layout where
  beforeItem := newLine (level + 1)
  afterColon := [' ']
  beforeEnd := newLine level
  beforeItem_blank := isSpace_of_mem_newLine
  afterColon_blank := List.forall_mem_singleton.2 rfl
  beforeEnd_blank := isSpace_of_mem_newLine

theorem compactItems_eq (items : List Json) :
    compactItems items = compact.laterItems compactChars items := by
  induction items with
  | nil => simp [compactItems, laterItems, compact]
  | cons item items ih => simp [compactItems, laterItems, compact, ih]

theorem compactMembers_eq (members : List (String × Json)) :
    compactMembers members = compact.laterMembers compactChars members := by
  induction members with
  | nil => simp [compactMembers, laterMembers, compact]
  | cons member members ih => simp [compactMembers, laterMembers, memberChars, compact, ih]

theorem prettyItems_eq (level : ℕ) (items : List Json) :
    prettyItems level items = (pretty level).laterItems (prettyChars (level + 1)) items := by
  induction items with
  | nil => simp [prettyItems, laterItems, pretty]
  | cons item items ih => simp [prettyItems, laterItems, pretty, ih]

theorem prettyMembers_eq (level : ℕ) (members : List (String × Json)) :
    prettyMembers level members =
      (pretty level).laterMembers (prettyChars (level + 1)) members := by
  induction members with
  | nil => simp [prettyMembers, laterMembers, pretty]
  | cons member members ih => simp [prettyMembers, laterMembers, memberChars, pretty, ih]

end Layout

/-! ### Documents -/

/-- The documents whose numbers are whole ones of at most 64 bits. -/
inductive Plain : Json → Prop
  | null : Plain .null
  | bool (b : Bool) : Plain (.bool b)
  | whole (n : ℤ) (low : -2 ^ 63 ≤ n) (high : n < 2 ^ 64) : Plain (ofInt n)
  | string (s : String) : Plain (.string s)
  | array (items : List Json) (each : ∀ item ∈ items, Plain item) : Plain (.array items)
  | object (members : List (String × Json)) (each : ∀ member ∈ members, Plain member.2) :
    Plain (.object members)

namespace Plain

variable {j : Json}

/-- The document on one line is read as the document. -/
theorem spells_compactChars (plain : j.Plain) : Spells j.compactChars j := by
  induction plain with
  | null => exact spells_null
  | bool b =>
    cases b with
    | true => exact spells_true
    | false => exact spells_false
  | whole n low high => exact spells_whole low high
  | string s => exact spells_quoted s
  | array items each ih =>
    cases items with
    | nil => exact spells_emptyArray
    | cons item items =>
      have spells := Layout.compact.spells_array ih
      rwa [← Layout.compactItems_eq] at spells
  | object members each ih =>
    cases members with
    | nil => exact spells_emptyObject
    | cons member members =>
      have spells := Layout.compact.spells_object ih
      rw [← Layout.compactMembers_eq] at spells
      simpa [compactChars, Layout.memberChars, Layout.compact] using spells

/-- The document over several lines is read as the document, at any level of indentation. -/
theorem spells_prettyChars (plain : j.Plain) (level : ℕ) : Spells (j.prettyChars level) j := by
  induction plain generalizing level with
  | null => exact spells_null
  | bool b =>
    cases b with
    | true => exact spells_true
    | false => exact spells_false
  | whole n low high => exact spells_whole low high
  | string s => exact spells_quoted s
  | array items each ih =>
    cases items with
    | nil => exact spells_emptyArray
    | cons item items =>
      have spells := (Layout.pretty level).spells_array fun item known => ih item known (level + 1)
      rw [← Layout.prettyItems_eq] at spells
      rw [prettyChars, List.append_assoc]
      exact spells
  | object members each ih =>
    cases members with
    | nil => exact spells_emptyObject
    | cons member members =>
      have spells := (Layout.pretty level).spells_object fun member known =>
        ih member known (level + 1)
      rw [← Layout.prettyMembers_eq] at spells
      simpa [prettyChars, Layout.memberChars, Layout.pretty] using spells

theorem parse?_of_spells (spells : Spells cs j) : parse? (String.ofList cs) = some j := by
  have read := spells.reads (2 * cs.length + 2) [] (by omega) .nil
  rw [List.append_nil] at read
  simp only [parse?, String.toList_ofList, read]
  rfl

/-- What is written on one line is read back. -/
theorem parse?_compact (plain : j.Plain) : parse? j.compact = some j :=
  parse?_of_spells plain.spells_compactChars

/-- What is written over several lines is read back. -/
theorem parse?_pretty (plain : j.Plain) : parse? j.pretty = some j :=
  parse?_of_spells (plain.spells_prettyChars 0)

end Plain

end IncomeTax.Json
