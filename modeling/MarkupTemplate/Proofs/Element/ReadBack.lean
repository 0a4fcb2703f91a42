import MarkupTemplate.Element.Tag
import MarkupTemplate.Proofs.Content.Entities

/-!
# Tags are read back

`readTag?` reads an opening tag by its marks alone: a name ends at a space, an equals
sign, a bracket or a quote, and a value at the next quote. `prescribed` says which
attributes properties ask for, without a word on how they are written. Reading the
markup of an element finds its name and exactly these attributes, and leaves what
stands behind the opening tag. So no value ends its attribute, adds another one or
closes the tag.
-/

namespace MarkupTemplate.Element

/-! ### Reading -/

/-- An attribute of an opening tag. One without a value stands alone. -/
structure Setting where
  name : String
  value : Option String
deriving DecidableEq, Repr

/-- The characters that end a name within a tag. -/
def endsName (character : Char) : Bool :=
  character == ' ' || character == '=' || character == '>' || character == '"'

/-- Reads a name: what it is and what follows it. -/
def readName? (characters : List Char) : Option (String × List Char) :=
  match characters.takeWhile (!endsName ·) with
  | [] => none
  | name => some (String.ofList name, characters.dropWhile (!endsName ·))

/-- Reads the value behind a name, if there is one, up to its closing quote. -/
def readValue? : List Char → Option (Option String × List Char)
  | '=' :: '"' :: rest =>
      match rest.dropWhile (· != '"') with
      | [] => none
      | _ :: behind =>
          some (some (String.ofList (undoEntities (rest.takeWhile (· != '"')))), behind)
  | rest => some (none, rest)

/-- Reads an attribute. -/
def readSetting? (characters : List Char) : Option (Setting × List Char) := do
  let (name, rest) ← readName? characters
  let (value, behind) ← readValue? rest
  some (⟨name, value⟩, behind)

/-- A name takes at least one character. -/
theorem readName?_shrinks {characters behind : List Char} {name : String}
    (read : readName? characters = some (name, behind)) : behind.length < characters.length := by
  unfold readName? at read
  split at read
  next => cases read
  next nonempty =>
    cases read
    have whole := congrArg List.length
      (List.takeWhile_append_dropWhile (p := (!endsName ·)) (l := characters))
    have positive := List.length_pos_iff.mpr nonempty
    rw [List.length_append] at whole
    omega

/-- A value leaves no more than there was. -/
theorem readValue?_le {characters behind : List Char} {value : Option String}
    (read : readValue? characters = some (value, behind)) :
    behind.length ≤ characters.length := by
  unfold readValue? at read
  split at read
  next rest =>
    split at read
    next => cases read
    next last =>
      cases read
      have shorter := (List.dropWhile_sublist (l := rest) (· != '"')).length_le
      rw [last] at shorter
      simp only [List.length_cons] at shorter ⊢
      omega
  next =>
    cases read
    exact Nat.le_refl _

theorem readSetting?_shrinks {characters behind : List Char} {setting : Setting}
    (read : readSetting? characters = some (setting, behind)) :
    behind.length < characters.length := by
  obtain ⟨⟨name, rest⟩, named, further⟩ := Option.bind_eq_some_iff.mp read
  obtain ⟨⟨value, behind⟩, valued, made⟩ := Option.bind_eq_some_iff.mp further
  cases made
  exact Nat.lt_of_le_of_lt (readValue?_le valued) (readName?_shrinks named)

/-- Reads attributes, each of them behind a space, and the bracket that ends them. -/
def readSettings? (characters : List Char) : Option (List Setting × List Char) :=
  match characters with
  | '>' :: behind => some ([], behind)
  | ' ' :: rest =>
      match _read : readSetting? rest with
      | none => none
      | some (setting, further) =>
          (readSettings? further).map fun (settings, behind) => (setting :: settings, behind)
  | _ => none
termination_by characters.length
decreasing_by exact Nat.lt_succ_of_lt (readSetting?_shrinks _read)

/-- Reads an opening tag: its name, its attributes and what follows it. -/
def readTag? : List Char → Option (String × List Setting × List Char)
  | '<' :: rest => do
      let (name, further) ← readName? rest
      let (settings, behind) ← readSettings? further
      some (name, settings, behind)
  | _ => none

theorem readSettings?_bracket (behind : List Char) :
    readSettings? ('>' :: behind) = some ([], behind) := by
  rw [readSettings?.eq_def]
  rfl

theorem readSettings?_space {rest further : List Char} {setting : Setting}
    (read : readSetting? rest = some (setting, further)) :
    readSettings? (' ' :: rest) =
      (readSettings? further).map fun (settings, behind) => (setting :: settings, behind) := by
  rw [readSettings?.eq_def]
  simp only []
  split
  next failed => cases read.symm.trans failed
  next other =>
    cases read.symm.trans other
    rfl

/-! ### Prescribing -/

/-- The text of an item of a list, unless the item is left out. -/
def itemText? : Json → Option String
  | .null | .bool false => none
  | item => some item.plainText

/-- The attributes that a value prescribes under a name. -/
def prescribed (name : String) : Json → List Setting
  | .null | .bool false => []
  | .bool true => [⟨name, none⟩]
  | .list items => [⟨name, some (" ".intercalate (items.filterMap itemText?))⟩]
  | value => [⟨name, some value.plainText⟩]

/-- The attributes that a property prescribes. Those of an object under `data` or `aria`
are named for this key and their own. -/
def prescribedBy (key : String) : Json → List Setting
  | .object fields =>
      if key = "data" ∨ key = "aria" then
        fields.flatMap fun field => prescribed (key ++ "-" ++ dashed field.1) field.2
      else prescribed (dashed key) (.object fields)
  | value => prescribed (dashed key) value

/-- The attributes that properties prescribe, in the order of the properties. -/
def prescribedAll (props : Props) : List Setting :=
  props.flatMap fun prop => prescribedBy prop.1 prop.2

/-- Whether a text can be a name within a tag. -/
structure IsName (name : String) : Prop where
  nonempty : name.toList ≠ []
  free : ∀ character ∈ name.toList, endsName character = false

/-- Whether the keys of properties, and those of objects under `data` or `aria`, can be
names within a tag. -/
structure IsNamed (props : Props) : Prop where
  keys : ∀ prop ∈ props, IsName prop.1
  inner : ∀ key fields, (key, Json.object fields) ∈ props → key = "data" ∨ key = "aria" →
    ∀ field ∈ fields, IsName field.1

/-! ### Names -/

/-- An underscore becomes a dash. -/
theorem dash_mem_dashed {name : String} (member : '_' ∈ name.toList) :
    '-' ∈ (dashed name).toList := by
  rw [dashed, String.toList_ofList]
  exact List.mem_map.mpr ⟨'_', member, rfl⟩

/-- A name without underscores stays as it is. -/
theorem dashed_of_notMem {name : String} (noUnderscore : '_' ∉ name.toList) :
    dashed name = name := by
  have same : name.toList.map (fun character => if character = '_' then '-' else character) =
      name.toList.map id := by
    refine List.map_congr_left fun character member => if_neg ?_
    rintro rfl
    exact noUnderscore member
  rw [dashed, same, List.map_id, String.ofList_toList]

/-- A key becomes `data` or `aria` only if it is. -/
theorem isPrefixed_dashed_iff {key : String} :
    isPrefixed (dashed key) = true ↔ key = "data" ∨ key = "aria" := by
  have plain {name : String} (noDash : '-' ∉ name.toList) (noUnderscore : '_' ∉ name.toList) :
      dashed key = name ↔ key = name := by
    constructor
    · intro same
      rw [← same]
      refine (dashed_of_notMem fun member => noDash ?_).symm
      rw [← same]
      exact dash_mem_dashed member
    · rintro rfl
      exact dashed_of_notMem noUnderscore
  simp [isPrefixed, plain]

/-- A tag with a character that void elements do not have names none. -/
theorem isVoid_eq_false {tag : String} {mark : Char} (member : mark ∈ tag.toList)
    (lower : mark.toLower = mark) (foreign : voidNames.all (!·.toList.contains mark)) :
    isVoid tag = false := by
  have found : mark ∈ (String.ofList (tag.toList.map Char.toLower)).toList := by
    rw [String.toList_ofList]
    exact List.mem_map.mpr ⟨mark, member, lower⟩
  rw [isVoid, Bool.eq_false_iff]
  intro isVoid
  have lacks := List.all_eq_true.mp foreign _ (List.contains_iff_mem.mp isVoid)
  rw [List.contains_iff_mem.mpr found] at lacks
  cases lacks

/-- Dashes in place of underscores make no void element. -/
theorem isVoid_dashed (name : String) : isVoid (dashed name) = isVoid name := by
  by_cases member : '_' ∈ name.toList
  · rw [isVoid_eq_false member rfl (by decide),
      isVoid_eq_false (dash_mem_dashed member) rfl (by decide)]
  · rw [dashed_of_notMem member]

theorem isName_of_all {name : String} (nonempty : name.toList.isEmpty = false)
    (free : name.toList.all (!endsName ·) = true) : IsName name where
  nonempty := by simpa using nonempty
  free := by
    intro character member
    simpa using List.all_eq_true.mp free character member

namespace IsName

variable {name other : String}

theorem append (first : IsName name) (second : IsName other) : IsName (name ++ other) where
  nonempty := by simp [first.nonempty]
  free := by
    rw [String.toList_append]
    exact List.forall_mem_append.mpr ⟨first.free, second.free⟩

theorem dashed (isName : IsName name) : IsName (dashed name) where
  nonempty := by simp [Element.dashed, isName.nonempty]
  free := by
    intro character member
    rw [Element.dashed, String.toList_ofList] at member
    obtain ⟨original, within, rfl⟩ := List.mem_map.mp member
    split
    · rfl
    · exact isName.free original within

end IsName

theorem name_of_mem_prescribed {name : String} {value : Json} {setting : Setting}
    (member : setting ∈ prescribed name value) : setting.name = name := by
  unfold prescribed at member
  split at member
  case h_1 | h_2 => cases member
  all_goals rw [List.mem_singleton.mp member]

/-- The attributes that properties prescribe have names that can stand in a tag. -/
theorem IsNamed.isName {props : Props} (isNamed : IsNamed props) {setting : Setting}
    (member : setting ∈ prescribedAll props) : IsName setting.name := by
  obtain ⟨⟨key, value⟩, listed, prescribes⟩ := List.mem_flatMap.mp member
  have isKey : IsName key := isNamed.keys _ listed
  have ofValue (asked : setting ∈ prescribed (dashed key) value) : IsName setting.name := by
    rw [name_of_mem_prescribed asked]
    exact isKey.dashed
  cases value with
  | object fields =>
      rw [prescribedBy] at prescribes
      split at prescribes
      next isPrefix =>
        obtain ⟨⟨inner, nested⟩, within, asked⟩ := List.mem_flatMap.mp prescribes
        have isInner : IsName inner := isNamed.inner key fields listed isPrefix _ within
        have isDash : IsName "-" := isName_of_all rfl rfl
        rw [name_of_mem_prescribed asked]
        exact (isKey.append isDash).append isInner.dashed
      next => exact ofValue prescribes
  | null | bool | number | text | list => exact ofValue prescribes

/-! ### Writing -/

/-- An attribute as it is written. -/
def Setting.write (setting : Setting) : String :=
  match setting.value with
  | none => " " ++ setting.name
  | some value => pair setting.name value

/-- A written attribute begins with a space. -/
theorem Setting.exists_write (setting : Setting) :
    ∃ written, setting.write.toList = ' ' :: written := by
  obtain ⟨name, value⟩ := setting
  cases value with
  | none => exact ⟨name.toList, by simp [write]⟩
  | some value =>
      exact ⟨name.toList ++ '=' :: '"' :: ((escapeMarkup value).toList ++ ['"']),
        by simp [write, pair]⟩

/-- The items that are not left out are those with a text. -/
theorem filterMap_itemText? (items : List Json) :
    items.filterMap itemText? = (items.filter (!isAbsent ·)).map Json.plainText := by
  induction items with
  | nil => rfl
  | cons item items inductionHypothesis =>
      cases item with
      | null => exact inductionHypothesis
      | bool value =>
          cases value with
          | false => exact inductionHypothesis
          | true => exact congrArg _ inductionHypothesis
      | number | text | list | object => exact congrArg _ inductionHypothesis

/-- A value is written as the attributes that it prescribes. -/
theorem attributeOf_eq (name : String) (value : Json) :
    attributeOf name value = String.join ((prescribed name value).map Setting.write) := by
  cases value with
  | null => rfl
  | bool value => cases value <;> simp [attributeOf, prescribed, Setting.write]
  | list items => simp [attributeOf, prescribed, Setting.write, filterMap_itemText?]
  | number | text | object => simp [attributeOf, prescribed, Setting.write]

/-- What is written piece by piece as attributes is written as all of them. -/
theorem join_map_eq {α : Type} (write : α → String) (settings : α → List Setting)
    (written : ∀ item, write item = String.join ((settings item).map Setting.write))
    (items : List α) :
    String.join (items.map write) = String.join ((items.flatMap settings).map Setting.write) := by
  induction items with
  | nil => rfl
  | cons item items inductionHypothesis =>
      rw [List.map_cons, String.join_cons, inductionHypothesis, written, List.flatMap_cons,
        List.map_append, String.join_append]

/-- A property is written as the attributes that it prescribes. -/
theorem property_eq (key : String) (value : Json) :
    property (dashed key) value = String.join ((prescribedBy key value).map Setting.write) := by
  cases value with
  | object fields =>
      rw [property, prescribedBy]
      by_cases isPrefix : key = "data" ∨ key = "aria"
      · have noUnderscore : '_' ∉ key.toList := by
          rcases isPrefix with rfl | rfl <;> decide
        rw [if_pos (isPrefixed_dashed_iff.mpr isPrefix), if_pos isPrefix,
          dashed_of_notMem noUnderscore]
        exact join_map_eq _ _ (fun field => attributeOf_eq _ field.2) fields
      · rw [if_neg fun isPrefixed => isPrefix (isPrefixed_dashed_iff.mp isPrefixed),
          if_neg isPrefix, attributeOf_eq]
  | null | bool | number | text | list =>
      rw [property, prescribedBy, attributeOf_eq]
      all_goals exact fun _ isObject => by cases isObject

/-- An opening tag is written as its name and the attributes that its properties prescribe. -/
theorem openingTag_eq (tag : String) (props : Props) :
    openingTag tag props =
      "<" ++ tag ++ String.join ((prescribedAll props).map Setting.write) ++ ">" := by
  have written : String.join (props.map fun prop => property (dashed prop.1) prop.2) =
      String.join ((prescribedAll props).map Setting.write) :=
    join_map_eq _ (fun prop => prescribedBy prop.1 prop.2) (fun prop => property_eq prop.1 prop.2)
      props
  unfold openingTag
  exact congrArg (fun text => "<" ++ tag ++ text ++ ">") written

/-! ### Reading what is written -/

/-- A name is read up to a character that ends it. -/
theorem readName?_append {name : String} {mark : Char} (isName : IsName name)
    (ends : endsName mark) (rest : List Char) :
    readName? (name.toList ++ mark :: rest) = some (name, mark :: rest) := by
  have accepted : ∀ character ∈ name.toList, (!endsName character) = true := by
    intro character member
    rw [isName.free character member]
    rfl
  have taken : (name.toList ++ mark :: rest).takeWhile (!endsName ·) = name.toList := by
    rw [List.takeWhile_append_of_pos accepted, List.takeWhile_cons_of_neg (by simp [ends]),
      List.append_nil]
  have left : (name.toList ++ mark :: rest).dropWhile (!endsName ·) = mark :: rest := by
    rw [List.dropWhile_append_of_pos accepted, List.dropWhile_cons_of_neg (by simp [ends])]
  rw [readName?, taken, left]
  split
  next empty => exact absurd empty isName.nonempty
  next => rw [String.ofList_toList]

/-- An escaped value is read up to its quote. -/
theorem readValue?_escapeMarkup (value : String) (rest : List Char) :
    readValue? ('=' :: '"' :: ((escapeMarkup value).toList ++ '"' :: rest)) =
      some (some value, rest) := by
  have accepted : ∀ character ∈ (escapeMarkup value).toList, (character != '"') = true := by
    intro character member
    rw [bne_iff_ne]
    rintro rfl
    exact notMem_escapeMarkup (by decide) value member
  rw [readValue?, List.dropWhile_append_of_pos accepted, List.takeWhile_append_of_pos accepted,
    List.dropWhile_cons_of_neg (by decide), List.takeWhile_cons_of_neg (by decide),
    List.append_nil, undoEntities_escapeMarkup, String.ofList_toList]

/-- A name in front of a space or a bracket has no value. -/
theorem readValue?_bare {mark : Char} (ends : mark = ' ' ∨ mark = '>') (rest : List Char) :
    readValue? (mark :: rest) = some (none, mark :: rest) := by
  rcases ends with rfl | rfl <;> rfl

/-- An attribute is read in front of a space or a bracket. -/
theorem readSetting?_write {setting : Setting} {written : List Char} {mark : Char}
    (spelled : setting.write.toList = ' ' :: written) (isName : IsName setting.name)
    (ends : mark = ' ' ∨ mark = '>') (rest : List Char) :
    readSetting? (written ++ mark :: rest) = some (setting, mark :: rest) := by
  obtain ⟨name, value⟩ := setting
  cases value with
  | none =>
      have bare : written = name.toList := by simpa [Setting.write] using spelled.symm
      have endsName : endsName mark := by
        rcases ends with rfl | rfl <;> rfl
      rw [bare, readSetting?, readName?_append isName endsName]
      simp [readValue?_bare ends]
  | some value =>
      have valued : written ++ mark :: rest =
          name.toList ++ '=' :: '"' :: ((escapeMarkup value).toList ++ '"' :: mark :: rest) := by
        have same : written =
            name.toList ++ '=' :: '"' :: ((escapeMarkup value).toList ++ ['"']) := by
          simpa [Setting.write, pair] using spelled.symm
        simp [same]
      rw [valued, readSetting?, readName?_append isName rfl]
      simp [readValue?_escapeMarkup]

/-- Behind a name or an attribute comes a space, or the bracket that ends the tag. -/
theorem exists_mark (settings : List Setting) (rest : List Char) :
    ∃ mark further, (mark = ' ' ∨ mark = '>') ∧
      (String.join (settings.map Setting.write)).toList ++ '>' :: rest = mark :: further := by
  cases settings with
  | nil => exact ⟨'>', rest, .inr rfl, rfl⟩
  | cons setting settings =>
      obtain ⟨written, spelled⟩ := setting.exists_write
      refine ⟨' ', written ++ ((String.join (settings.map Setting.write)).toList ++ '>' :: rest),
        .inl rfl, ?_⟩
      rw [List.map_cons, String.join_cons, String.toList_append, spelled]
      simp

/-- Attributes are read one by one, up to the bracket behind them. -/
theorem readSettings?_write {settings : List Setting}
    (isName : ∀ setting ∈ settings, IsName setting.name) (rest : List Char) :
    readSettings? ((String.join (settings.map Setting.write)).toList ++ '>' :: rest) =
      some (settings, rest) := by
  induction settings with
  | nil => exact readSettings?_bracket rest
  | cons setting settings inductionHypothesis =>
      rw [List.forall_mem_cons] at isName
      obtain ⟨mark, further, ends, others⟩ := exists_mark settings rest
      obtain ⟨written, spelled⟩ := setting.exists_write
      have read := readSetting?_write spelled isName.1 ends further
      have split : (String.join ((setting :: settings).map Setting.write)).toList ++ '>' :: rest =
          ' ' :: (written ++ mark :: further) := by
        rw [List.map_cons, String.join_cons, String.toList_append, List.append_assoc, others,
          spelled, List.cons_append]
      rw [split, readSettings?_space read, ← others, inductionHypothesis isName.2]
      rfl

/-- The markup of an element is read back: the name of its opening tag, the attributes that
its properties prescribe, and behind the tag its content and closing tag, unless it is
void. -/
theorem readTag?_build {name : String} {props : Props} (isName : IsName name)
    (isNamed : IsNamed props) (content : Option Markup) :
    readTag? (build name props content).html.toList =
      some (dashed name, prescribedAll props,
        if isVoid name then []
        else (content.elim "" (·.html) ++ "</" ++ dashed name ++ ">").toList) := by
  generalize behind : (if isVoid name then []
    else (content.elim "" (·.html) ++ "</" ++ dashed name ++ ">").toList) = rest
  have written : (build name props content).html.toList =
      '<' :: ((dashed name).toList ++
        ((String.join ((prescribedAll props).map Setting.write)).toList ++ '>' :: rest)) := by
    rw [← behind, build]
    simp only [isVoid_dashed, openingTag_eq]
    split <;> simp
  obtain ⟨mark, further, ends, others⟩ := exists_mark (prescribedAll props) rest
  have endsName : endsName mark := by
    rcases ends with rfl | rfl <;> rfl
  have settings := readSettings?_write (fun _ => isNamed.isName) rest
  rw [others] at settings
  rw [written, others, readTag?, readName?_append isName.dashed endsName]
  simp [settings]

/-- An element with an attribute of every kind, and texts that would end a value, an attribute
or the tag if they were not escaped. -/
theorem readTag?_build_hostile :
    readTag? (build "x_y" [("a_b", .text "\"> c=\"&quot;"), ("aria", .bool true),
        ("class", .list [.text "d", .null, .bool false, .text "'"]), ("checked", .bool false),
        ("data", .object [("e_f", .object []), ("g", .null)])] (some ⟨"<i>"⟩)).html.toList =
      some ("x-y", [⟨"a-b", some "\"> c=\"&quot;"⟩, ⟨"aria", none⟩, ⟨"class", some "d '"⟩,
        ⟨"data-e-f", some "\x7b\x7d"⟩], "<i></x-y>".toList) := by
  have isNamed : IsNamed [("a_b", .text "\"> c=\"&quot;"), ("aria", .bool true),
      ("class", .list [.text "d", .null, .bool false, .text "'"]), ("checked", .bool false),
      ("data", .object [("e_f", .object []), ("g", .null)])] := by
    constructor
    · intro prop member
      simp only [List.mem_cons, List.not_mem_nil, or_false] at member
      rcases member with rfl | rfl | rfl | rfl | rfl <;> exact isName_of_all rfl rfl
    · intro key fields member _ field within
      simp only [List.mem_cons, Prod.mk.injEq, reduceCtorEq, and_false, List.not_mem_nil, or_false,
        false_or, Json.object.injEq] at member
      obtain ⟨rfl, rfl⟩ := member
      simp only [List.mem_cons, List.not_mem_nil, or_false] at within
      rcases within with rfl | rfl <;> exact isName_of_all rfl rfl
  exact (readTag?_build (isName_of_all rfl rfl) isNamed (some ⟨"<i>"⟩)).trans (by decide +kernel)

end MarkupTemplate.Element
