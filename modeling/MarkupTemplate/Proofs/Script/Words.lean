import Mathlib.Data.List.Chain
import Mathlib.Tactic.MkIffOfInductiveProp
import MarkupTemplate.Script.Name

/-!
# The words of a name

A name is written in words by two passes, each of which goes through the whole of it:
the first one ends acronyms, the second one starts capitalised words. For names in
ASCII the two amount to one rule that looks at a character and its two neighbours. So
it can be said of every place whether a word starts there, and what is left to do
behind the passes is to write dashes as underscores and capitals small.
-/

namespace MarkupTemplate.Script

open Text

/-- Whether a word starts at a place of a name other than its first: there is a capital
behind a small letter or a digit, or behind a capital or a digit and in front of a small
letter. -/
def startsWord (name : List Char) (place : Nat) : Bool :=
  decide (0 < place) && name[place]?.any Char.isUpper &&
    (name[place - 1]?.any (fun before => before.isLower || before.isDigit) ||
      (name[place - 1]?.any (fun before => before.isUpper || before.isDigit) &&
        name[place + 1]?.any Char.isLower))

/-- A name with one underscore in front of every word that starts in it. -/
def separated (name : List Char) : List Char :=
  name.zipIdx.flatMap fun entry =>
    if startsWord name entry.2 then ['_', entry.1] else [entry.1]

/-- Whether a character is not merely there to join words. -/
def isEssential (character : Char) : Bool := character != '-' && character != '_'

/-- What names that are written alike have in common: their characters, scopes written as
slashes, without regard to case and joiners. -/
def essence (name : String) : List Char :=
  (slashScopes (name.toList.map Char.toLower)).filter isEssential

/-! ### Characters -/

/-- The capitals in ASCII. -/
def asciiCapitals : CaseRun := ⟨65, 90, 1, 32⟩

/-- What is to be known of a character in ASCII: which digits there are, how it is lowercased,
and that capitals, small letters and digits differ. -/
@[mk_iff]
structure IsPlain (character : Char) : Prop where
  digit : isDecimalDigit character = character.isDigit
  lower : character.toLower =
    if asciiCapitals.contains character.toNat then asciiCapitals.lower character.toNat
    else character
  toNat_lower : character.toLower.toNat < 128
  isUpper_lower : character.toLower.isUpper = false
  lower_of_small : character.isUpper = false → character.toLower = character
  lower_marks : [':', '/', '-', '_'].all fun mark =>
    (character.toLower == mark) == (character == mark)
  of_isUpper : character.isUpper → character.isLower = false ∧ character.isDigit = false
  of_isDigit : character.isDigit → character.isLower = false

instance : DecidablePred IsPlain := fun character =>
  decidable_of_iff _ (isPlain_iff character).symm

/-- Every character in ASCII is plain, by going through them. -/
theorem isPlain_of_ascii {character : Char} (ascii : character.toNat < 128) :
    IsPlain character := by
  have all : (List.range 128).all fun code => decide (IsPlain (Char.ofNat code)) := by
    decide +kernel
  have plain := of_decide_eq_true
    (List.all_eq_true.mp all character.toNat (List.mem_range.mpr ascii))
  rwa [Char.ofNat_toNat] at plain

/-- Lowercasing neither makes nor changes a character that is not a letter. -/
theorem IsPlain.lower_eq_iff {character mark : Char} (plain : IsPlain character)
    (isMark : mark ∈ [':', '/', '-', '_']) : character.toLower = mark ↔ character = mark := by
  have same := List.all_eq_true.mp plain.lower_marks mark isMark
  rw [beq_iff_eq] at same
  rw [← beq_iff_eq, same, beq_iff_eq]

/-- Of all runs of capitals, only the first one is in ASCII. -/
theorem find?_caseRuns_of_ascii {character : Char} (ascii : character.toNat < 128) :
    caseRuns.find? (·.contains character.toNat) =
      [asciiCapitals].find? (·.contains character.toNat) := by
  have beyond : caseRuns.tail.all fun run => decide (128 ≤ run.first) := by decide +kernel
  have noOther : caseRuns.tail.find? (·.contains character.toNat) = none := by
    rw [List.find?_eq_none]
    intro run member contains
    have starts : 128 ≤ run.first := of_decide_eq_true (List.all_eq_true.mp beyond run member)
    have within : run.first ≤ character.toNat :=
      of_decide_eq_true (Bool.and_eq_true_iff.mp (Bool.and_eq_true_iff.mp contains).1).1
    omega
  have split : caseRuns = [asciiCapitals] ++ caseRuns.tail := rfl
  rw [split, List.find?_append, noOther, Option.or_none]

theorem lowerOne_of_ascii {character : Char} (ascii : character.toNat < 128) :
    lowerOne character = [character.toLower] := by
  have undotted : character ≠ '\u0130' := by
    rintro rfl
    exact absurd ascii (by decide)
  rw [lowerOne, if_neg undotted, find?_caseRuns_of_ascii ascii, (isPlain_of_ascii ascii).lower]
  by_cases capital : asciiCapitals.contains character.toNat
  · have found : [asciiCapitals].find? (·.contains character.toNat) = some asciiCapitals :=
      List.find?_cons_of_pos capital
    rw [found, if_pos capital]
  · have missing : [asciiCapitals].find? (·.contains character.toNat) = none :=
      List.find?_cons_of_neg capital
    rw [missing, if_neg capital]

/-- A capital is in ASCII. -/
theorem isPlain_of_isUpper {character : Char} (capital : character.isUpper) :
    IsPlain character := by
  have within : character.val ≤ 'Z'.val := (of_decide_eq_true capital).2
  have bounded : character.toNat ≤ 90 := UInt32.le_iff_toNat_le.mp within
  exact isPlain_of_ascii (by omega)

/-- A small letter is in ASCII. -/
theorem isPlain_of_isLower {character : Char} (small : character.isLower) :
    IsPlain character := by
  have within : character.val ≤ 'z'.val := of_decide_eq_true (Bool.and_eq_true_iff.mp small).2
  have bounded : character.toNat ≤ 122 := UInt32.le_iff_toNat_le.mp within
  exact isPlain_of_ascii (by omega)

theorem isLower_of_isUpper {character : Char} (capital : character.isUpper) :
    character.isLower = false :=
  ((isPlain_of_isUpper capital).of_isUpper capital).1

/-- A digit is not a small letter, in any script. -/
theorem isLower_of_isDecimalDigit {character : Char} (digit : isDecimalDigit character) :
    character.isLower = false := by
  by_contra isLetter
  have letter : character.isLower := by simpa using isLetter
  have plain := isPlain_of_isLower letter
  rw [plain.digit] at digit
  cases letter.symm.trans (plain.of_isDigit digit)

theorem isLower_of_isAcronymChar {character : Char} (acronym : isAcronymChar character) :
    character.isLower = false := by
  rcases Bool.or_eq_true_iff.mp acronym with capital | digit
  · exact isLower_of_isUpper capital
  · exact isLower_of_isDecimalDigit digit

/-- A capital is neither a small letter nor a digit. -/
theorem isDecimalDigit_of_isUpper {character : Char} (capital : character.isUpper) :
    isDecimalDigit character = false := by
  have plain := isPlain_of_isUpper capital
  rw [plain.digit]
  exact (plain.of_isUpper capital).2

/-! ### Rules on neighbours -/

/-- Puts an underscore in front of every character that a rule sets apart from the one
before it, given the one behind it. -/
def separate (apart : Char → Char → Option Char → Bool) (before : Option Char) :
    List Char → List Char
  | [] => []
  | character :: rest =>
      (if before.any (apart · character rest.head?) then ['_', character] else [character]) ++
        separate apart (some character) rest

/-- A capital in front of a small letter is set apart from an acronym. -/
def endsAcronym (before character : Char) (next : Option Char) : Bool :=
  isAcronymChar before && character.isUpper && next.any Char.isLower

/-- A capital is set apart from a small letter and from a digit. -/
def startsCapital (before character : Char) (_ : Option Char) : Bool :=
  (before.isLower || isDecimalDigit before) && character.isUpper

/-- A capital is set apart by one rule or the other. -/
def setsApart (before character : Char) (next : Option Char) : Bool :=
  endsAcronym before character next || startsCapital before character next

variable {apart : Char → Char → Option Char → Bool} {before : Option Char} {character : Char}
  {rest run : List Char}

theorem separate_cons_of_together (together : before.any (apart · character rest.head?) = false) :
    separate apart before (character :: rest) =
      character :: separate apart (some character) rest := by
  rw [separate, together]
  rfl

theorem separate_cons_of_apart (apartHere : before.any (apart · character rest.head?)) :
    separate apart before (character :: rest) =
      '_' :: character :: separate apart (some character) rest := by
  rw [separate, apartHere]
  rfl

/-- A character from which nothing is set apart does not count. -/
theorem separate_some_of_neutral (neutral : ∀ second next, apart character second next = false)
    (characters : List Char) : separate apart (some character) characters =
      separate apart none characters := by
  cases characters with
  | nil => rfl
  | cons second rest => simp [separate, neutral]

/-- The second pass follows its rule. A match takes two characters, but no other match
starts at the second one, which is a capital. -/
theorem splitCapitals_eq (name : List Char) :
    splitCapitals name = separate startsCapital none name := by
  fun_induction splitCapitals name with
  | case1 first second rest found inductionHypothesis =>
      have capital := (Bool.and_eq_true_iff.mp found).2
      have apartHere : (some first).any (startsCapital · second rest.head?) := found
      have neutral (third : Char) (next : Option Char) :
          startsCapital second third next = false := by
        simp [startsCapital, isLower_of_isUpper capital, isDecimalDigit_of_isUpper capital]
      rw [separate_cons_of_together rfl, separate_cons_of_apart apartHere,
        separate_some_of_neutral neutral, inductionHypothesis]
  | case2 first second rest notFound inductionHypothesis =>
      have together : (some first).any (startsCapital · second rest.head?) = false := by
        simpa [startsCapital] using notFound
      rw [separate_cons_of_together rfl, separate_cons_of_together together, inductionHypothesis,
        separate_cons_of_together rfl]
  | case3 rest short =>
      match rest, short with
      | [], _ => rfl
      | [single], _ => rfl
      | first :: second :: rest, short => exact (short first second rest rfl).elim

/-- Within a run of acronym characters, only the last one can be set apart. -/
theorem separate_run {last : Char} {tail : List Char} (acronym : run.all isAcronymChar)
    (isLast : isAcronymChar last) :
    separate endsAcronym none (run.reverse ++ last :: tail) =
      run.reverse ++ separate endsAcronym run.head? (last :: tail) := by
  induction run generalizing last tail with
  | nil => rfl
  | cons middle run inductionHypothesis =>
      obtain ⟨isMiddle, others⟩ := Bool.and_eq_true_iff.mp (List.all_cons ▸ acronym)
      have together : run.head?.any (endsAcronym · middle (last :: tail).head?) = false := by
        cases run.head? <;> simp [endsAcronym, isLower_of_isAcronymChar isLast]
      rw [List.reverse_cons, List.append_assoc, List.singleton_append,
        inductionHypothesis others isMiddle, separate_cons_of_together together, List.append_assoc]
      rfl

/-- A run is written as the first pass does where it ends. -/
theorem separate_run_append {tail : List Char} (acronym : run.all isAcronymChar) :
    separate endsAcronym none (run.reverse ++ tail) =
      (if tail.head?.any Char.isLower then splitRun run else run.reverse) ++
        separate endsAcronym run.head? tail := by
  cases run with
  | nil => simp [splitRun]
  | cons last older =>
      obtain ⟨isLast, others⟩ := Bool.and_eq_true_iff.mp (List.all_cons ▸ acronym)
      rw [List.reverse_cons, List.append_assoc, List.singleton_append, separate_run others isLast,
        List.head?_cons]
      cases older with
      | nil => simp [separate, splitRun]
      | cons second earlier =>
          have isSecond : isAcronymChar second :=
            (Bool.and_eq_true_iff.mp (List.all_cons ▸ others)).1
          by_cases small : tail.head?.any Char.isLower
          · by_cases capital : last.isUpper <;>
              simp [separate, endsAcronym, splitRun, isSecond, small, capital]
          · simp [separate, endsAcronym, small]

/-- The first pass follows its rule. Characters of an acronym are held back until it
ends. -/
theorem splitAcronyms_eq_separate (acronym : run.all isAcronymChar) (name : List Char) :
    splitAcronyms run name = separate endsAcronym none (run.reverse ++ name) := by
  induction name generalizing run with
  | nil =>
      rw [separate_run_append acronym]
      simp [splitAcronyms, separate]
  | cons character rest inductionHypothesis =>
      rw [splitAcronyms]
      split
      next isAcronym =>
        rw [inductionHypothesis (by simpa [isAcronym] using acronym), List.reverse_cons,
          List.append_assoc, List.singleton_append]
      next notAcronym =>
        have plain : isAcronymChar character = false := by simpa using notAcronym
        have small : character.isUpper = false := (Bool.or_eq_false_iff.mp plain).1
        have neutral (second : Char) (next : Option Char) :
            endsAcronym character second next = false := by simp [endsAcronym, plain]
        have together : run.head?.any (endsAcronym · character rest.head?) = false := by
          cases run.head? <;> simp [endsAcronym, small]
        rw [separate_run_append acronym, separate_cons_of_together together,
          separate_some_of_neutral neutral, ← List.nil_append rest, ← List.reverse_nil,
          ← inductionHypothesis rfl]
        split <;> simp_all

theorem splitAcronyms_eq (name : List Char) :
    splitAcronyms [] name = separate endsAcronym none name :=
  splitAcronyms_eq_separate rfl name

/-- The two passes together follow one rule. An underscore of the first pass keeps the
second one from adding another. -/
theorem separate_separate (before : Option Char) (name : List Char) :
    separate startsCapital before (separate endsAcronym before name) =
      separate setsApart before name := by
  induction name generalizing before with
  | nil => rfl
  | cons character rest inductionHypothesis =>
      by_cases first : before.any (endsAcronym · character rest.head?)
      · have both : before.any (setsApart · character rest.head?) := by
          cases before <;> simp_all [setsApart]
        have mark : before.any (startsCapital · '_' (some character)) = false := by
          cases before <;> simp [startsCapital]
        have behind (next : Option Char) :
            (some '_').any (startsCapital · character next) = false := by
          simp [startsCapital, show isDecimalDigit '_' = false by decide]
        rw [separate_cons_of_apart first, separate_cons_of_apart both,
          separate_cons_of_together mark, separate_cons_of_together (behind _), inductionHypothesis]
      · have notFirst : before.any (endsAcronym · character rest.head?) = false := by
          simpa using first
        rw [separate_cons_of_together notFirst]
        by_cases second : before.any (startsCapital · character rest.head?)
        · have both : before.any (setsApart · character rest.head?) := by
            cases before <;> simp_all [setsApart]
          have same : before.any (startsCapital · character
              (separate endsAcronym (some character) rest).head?) := second
          rw [separate_cons_of_apart same, separate_cons_of_apart both, inductionHypothesis]
        · have neither : before.any (setsApart · character rest.head?) = false := by
            cases before <;> simp_all [setsApart]
          have same : before.any (startsCapital · character
              (separate endsAcronym (some character) rest).head?) = false :=
            Bool.not_eq_true _ ▸ second
          rw [separate_cons_of_together same, separate_cons_of_together neither,
            inductionHypothesis]

/-! ### Places where words start -/

/-- In ASCII, a word starts where a character is set apart from the one before it. -/
theorem startsWord_append {front : List Char} (ascii : ∀ before ∈ front, before.toNat < 128) :
    startsWord (front ++ character :: rest) front.length =
      front.getLast?.any (setsApart · character rest.head?) := by
  have here : (front ++ character :: rest)[front.length]? = some character := by simp
  have next : (front ++ character :: rest)[front.length + 1]? = rest.head? := by
    rw [List.getElem?_append_right (by omega), Nat.add_sub_cancel_left, List.getElem?_cons_succ,
      List.head?_eq_getElem?]
  unfold startsWord
  rw [here, next]
  rcases List.eq_nil_or_concat front with rfl | ⟨init, before, rfl⟩
  · simp
  · have previous : (init ++ [before] ++ character :: rest)[(init ++ [before]).length - 1]? =
        some before := by simp
    have digit := (isPlain_of_ascii (ascii before (by simp))).digit
    rw [List.concat_eq_append, previous, List.getLast?_concat]
    simp only [Option.any_some, setsApart, endsAcronym, startsCapital, isAcronymChar, digit]
    grind

theorem flatMap_zipIdx_eq {front : List Char} (ascii : ∀ each ∈ front ++ rest, each.toNat < 128) :
    ((rest.zipIdx front.length).flatMap fun entry =>
        if startsWord (front ++ rest) entry.2 then ['_', entry.1] else [entry.1]) =
      separate setsApart front.getLast? rest := by
  induction rest generalizing front with
  | nil => rfl
  | cons character rest inductionHypothesis =>
      have further : front ++ character :: rest = front ++ [character] ++ rest := by simp
      have starts := @startsWord_append character rest front
        fun before member => ascii before (List.mem_append_left _ member)
      rw [List.zipIdx_cons, List.flatMap_cons, separate, starts]
      congr 1
      rw [further] at ascii ⊢
      have behind := inductionHypothesis ascii
      rwa [List.length_append, List.length_singleton, List.getLast?_concat] at behind

/-- In ASCII, the rule sets apart the words of a name. -/
theorem separated_eq {name : List Char} (ascii : ∀ each ∈ name, each.toNat < 128) :
    separated name = separate setsApart none name :=
  @flatMap_zipIdx_eq name [] ascii

/-! ### What is written -/

/-- How a character is written behind the passes. -/
def writeSmall (character : Char) : Char :=
  if character = '-' then '_' else character.toLower

theorem toLower_dashToUnderscore (character : Char) :
    (dashToUnderscore character).toLower = writeSmall character := by
  unfold dashToUnderscore writeSmall
  split <;> rfl

/-- In ASCII, lowercasing changes each character on its own. -/
theorem lowerAfter_of_ascii {before characters : List Char}
    (ascii : ∀ each ∈ characters, each.toNat < 128) :
    lowerAfter before characters = characters.map Char.toLower := by
  induction characters generalizing before with
  | nil => rfl
  | cons character characters inductionHypothesis =>
      obtain ⟨here, others⟩ := List.forall_mem_cons.mp ascii
      have notSigma : character ≠ 'Σ' := by
        rintro rfl
        exact absurd here (by decide)
      rw [lowerAfter, if_neg notSigma, lowerOne_of_ascii here, inductionHypothesis others]
      rfl

theorem mem_of_mem_separate {each : Char} (member : each ∈ separate apart before rest) :
    each ∈ rest ∨ each = '_' := by
  induction rest generalizing before with
  | nil => cases member
  | cons character rest inductionHypothesis =>
      rw [separate, List.mem_append] at member
      rcases member with here | further
      · split at here <;> simp at here <;> grind
      · rcases inductionHypothesis further with inside | isMark
        · exact .inl (List.mem_cons_of_mem _ inside)
        · exact .inr isMark

theorem mem_of_mem_slashScopes {each : Char} {name : List Char}
    (member : each ∈ slashScopes name) : each ∈ name ∨ each = '/' := by
  fun_induction slashScopes name with
  | case1 rest inductionHypothesis => grind
  | case2 character rest notScope inductionHypothesis => grind
  | case3 => cases member

theorem ascii_slashScopes {name : List Char} (ascii : ∀ each ∈ name, each.toNat < 128) :
    ∀ each ∈ slashScopes name, each.toNat < 128 := by
  intro each member
  rcases mem_of_mem_slashScopes member with inside | rfl
  · exact ascii each inside
  · decide

theorem ascii_separate {name : List Char} (ascii : ∀ each ∈ name, each.toNat < 128) :
    ∀ each ∈ separate apart before name, each.toNat < 128 := by
  intro each member
  rcases mem_of_mem_separate member with inside | rfl
  · exact ascii each inside
  · decide

/-- The words of a name in ASCII. -/
theorem toList_underscore {name : String} (ascii : ∀ each ∈ name.toList, each.toNat < 128) :
    (underscore name).toList =
      (separate setsApart none (slashScopes name.toList)).map writeSmall := by
  have dashed : ∀ each ∈ (separate setsApart none (slashScopes name.toList)).map dashToUnderscore,
      each.toNat < 128 := by
    intro each member
    obtain ⟨character, inside, rfl⟩ := List.mem_map.mp member
    unfold dashToUnderscore
    split
    · decide
    · exact ascii_separate (ascii_slashScopes ascii) character inside
  rw [underscore, String.toList_ofList, splitAcronyms_eq, splitCapitals_eq, separate_separate,
    lowercase, lowerAfter_of_ascii dashed, List.map_map]
  exact List.map_congr_left fun character _ => toLower_dashToUnderscore character

/-! ### What the words of a name have in common -/

theorem isUpper_writeSmall {character : Char} (ascii : character.toNat < 128) :
    (writeSmall character).isUpper = false := by
  unfold writeSmall
  split
  · rfl
  · exact (isPlain_of_ascii ascii).isUpper_lower

theorem writeSmall_ne_dash {character : Char} (ascii : character.toNat < 128) :
    writeSmall character ≠ '-' := by
  unfold writeSmall
  split
  next => decide
  next notDash => exact mt ((isPlain_of_ascii ascii).lower_eq_iff (by simp)).mp notDash

theorem writeSmall_eq_self {character : Char} (ascii : character.toNat < 128)
    (small : character.isUpper = false) (notDash : character ≠ '-') :
    writeSmall character = character := by
  rw [writeSmall, if_neg notDash, (isPlain_of_ascii ascii).lower_of_small small]

theorem writeSmall_eq_colon {character : Char} (ascii : character.toNat < 128)
    (isColon : writeSmall character = ':') : character = ':' := by
  unfold writeSmall at isColon
  split at isColon
  · cases isColon
  · exact ((isPlain_of_ascii ascii).lower_eq_iff (by simp)).mp isColon

/-- Where there are no capitals, nothing is set apart. -/
theorem separate_of_small {name : List Char} (small : ∀ each ∈ name, each.isUpper = false)
    (before : Option Char) : separate setsApart before name = name := by
  induction name generalizing before with
  | nil => rfl
  | cons character rest inductionHypothesis =>
      obtain ⟨here, others⟩ := List.forall_mem_cons.mp small
      have together : before.any (setsApart · character rest.head?) = false := by
        cases before <;> simp [setsApart, endsAcronym, startsCapital, here]
      rw [separate_cons_of_together together, inductionHypothesis others]

/-- Whether two characters do not make a scope operator. -/
def NoScope (first second : Char) : Prop := ¬ (first = ':' ∧ second = ':')

theorem slashScopes_cons (notColon : character ≠ ':') (rest : List Char) :
    slashScopes (character :: rest) = character :: slashScopes rest := by
  rw [slashScopes]
  exact fun _ isColon => absurd isColon notColon

/-- No scope operator is left where they are written as slashes. -/
theorem isChain_slashScopes (name : List Char) : (slashScopes name).IsChain NoScope := by
  fun_induction slashScopes name with
  | case1 rest inductionHypothesis =>
      exact List.isChain_cons.mpr ⟨fun next _ => by simp [NoScope], inductionHypothesis⟩
  | case2 character rest notScope inductionHypothesis =>
      refine List.isChain_cons.mpr ⟨fun next isNext => ?_, inductionHypothesis⟩
      rintro ⟨rfl, rfl⟩
      -- The rest begins with a colon only if what it is made from does.
      cases rest with
      | nil => cases isNext
      | cons second behind =>
          have notColon : second ≠ ':' := by
            rintro rfl
            exact notScope behind rfl rfl
          rw [slashScopes_cons notColon] at isNext
          exact notColon (Option.some.inj isNext)
  | case3 => exact .nil

theorem isChain_separate {name : List Char} (chain : name.IsChain NoScope)
    (before : Option Char) : (separate apart before name).IsChain NoScope := by
  induction name generalizing before with
  | nil => exact .nil
  | cons character rest inductionHypothesis =>
      obtain ⟨here, others⟩ := List.isChain_cons.mp chain
      have further := inductionHypothesis others (some character)
      have joins : ∀ next ∈ (separate apart (some character) rest).head?,
          NoScope character next := by
        cases rest with
        | nil => simp [separate]
        | cons second rest =>
            rw [separate]
            split
            · simp [NoScope]
            · simpa using here
      have kept := List.isChain_cons.mpr ⟨joins, further⟩
      rw [separate]
      split
      · exact List.isChain_cons.mpr ⟨fun next _ => by simp [NoScope], kept⟩
      · exact kept

theorem isChain_underscore {name : String} (ascii : ∀ each ∈ name.toList, each.toNat < 128) :
    (underscore name).toList.IsChain NoScope := by
  rw [toList_underscore ascii, List.isChain_map]
  have inside := @ascii_separate setsApart none _ (ascii_slashScopes ascii)
  refine (isChain_separate (isChain_slashScopes name.toList) none).imp_of_mem_imp ?_
  rintro first second isFirst isSecond noScope ⟨firstColon, secondColon⟩
  exact noScope ⟨writeSmall_eq_colon (inside first isFirst) firstColon,
    writeSmall_eq_colon (inside second isSecond) secondColon⟩

/-- Names without a scope operator are left as they are. -/
theorem slashScopes_of_isChain {name : List Char} (chain : name.IsChain NoScope) :
    slashScopes name = name := by
  fun_induction slashScopes name with
  | case1 rest inductionHypothesis => exact absurd ⟨rfl, rfl⟩ (List.isChain_cons_cons.mp chain).1
  | case2 character rest notScope inductionHypothesis =>
      rw [inductionHypothesis (List.isChain_cons.mp chain).2]
  | case3 => rfl

/-- The characters of the words of a name. -/
theorem mem_underscore {name : String} (ascii : ∀ each ∈ name.toList, each.toNat < 128) :
    ∀ each ∈ (underscore name).toList,
      each.toNat < 128 ∧ each.isUpper = false ∧ each ≠ '-' := by
  intro each member
  rw [toList_underscore ascii] at member
  obtain ⟨character, inside, rfl⟩ := List.mem_map.mp member
  have here := ascii_separate (ascii_slashScopes ascii) character inside
  refine ⟨?_, isUpper_writeSmall here, writeSmall_ne_dash here⟩
  unfold writeSmall
  split
  · decide
  · exact (isPlain_of_ascii here).toNat_lower

/-- The words of a name are not changed by writing them once more. -/
theorem underscore_underscore {name : String} (ascii : ∀ each ∈ name.toList, each.toNat < 128) :
    underscore (underscore name) = underscore name := by
  have spelled := mem_underscore ascii
  have unchanged : ∀ each ∈ (underscore name).toList, writeSmall each = id each :=
    fun each member => writeSmall_eq_self (spelled each member).1 (spelled each member).2.1
      (spelled each member).2.2
  rw [← String.toList_inj, toList_underscore fun each member => (spelled each member).1,
    slashScopes_of_isChain (isChain_underscore ascii),
    separate_of_small fun each member => (spelled each member).2.1,
    List.map_congr_left unchanged, List.map_id]

/-! ### Names with the same words -/

/-- Scopes are written as slashes in small letters too. -/
theorem slashScopes_map_toLower {name : List Char} (ascii : ∀ each ∈ name, each.toNat < 128) :
    slashScopes (name.map Char.toLower) = (slashScopes name).map Char.toLower := by
  fun_induction slashScopes name with
  | case1 rest inductionHypothesis =>
      have others : ∀ each ∈ rest, each.toNat < 128 := by simp_all
      exact congrArg ('/' :: ·) (inductionHypothesis others)
  | case2 character rest notScope inductionHypothesis =>
      obtain ⟨here, others⟩ := List.forall_mem_cons.mp ascii
      rw [List.map_cons, List.map_cons, slashScopes, inductionHypothesis others]
      intro behind isColon split
      obtain ⟨second, rest, rfl, secondColon, -⟩ := List.map_eq_cons_iff.mp split
      have colon : ':' ∈ [':', '/', '-', '_'] := by simp
      refine notScope rest (((isPlain_of_ascii here).lower_eq_iff colon).mp isColon) ?_
      have plain := isPlain_of_ascii (others second (by simp))
      rw [(plain.lower_eq_iff colon).mp secondColon]
  | case3 => rfl

/-- Apart from joiners, setting words apart changes nothing. -/
theorem filter_map_separate {name : List Char} (ascii : ∀ each ∈ name, each.toNat < 128)
    (before : Option Char) :
    ((separate apart before name).map writeSmall).filter isEssential =
      (name.map Char.toLower).filter isEssential := by
  induction name generalizing before with
  | nil => rfl
  | cons character rest inductionHypothesis =>
      obtain ⟨here, others⟩ := List.forall_mem_cons.mp ascii
      have same : [writeSmall character].filter isEssential =
          [character.toLower].filter isEssential := by
        unfold writeSmall
        split
        next isDash =>
          subst isDash
          rfl
        next => rfl
      have written : ((if before.any (apart · character rest.head?) then ['_', character]
          else [character]).map writeSmall).filter isEssential =
            [character.toLower].filter isEssential := by
        rw [← same]
        split <;> rfl
      rw [separate, List.map_append, List.filter_append, written, inductionHypothesis others,
        ← List.filter_append]
      rfl

/-- The words of a name have its essence. -/
theorem filter_underscore {name : String} (ascii : ∀ each ∈ name.toList, each.toNat < 128) :
    (underscore name).toList.filter isEssential = essence name := by
  rw [toList_underscore ascii, filter_map_separate (ascii_slashScopes ascii), essence,
    slashScopes_map_toLower ascii]

/-- In ASCII, an underscore is put exactly in front of the words that start in a name,
scopes being written as slashes; then dashes become underscores and capitals small
letters. So words are in small letters, without dashes and scope operators, and are not
changed by writing them once more, and names with the same words have the same
essence. -/
theorem underscore_separates_words {name : String}
    (ascii : ∀ each ∈ name.toList, each.toNat < 128) :
    (underscore name).toList =
        (separated (slashScopes name.toList)).map
          (fun each => if each = '-' then '_' else each.toLower) ∧
      underscore (underscore name) = underscore name ∧
      (∀ each ∈ (underscore name).toList, each.isUpper = false ∧ each ≠ '-') ∧
      ¬ [':', ':'] <:+: (underscore name).toList ∧
      ∀ other : String, (∀ each ∈ other.toList, each.toNat < 128) →
        underscore name = underscore other → essence name = essence other := by
  refine ⟨?_, underscore_underscore ascii, fun each member => (mem_underscore ascii each member).2,
    fun within => ?_, fun other otherAscii same => ?_⟩
  · rw [separated_eq (ascii_slashScopes ascii)]
    exact toList_underscore ascii
  · have pair := List.IsChain.infix (isChain_underscore ascii) within
    exact (List.isChain_cons_cons.mp pair).1 ⟨rfl, rfl⟩
  · rw [← filter_underscore ascii, ← filter_underscore otherAscii, same]

/-- A name in which acronyms, digits, capitals and scopes meet, and another one with the
same words. -/
theorem underscore_separates_words_mixed :
    underscore "Xml2HTTPServer::my-TagID" = "xml2_http_server/my_tag_id" ∧
      underscore (underscore "Xml2HTTPServer::my-TagID") = underscore "Xml2HTTPServer::my-TagID" ∧
      underscore "xml2-HTTP_Server/my_tagID" = "xml2_http_server/my_tag_id" ∧
      essence "Xml2HTTPServer::my-TagID" = essence "xml2-HTTP_Server/my_tagID" := by
  have ascii : ∀ each ∈ "Xml2HTTPServer::my-TagID".toList, each.toNat < 128 := by simp
  have otherAscii : ∀ each ∈ "xml2-HTTP_Server/my_tagID".toList, each.toNat < 128 := by simp
  have written : underscore "Xml2HTTPServer::my-TagID" = "xml2_http_server/my_tag_id" := by
    decide +kernel
  have otherWritten : underscore "xml2-HTTP_Server/my_tagID" = "xml2_http_server/my_tag_id" := by
    decide +kernel
  obtain ⟨-, idempotent, -, -, collide⟩ := underscore_separates_words ascii
  exact ⟨written, idempotent, otherWritten,
    collide _ otherAscii (written.trans otherWritten.symm)⟩

end MarkupTemplate.Script
