import DocumentSearch.CommandLine.Arguments
import DocumentSearch.Proofs.Checks
import DocumentSearch.Proofs.Decimals
import Mathlib.Data.List.TakeWhile

/-!
# Command lines of searches

A search is asked for by the connection's options, the name of the command, the search's options and
the table.  The options stand in any order, in front of the table and behind it, and a table that
looks like an option stands last behind `--`.  Sorting such a line out gives its table and its options
in order, so only the order of the values of one option can matter.
-/

namespace DocumentSearch

namespace CommandLine

section Marks

variable {mark : Char}

theorem takeWhile_append_mark {front : List Char} (free : mark ∉ front) (rest : List Char) :
    (front ++ mark :: rest).takeWhile (fun c => c ≠ mark) = front ∧
      (front ++ mark :: rest).dropWhile (fun c => c ≠ mark) = mark :: rest := by
  have plain : ∀ c ∈ front, decide (c ≠ mark) = true := fun c member =>
    decide_eq_true fun same => free (same ▸ member)
  constructor
  · rw [List.takeWhile_append_of_pos plain, List.takeWhile_cons_of_neg (by simp), List.append_nil]
  · rw [List.dropWhile_append_of_pos plain, List.dropWhile_cons_of_neg (by simp)]

theorem divided_of_dropWhile {text rest : List Char} {c : Char}
    (found : text.dropWhile (fun c => c ≠ mark) = c :: rest) :
    mark ∉ text.takeWhile (fun c => c ≠ mark) ∧
      text = text.takeWhile (fun c => c ≠ mark) ++ mark :: rest := by
  induction text with
  | nil => cases found
  | cons first others ih =>
      by_cases same : first = mark
      · rw [List.dropWhile_cons_of_neg (by simpa using same)] at found
        rw [List.takeWhile_cons_of_neg (by simpa using same), same, (List.cons.inj found).2]
        simp
      · rw [List.dropWhile_cons_of_pos (by simpa using same)] at found
        obtain ⟨free, whole⟩ := ih found
        rw [List.takeWhile_cons_of_pos (by simpa using same), List.cons_append, ← whole]
        exact ⟨List.not_mem_cons_of_ne_of_not_mem (Ne.symm same) free, rfl⟩

end Marks

/-! ## Texts of conditions -/

/-- What a text of a condition stands for: the field in front of the first equals sign, and what is
behind it, as JSON if it is JSON and as a string otherwise. -/
inductive IsPair : String → String × Json → Prop
  | json {raw field rest : String} {value : Json} (split : raw = field ++ "=" ++ rest)
      (first : '=' ∉ field.toList) (read : Json.ofText rest = .ok value) : IsPair raw (field, value)
  | text {raw field rest : String} {fault : Json.Fault} (split : raw = field ++ "=" ++ rest)
      (first : '=' ∉ field.toList) (unread : Json.ofText rest = .error fault) :
      IsPair raw (field, .string rest)

theorem isPair_valueOfText {raw field rest : String} (split : raw = field ++ "=" ++ rest)
    (first : '=' ∉ field.toList) : IsPair raw (field, valueOfText rest) := by
  unfold valueOfText
  split
  · exact .json split first ‹_›
  · exact .text split first ‹_›

theorem IsPair.exists_rest {raw : String} {pair : String × Json} (reads : IsPair raw pair) :
    ∃ rest, raw = pair.1 ++ "=" ++ rest ∧ '=' ∉ pair.1.toList ∧ pair.2 = valueOfText rest := by
  unfold valueOfText
  cases reads with
  | json split first read => exact ⟨_, split, first, by rw [read]⟩
  | text split first unread => exact ⟨_, split, first, by rw [unread]⟩

theorem pairOf_eq_ok_iff {raw : String} {pair : String × Json} :
    pairOf raw = .ok pair ↔ IsPair raw pair := by
  constructor
  · intro divided
    unfold pairOf at divided
    dsimp only at divided
    split at divided
    · cases divided
    · rename_i found
      cases divided
      obtain ⟨free, whole⟩ := divided_of_dropWhile found
      refine isPair_valueOfText ?_ (by rwa [String.toList_ofList])
      apply String.toList_injective
      simpa using whole
  · intro reads
    obtain ⟨rest, rfl, free, value⟩ := reads.exists_rest
    obtain ⟨front, behind⟩ := takeWhile_append_mark free rest.toList
    have chars : (pair.1 ++ "=" ++ rest).toList = pair.1.toList ++ '=' :: rest.toList := by simp
    unfold pairOf
    simp only [chars, front, behind, String.ofList_toList, ← value]

theorem pairOf_cases (raw : String) :
    (∃ pair, pairOf raw = .ok pair) ∨ ∃ reason, pairOf raw = .error (.invalid reason) := by
  unfold pairOf
  dsimp only
  split
  · exact .inr ⟨_, rfl⟩
  · exact .inl ⟨_, rfl⟩

/-- Texts of conditions are read one by one, and make no sense if one of them stands for nothing. -/
theorem mapM_pairOf_cases (raws : List String) :
    (∃ pairs, List.Forall₂ IsPair raws pairs ∧ raws.mapM pairOf = .ok pairs) ∨
      (∃ raw ∈ raws, ∀ pair, ¬IsPair raw pair) ∧
        ∃ reason, raws.mapM pairOf = .error (.invalid reason) := by
  induction raws with
  | nil => exact .inl ⟨[], .nil, rfl⟩
  | cons raw rest ih =>
      rw [List.mapM_cons]
      obtain ⟨pair, first⟩ | ⟨reason, first⟩ := pairOf_cases raw
      · obtain ⟨pairs, reads, others⟩ | ⟨⟨other, member, unread⟩, reason, others⟩ := ih
        · exact .inl ⟨pair :: pairs, .cons (pairOf_eq_ok_iff.mp first) reads, by
            rw [first, others]
            rfl⟩
        · exact .inr ⟨⟨other, List.mem_cons_of_mem raw member, unread⟩, reason, by
            rw [first, others]
            rfl⟩
      · refine .inr ⟨⟨raw, List.mem_cons_self, fun pair reads => ?_⟩, reason, by rw [first]; rfl⟩
        cases (pairOf_eq_ok_iff.mpr reads).symm.trans first

/-! ## Numbers -/

theorem natOfChars?_toDigits (number : Nat) :
    natOfChars? (Nat.toDigits 10 number) = some number := by
  have digits : (Nat.toDigits 10 number).all Char.isDigit = true :=
    List.all_eq_true.mpr fun _ member => isDigit_of_mem_toDigits member
  have filled : (Nat.toDigits 10 number).isEmpty = false :=
    List.isEmpty_eq_false_iff.mpr Nat.toDigits_ne_nil
  rw [natOfChars?, filled, digits, foldl_toDigits]
  rfl

theorem numberOf_toDigits (number : UInt64) :
    numberOf (String.ofList (Nat.toDigits 10 number.toNat)) = .ok number := by
  have unsigned : ∀ rest, Nat.toDigits 10 number.toNat ≠ '+' :: rest := by
    intro rest signed
    have digit : ('+').isDigit = true :=
      isDigit_of_mem_toDigits (signed ▸ List.mem_cons_self)
    cases digit
  have small : number.toNat ≤ largestNumber := Nat.le_pred_of_lt number.toNat_lt
  -- There is no sign to be taken off in front of the digits.
  simp only [numberOf, String.toList_ofList, natOfChars?_toDigits, if_pos small,
    UInt64.ofNat_toNat]

/-- The number that an option says, or the one that is meant when it is not given. -/
inductive Gives (options : List Given) (name : String) (fallback : UInt64) : UInt64 → Prop
  | unsaid (unsaid : valuesOf options name = []) : Gives options name fallback fallback
  | said {text : String} {number : UInt64} (said : valuesOf options name = [text])
      (read : numberOf text = .ok number) : Gives options name fallback number

theorem Gives.exists_value? {options : List Given} {name : String} {fallback number : UInt64}
    (gives : Gives options name fallback number) :
    ∃ value?, valueOf? options name = .ok value? ∧
      (match value? with
        | some text => numberOf text
        | none => .ok fallback) = .ok number := by
  cases gives with
  | unsaid unsaid => exact ⟨none, by rw [valueOf?, unsaid], rfl⟩
  | said said read => exact ⟨some _, by rw [valueOf?, said], read⟩

end CommandLine

/-- The option for the conditions of a section. -/
def Section.flag : Section → String
  | .must => "where"
  | .should => "or"
  | .filter => "filter"

namespace CommandLine

/-- The search for pairs that are given by section. -/
def SearchOptions.ofPairs (table : String) (pairs : Section → List (String × Json))
    (page size : UInt64) : SearchOptions :=
  ⟨table, pairs .must, pairs .should, pairs .filter, page, size⟩

/-- What the options of a search say: the pairs of each section in order, and the page.  It is all
that the search is made of, so the options of different names can stand in any order. -/
theorem searchOf_cases {options : List Given} {page size : UInt64}
    (paged : Gives options "page" 1 page) (sized : Gives options "size" 50 size) (table : String) :
    (∃ pairs : Section → List (String × Json),
      (∀ target, List.Forall₂ IsPair (valuesOf options target.flag) (pairs target)) ∧
        searchOf options table = .ok (.ofPairs table pairs page size)) ∨
      (∃ target, ∃ raw ∈ valuesOf options (Section.flag target), ∀ pair, ¬IsPair raw pair) ∧
        ∃ reason, searchOf options table = .error (.invalid reason) := by
  obtain ⟨page?, pageGiven, pageRead⟩ := paged.exists_value?
  obtain ⟨size?, sizeGiven, sizeRead⟩ := sized.exists_value?
  unfold searchOf
  obtain ⟨must, mustReads, mustRead⟩ | ⟨unread, reason, refused⟩ :=
    mapM_pairOf_cases (valuesOf options "where")
  · obtain ⟨should, shouldReads, shouldRead⟩ | ⟨unread, reason, refused⟩ :=
      mapM_pairOf_cases (valuesOf options "or")
    · obtain ⟨filter, filterReads, filterRead⟩ | ⟨unread, reason, refused⟩ :=
        mapM_pairOf_cases (valuesOf options "filter")
      · refine .inl ⟨fun | .must => must | .should => should | .filter => filter, ?_, ?_⟩
        · rintro (_ | _ | _)
          · exact mustReads
          · exact shouldReads
          · exact filterReads
        · rw [mustRead, shouldRead, filterRead, pageGiven, sizeGiven]
          cases page? <;> cases size? <;>
            simp_all only [bind, Except.bind, pure, Except.pure, Except.ok.injEq,
              SearchOptions.ofPairs]
      · exact .inr ⟨⟨.filter, unread⟩, reason, by rw [mustRead, shouldRead, refused]; rfl⟩
    · exact .inr ⟨⟨.should, unread⟩, reason, by rw [mustRead, refused]; rfl⟩
  · exact .inr ⟨⟨.must, unread⟩, reason, by rw [refused]; rfl⟩

/-! ## Sorting out -/

/-- The arguments that an option is written as. -/
def Given.arguments (given : Given) : List String :=
  if given.attached then ["--" ++ given.name ++ "=" ++ given.value]
  else ["--" ++ given.name, given.value]

theorem length_le_flatMap_arguments (options : List Given) :
    options.length ≤ (options.flatMap Given.arguments).length := by
  induction options with
  | nil => exact Nat.le_refl 0
  | cons given rest ih =>
      have positive : 0 < given.arguments.length := by
        unfold Given.arguments
        split <;> simp
      rw [List.length_cons, List.flatMap_cons, List.length_append]
      omega

/-- Whether an option can be read when it is written: it is known, and a value that looks like an
option stands behind an equals sign. -/
structure Given.IsReadable (known : List String) (given : Given) : Prop where
  known : given.name ∈ known
  undashed : given.attached = false → isDashed given.value = false

instance (known : List String) (given : Given) : Decidable (given.IsReadable known) :=
  decidable_of_iff
    (given.name ∈ known ∧ (given.attached = false → isDashed given.value = false))
    ⟨fun ⟨known, undashed⟩ => ⟨known, undashed⟩, fun ⟨known, undashed⟩ => ⟨known, undashed⟩⟩

/-- Whether options of these names are told apart from everything else. -/
def ArePlain (known : List String) : Prop :=
  ∀ name ∈ known, name ≠ "" ∧ name ≠ "help" ∧ '=' ∉ name.toList

theorem longOption?_attached {name : String} (free : '=' ∉ name.toList) (value : String) :
    longOption? ("--" ++ name ++ "=" ++ value) = some (name, some value) := by
  have chars : ("--" ++ name ++ "=" ++ value).toList =
      '-' :: '-' :: (name.toList ++ '=' :: value.toList) := by simp
  obtain ⟨front, behind⟩ := takeWhile_append_mark free value.toList
  simp only [longOption?, chars, front, behind, String.ofList_toList]

theorem longOption?_separate {name : String} (free : '=' ∉ name.toList) :
    longOption? ("--" ++ name) = some (name, none) := by
  have chars : ("--" ++ name).toList = '-' :: '-' :: name.toList := by simp
  have plain : ∀ c ∈ name.toList, decide (c ≠ '=') = true := fun c member =>
    decide_eq_true fun same => free (same ▸ member)
  have front : name.toList.takeWhile (fun c => c ≠ '=') = name.toList :=
    List.takeWhile_eq_self_iff.mpr plain
  have behind : name.toList.dropWhile (fun c => c ≠ '=') = [] :=
    List.dropWhile_eq_nil_iff.mpr plain
  simp only [longOption?, chars, front, behind, String.ofList_toList]

theorem front_arguments {known : List String} (plain : ArePlain known) {given : Given}
    (readable : given.IsReadable known) (rest : List String) :
    ∃ argument others, given.arguments ++ rest = argument :: others ∧ argument ≠ "--" ∧
      front known argument others = .ok (.option given, rest) := by
  obtain ⟨named, notHelp, free⟩ := plain given.name readable.known
  have isKnown : known.contains given.name = true := List.contains_iff_mem.mpr readable.known
  obtain ⟨name, value, attached⟩ := given
  cases attached with
  | true =>
      refine ⟨"--" ++ name ++ "=" ++ value, rest, rfl, ?_, ?_⟩
      · intro same
        have chars := congrArg String.toList same
        simp at chars
      · rw [front, longOption?_attached free]
        simp_all
  | false =>
      refine ⟨"--" ++ name, value :: rest, rfl, ?_, ?_⟩
      · intro same
        have chars := congrArg String.toList same
        simp at chars
        exact named chars
      · have undashed := readable.undashed rfl
        rw [front, longOption?_separate free]
        simp_all

theorem front_of_not_dashed {argument : String} (undashed : isDashed argument = false)
    (known rest : List String) : front known argument rest = .ok (.operand, rest) := by
  have notLong : longOption? argument = none := by
    unfold longOption?
    split
    · rename_i chars
      simp [isDashed, chars] at undashed
    · rfl
  have notHelp : isShortHelp argument = false := by
    unfold isShortHelp
    split
    · rename_i chars
      simp [isDashed, chars] at undashed
    · rfl
  simp [front, notLong, notHelp, undashed]

theorem ne_dashes_of_not_dashed {argument : String} (undashed : isDashed argument = false) :
    argument ≠ "--" := by
  rintro rfl
  cases undashed

theorem sortOut_options {known : List String} (plain : ArePlain known) {options : List Given}
    (readable : ∀ given ∈ options, given.IsReadable known) (room : Option Nat) (bound : Nat)
    (rest : List String) :
    sortOut known room (options.length + bound) (options.flatMap Given.arguments ++ rest) =
      (sortOut known room bound rest).map fun sorted =>
        { sorted with options := options ++ sorted.options } := by
  induction options with
  | nil =>
      rw [List.length_nil, Nat.zero_add, List.flatMap_nil, List.nil_append]
      cases sortOut known room bound rest <;> rfl
  | cons given options ih =>
      obtain ⟨first, others⟩ := List.forall_mem_cons.mp readable
      obtain ⟨argument, behind, written, notDashes, read⟩ :=
        front_arguments plain first (options.flatMap Given.arguments ++ rest)
      have length : (given :: options).length + bound = options.length + bound + 1 := by
        rw [List.length_cons]
        omega
      rw [List.flatMap_cons, List.append_assoc, written, length, sortOut, if_neg notDashes, read]
      have sorted := ih others
      cases outcome : sortOut known room bound rest with
      | error usage =>
          rw [outcome] at sorted
          simp [bind, Except.bind, sorted, Except.map]
      | ok result =>
          rw [outcome] at sorted
          simp [bind, Except.bind, sorted, Except.map, pure, Except.pure]

theorem sortOut_nil (known : List String) (room : Option Nat) (bound : Nat) :
    sortOut known room bound [] = .ok ⟨[], [], false⟩ := by
  cases bound <;> simp [sortOut]

theorem splitCommand_options {known : List String} (plain : ArePlain known) {options : List Given}
    (readable : ∀ given ∈ options, given.IsReadable known) {name : String}
    (undashed : isDashed name = false) (bound : Nat) (rest : List String) :
    splitCommand known (options.length + (bound + 1))
      (options.flatMap Given.arguments ++ name :: rest) = .ok (options, some (name, rest)) := by
  induction options with
  | nil =>
      rw [List.length_nil, Nat.zero_add, List.flatMap_nil, List.nil_append, splitCommand,
        if_neg (ne_dashes_of_not_dashed undashed), front_of_not_dashed undashed]
      rfl
  | cons given options ih =>
      obtain ⟨first, others⟩ := List.forall_mem_cons.mp readable
      obtain ⟨argument, behind, written, notDashes, read⟩ :=
        front_arguments plain first (options.flatMap Given.arguments ++ name :: rest)
      have length : (given :: options).length + (bound + 1) =
          options.length + (bound + 1) + 1 := by
        rw [List.length_cons]
        omega
      rw [List.flatMap_cons, List.append_assoc, written, length, splitCommand, if_neg notDashes,
        read]
      simp [bind, Except.bind, ih others, pure, Except.pure]

/-- The options in front of a command are settled before it, apart from the last one perhaps. -/
theorem settled_eq (options : List Given) :
    settled options = options ∨ ∃ last, options = settled options ++ [last] := by
  induction options with
  | nil => exact .inl rfl
  | cons given rest ih =>
      cases rest with
      | nil =>
          cases attached : given.attached with
          | true => exact .inl (by rw [settled, attached]; rfl)
          | false => exact .inr ⟨given, by rw [settled, attached]; rfl⟩
      | cons next others =>
          have unfolded : settled (given :: next :: others) = given :: settled (next :: others) := by
            rw [settled]
            simp
          rw [unfolded]
          obtain same | ⟨last, same⟩ := ih
          · exact .inl (congrArg (given :: ·) same)
          · exact .inr ⟨last, congrArg (given :: ·) same⟩

/-- A connection can be read off options that make sense one by one. -/
theorem exists_connectionOf_iff {environment : Environment} {options : List Given} :
    (∃ connection, connectionOf environment options = .ok connection) ↔
      (∃ username?, valueOf? options "username" = .ok username?) ∧
      (∃ password?, valueOf? options "password" = .ok password?) ∧
      ∃ timeout?, valueOf? options "timeout-ms" = .ok timeout? ∧
        ∀ text, timeout?.or (environment "DOCQUERY_TIMEOUT_MS") = some text →
          ∃ number, numberOf text = .ok number := by
  unfold connectionOf
  cases valueOf? options "username" with
  | error usage => simp [bind, Except.bind]
  | ok username? =>
      cases valueOf? options "password" with
      | error usage => simp [bind, Except.bind]
      | ok password? =>
          cases valueOf? options "timeout-ms" with
          | error usage => simp [bind, Except.bind]
          | ok timeout? =>
              cases said : timeout?.or (environment "DOCQUERY_TIMEOUT_MS") with
              | none => simp [-Option.or_eq_some_iff, bind, Except.bind, pure, Except.pure, said]
              | some text =>
                  cases read : numberOf text <;>
                    simp [-Option.or_eq_some_iff, bind, Except.bind, pure, Except.pure, said, read]

theorem valuesOf_append (front behind : List Given) (name : String) :
    valuesOf (front ++ behind) name = valuesOf front name ++ valuesOf behind name := by
  simp [valuesOf]

/-- An option that is given once at most is given so among the settled ones, if at all. -/
theorem valueOf?_settled {options : List Given} {name : String} {value? : Option String}
    (given : valueOf? options name = .ok value?) :
    ∃ settled?, valueOf? (settled options) name = .ok settled? ∧
      (settled? = none ∨ settled? = value?) := by
  obtain same | ⟨last, same⟩ := settled_eq options
  · exact ⟨value?, by rw [same, given], .inr rfl⟩
  · rw [same, valueOf?, valuesOf_append] at given
    unfold valueOf?
    cases values : valuesOf (settled options) name with
    | nil => exact ⟨none, rfl, .inl rfl⟩
    | cons value others =>
        rw [values] at given
        cases others with
        | nil =>
            refine ⟨some value, rfl, .inr ?_⟩
            cases behind : valuesOf [last] name with
            | nil =>
                rw [behind] at given
                exact Except.ok.inj given
            | cons another _ =>
                rw [behind] at given
                cases given
        | cons next others => cases given

theorem checkOptions_settled {environment : Environment} {options : List Given}
    {connection : Connection} (connected : connectionOf environment options = .ok connection) :
    checkOptions (settled options) = .ok () := by
  obtain ⟨⟨_, username⟩, ⟨_, password⟩, timeout?, timeout, number⟩ :=
    exists_connectionOf_iff.mp ⟨connection, connected⟩
  obtain ⟨_, settledUsername, _⟩ := valueOf?_settled username
  obtain ⟨_, settledPassword, _⟩ := valueOf?_settled password
  obtain ⟨settled?, settledTimeout, among⟩ := valueOf?_settled timeout
  have sense : ∃ connection, connectionOf (fun _ => none) (settled options) = .ok connection := by
    refine exists_connectionOf_iff.mpr ⟨⟨_, settledUsername⟩, ⟨_, settledPassword⟩, settled?,
      settledTimeout, ?_⟩
    intro text said
    rw [Option.or_none] at said
    obtain rfl | rfl := among
    · cases said
    · exact number text (by rw [said, Option.some_or])
  obtain ⟨alone, read⟩ := sense
  rw [checkOptions, read]
  rfl

/-! ## Lines -/

/-- The names of the options in front of a command. -/
def connectionNames : List String := HelpTopic.program.flagNames

/-- The names of the options of a search. -/
def searchNames : List String := searchFlags.map Flag.name

theorem arePlain_connectionNames : ArePlain connectionNames := by
  unfold ArePlain
  decide +kernel

theorem arePlain_searchNames : ArePlain searchNames := by
  unfold ArePlain
  decide +kernel

/-- Whether arguments that ask for a search are sorted out to these options of the connection and of
the search, and this table. -/
def Delivers (arguments : List String) (connecting options : List Given) (table : String) : Prop :=
  ∃ behind, splitCommand connectionNames arguments.length arguments =
      .ok (connecting, some ("search", behind)) ∧
    sortOut searchNames (some 1) behind.length behind = .ok ⟨options, [table], false⟩

theorem Delivers.ofArguments_eq {environment : Environment} {arguments : List String}
    {connecting options : List Given} {table : String} {connection : Connection}
    (delivers : Delivers arguments connecting options table)
    (connected : connectionOf environment connecting = .ok connection) :
    ofArguments environment arguments =
      (searchOf options table).map fun search => ⟨connection, .search search⟩ := by
  obtain ⟨behind, split, sorted⟩ := delivers
  have form : commandForm? "search" =
      some ⟨"search", "Search a table", ["<TABLE>"], some 1, searchFlags⟩ := by decide +kernel
  have command : commandOfArguments "search" behind = (searchOf options table).map .search := by
    rw [searchNames] at sorted
    simp [commandOfArguments, form, HelpTopic.flagNames, sorted, bind, Except.bind, commandOf]
  rw [connectionNames] at split
  rw [ofArguments, split]
  simp only [bind, Except.bind, checkOptions_settled connected, command, connected]
  cases searchOf options table <;> rfl

/-- A command line that asks for a search. -/
structure SearchLine where
  /-- The options of the connection. -/
  connecting : List Given
  /-- The options of the search in front of the table. -/
  before : List Given
  table : String
  /-- The options of the search behind the table. -/
  behind : List Given
  /-- Whether the table stands behind `--`, where nothing is an option any more. -/
  closed : Bool
  readableConnecting : ∀ given ∈ connecting, given.IsReadable connectionNames
  readableBefore : ∀ given ∈ before, given.IsReadable searchNames
  readableBehind : ∀ given ∈ behind, given.IsReadable searchNames
  /-- A table that looks like an option stands behind `--`. -/
  undashed : closed = false → isDashed table = false
  /-- What stands behind `--` is the table alone. -/
  last : closed = true → behind = []

namespace SearchLine

/-- The options of the search, in order. -/
def options (line : SearchLine) : List Given := line.before ++ line.behind

/-- The arguments behind the name of the command. -/
def searchArguments (line : SearchLine) : List String :=
  line.before.flatMap Given.arguments ++
    if line.closed then ["--", line.table]
    else line.table :: line.behind.flatMap Given.arguments

/-- The arguments of the program. -/
def arguments (line : SearchLine) : List String :=
  line.connecting.flatMap Given.arguments ++ "search" :: line.searchArguments

/-- Sorting out what stands behind the command gives the options in order and the table. -/
theorem sortOut_searchArguments (line : SearchLine) :
    sortOut searchNames (some 1) line.searchArguments.length line.searchArguments =
      .ok ⟨line.options, [line.table], false⟩ := by
  have front := length_le_flatMap_arguments line.before
  have back := length_le_flatMap_arguments line.behind
  unfold searchArguments options
  cases closed : line.closed with
  | true =>
      obtain ⟨bound, length⟩ : ∃ bound, (line.before.flatMap Given.arguments ++
          ["--", line.table]).length = line.before.length + (bound + 1) :=
        ⟨(line.before.flatMap Given.arguments).length + 1 - line.before.length, by
          rw [List.length_append, List.length_cons, List.length_singleton]
          omega⟩
      rw [if_pos rfl, length, sortOut_options arePlain_searchNames line.readableBefore, sortOut,
        if_pos rfl, line.last closed]
      rfl
  | false =>
      have undashed := line.undashed closed
      obtain ⟨bound, length⟩ : ∃ bound, (line.before.flatMap Given.arguments ++
          line.table :: line.behind.flatMap Given.arguments).length =
            line.before.length + (line.behind.length + bound + 1) :=
        ⟨(line.before.flatMap Given.arguments).length - line.before.length +
          ((line.behind.flatMap Given.arguments).length - line.behind.length), by
          rw [List.length_append, List.length_cons]
          omega⟩
      have rest := sortOut_options arePlain_searchNames line.readableBehind (some 0) bound []
      rw [sortOut_nil, List.append_nil] at rest
      rw [if_neg Bool.false_ne_true, length,
        sortOut_options arePlain_searchNames line.readableBefore, sortOut,
        if_neg (ne_dashes_of_not_dashed undashed), front_of_not_dashed undashed]
      simp [bind, Except.bind, rest, Except.map, pure, Except.pure]

theorem splitCommand_arguments (line : SearchLine) :
    splitCommand connectionNames line.arguments.length line.arguments =
      .ok (line.connecting, some ("search", line.searchArguments)) := by
  have front := length_le_flatMap_arguments line.connecting
  obtain ⟨bound, length⟩ : ∃ bound, line.arguments.length =
      line.connecting.length + (bound + 1) :=
    ⟨(line.connecting.flatMap Given.arguments).length - line.connecting.length +
      line.searchArguments.length, by
      rw [arguments, List.length_append, List.length_cons]
      omega⟩
  rw [length, arguments]
  exact splitCommand_options arePlain_connectionNames line.readableConnecting (by decide) bound _

/-- However a line is written, its options are delivered in order, and its table. -/
theorem delivers (line : SearchLine) :
    Delivers line.arguments line.connecting line.options line.table :=
  ⟨_, line.splitCommand_arguments, line.sortOut_searchArguments⟩

end SearchLine

end CommandLine

end DocumentSearch
