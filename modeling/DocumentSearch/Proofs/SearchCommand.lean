import DocumentSearch.CommandLine.Run
import DocumentSearch.Proofs.CommandLines
import DocumentSearch.Proofs.Conditions
import DocumentSearch.Proofs.Rotation

/-!
# The search command

Carrying out a search is setting what its options say on a new client and performing one operation.
The setters are accepted exactly when the table has a name, the page is one, and every pair is a
condition; then the client has drafted the pairs of each section, written in order, and the one call
is the search compiled from that.  A single refused setter, also the last one, leaves no call at all.
-/

namespace DocumentSearch

namespace Setter

theorem apply_table_eq_ok_iff {name : String} {draft next : Draft} :
    (table name).apply draft = .ok next ↔
      name ≠ "" ∧ next = { draft with table := some name } := by
  rw [apply, Draft.setTable]
  split <;> simp_all [eq_comm]

theorem apply_page_eq_ok_iff {number size : UInt64} {draft next : Draft} :
    (page number size).apply draft = .ok next ↔
      number ≠ 0 ∧ size ≠ 0 ∧ next = { draft with page := ⟨number, size⟩ } := by
  rw [apply, Draft.setPage, Page.new]
  split
  · simp_all [Except.map]
  · split <;> simp_all [Except.map, eq_comm]

end Setter

namespace CommandLine

/-! ## Setters in order -/

theorem setAll_cons_eq_ok_iff {client next : Client} {setter : Setter} {rest : List Setter} :
    setAll client (setter :: rest) = .ok next ↔
      ∃ draft, setter.apply client.draft = .ok draft ∧
        setAll ⟨draft, client.tally⟩ rest = .ok next := by
  rw [setAll, Client.set]
  cases setter.apply client.draft with
  | error cause => simp [Except.map]
  | ok draft => simp [Except.map]

theorem setAll_append_eq_ok_iff {client next : Client} {first second : List Setter} :
    setAll client (first ++ second) = .ok next ↔
      ∃ middle, setAll client first = .ok middle ∧ setAll middle second = .ok next := by
  induction first generalizing client with
  | nil => simp [setAll]
  | cons setter rest ih =>
      rw [List.cons_append, setAll_cons_eq_ok_iff]
      simp only [ih, setAll_cons_eq_ok_iff]
      constructor
      · rintro ⟨draft, applied, middle, before, after⟩
        exact ⟨middle, ⟨draft, applied, before⟩, after⟩
      · rintro ⟨middle, ⟨draft, applied, before⟩, after⟩
        exact ⟨draft, applied, middle, before, after⟩

/-- The conditions that pairs ask for in a section. -/
def conditionsOf (target : Section) (pairs : List (String × Json)) : List (String × Predicate) :=
  pairs.map fun pair => (pair.1, target.predicate pair.2)

/-- Whether pairs can be conditions: their fields have names and their values can be compared
with. -/
def AreConditions (pairs : List (String × Json)) : Prop :=
  ∀ pair ∈ pairs, pair.1 ≠ "" ∧ pair.2.IsOperand

/-- The draft with pairs written into a section in order. -/
def withPairs (draft : Draft) (target : Section) (pairs : List (String × Json)) : Draft :=
  draft.withConditions target ((draft.conditions target).insertAll (conditionsOf target pairs))

theorem withPairs_nil (draft : Draft) (target : Section) : withPairs draft target [] = draft := by
  cases target <;> rfl

theorem withPairs_cons (draft : Draft) (target : Section) (pair : String × Json)
    (rest : List (String × Json)) :
    withPairs draft target (pair :: rest) =
      withPairs (draft.withPredicate target pair.1 (target.predicate pair.2)) target rest := by
  cases target <;> rfl

theorem setAll_pairs_eq_ok_iff {client next : Client} {target : Section}
    {pairs : List (String × Json)} :
    setAll client (pairs.map fun pair => target.setter pair.1 pair.2) = .ok next ↔
      AreConditions pairs ∧ next = ⟨withPairs client.draft target pairs, client.tally⟩ := by
  induction pairs generalizing client with
  | nil =>
      rw [withPairs_nil]
      constructor
      · intro ended
        cases ended
        exact ⟨List.forall_mem_nil _, rfl⟩
      · rintro ⟨_, rfl⟩
        rfl
  | cons pair rest ih =>
      rw [List.map_cons, setAll_cons_eq_ok_iff, AreConditions, List.forall_mem_cons,
        withPairs_cons]
      constructor
      · rintro ⟨draft, applied, others⟩
        obtain ⟨isCondition, rfl⟩ := Setter.apply_setter_eq_ok_iff.mp applied
        obtain ⟨areConditions, same⟩ := ih.mp others
        exact ⟨⟨isCondition, areConditions⟩, same⟩
      · rintro ⟨⟨isCondition, areConditions⟩, same⟩
        exact ⟨_, Setter.apply_setter_eq_ok_iff.mpr ⟨isCondition, rfl⟩,
          ih.mpr ⟨areConditions, same⟩⟩

namespace SearchOptions

/-- The pairs for a section. -/
def pairs (options : SearchOptions) : Section → List (String × Json)
  | .must => options.must
  | .should => options.should
  | .filter => options.filter

theorem pairs_ofPairs (table : String) (pairs : Section → List (String × Json))
    (page size : UInt64) : (ofPairs table pairs page size).pairs = pairs := by
  funext target
  cases target <;> rfl

/-- The draft that the setters of a search put together. -/
def draft (options : SearchOptions) : Draft where
  table := some options.table
  must := .ofList (conditionsOf .must options.must)
  should := .ofList (conditionsOf .should options.should)
  filter := .ofList (conditionsOf .filter options.filter)
  page := ⟨options.page, options.size⟩

/-- Whether the setters of a search are accepted. -/
structure AreAccepted (options : SearchOptions) : Prop where
  named : options.table ≠ ""
  numbered : options.page ≠ 0
  sized : options.size ≠ 0
  conditions : ∀ target, AreConditions (options.pairs target)

theorem setAll_setters_eq_ok_iff {options : SearchOptions} {client : Client} :
    setAll .new options.setters = .ok client ↔
      options.AreAccepted ∧ client = ⟨options.draft, .empty⟩ := by
  have inSections : options.setters =
      .table options.table :: .page options.page options.size ::
        ((options.must.map fun pair => Section.must.setter pair.1 pair.2) ++
          (options.should.map fun pair => Section.should.setter pair.1 pair.2) ++
          (options.filter.map fun pair => Section.filter.setter pair.1 pair.2)) := rfl
  rw [inSections]
  simp only [setAll_cons_eq_ok_iff, setAll_append_eq_ok_iff, setAll_pairs_eq_ok_iff,
    Setter.apply_table_eq_ok_iff, Setter.apply_page_eq_ok_iff]
  constructor
  · rintro ⟨_, ⟨named, rfl⟩, _, ⟨numbered, sized, rfl⟩, _, ⟨_, ⟨must, rfl⟩, should, rfl⟩,
      filter, rfl⟩
    refine ⟨⟨named, numbered, sized, ?_⟩, rfl⟩
    rintro (_ | _ | _)
    · exact must
    · exact should
    · exact filter
  · rintro ⟨⟨named, numbered, sized, conditions⟩, rfl⟩
    exact ⟨_, ⟨named, rfl⟩, _, ⟨numbered, sized, rfl⟩, _,
      ⟨_, ⟨conditions .must, rfl⟩, conditions .should, rfl⟩, conditions .filter, rfl⟩

end SearchOptions

/-! ## Carrying out -/

namespace Command

variable {σ : Type} (engine : Engine σ) {options : SearchOptions}

/-- A search whose setters are accepted makes one call, and passes on what is answered. -/
theorem run_search_of_accepted (accepted : options.AreAccepted) {sent : Search}
    (compiled : options.draft.compile = .ok sent) (state : σ) :
    (search options).run engine state =
      (((engine.answer (.search sent) state).1.map SearchReport.toJson).mapError .failed,
        (engine.answer (.search sent) state).2) := by
  have set := SearchOptions.setAll_setters_eq_ok_iff.mpr ⟨accepted, rfl⟩
  have planned : Operation.get.plan options.draft = .ok (.search sent) := by
    rw [Operation.plan, compiled]
    rfl
  simp only [run, script, Script.run, set, Client.perform, planned]
  rfl

/-- A search of which a setter is refused makes no call. -/
theorem run_search_of_not_accepted (refused : ¬options.AreAccepted) (state : σ) :
    ∃ cause, (search options).run engine state =
      (.error (.failed (.invalidInput cause)), state) := by
  obtain ⟨cause, stopped⟩ : ∃ cause, setAll .new options.setters = .error cause := by
    rw [exists_eq_error_iff]
    rintro ⟨client, set⟩
    exact refused (SearchOptions.setAll_setters_eq_ok_iff.mp set).1
  refine ⟨cause, ?_⟩
  simp only [run, script, Script.run, stopped]
  rfl

end Command

/-- What the program does with delivered options of a usable connection. -/
theorem execute_of_delivers {τ : Type} {environment : Environment} {arguments : List String}
    {connecting options : List Given} {table : String} {connection : Connection}
    {cluster : Http.Cluster} (delivers : Delivers arguments connecting options table)
    (connected : connectionOf environment connecting = .ok connection)
    (usable : Http.Cluster.ofConnection connection = .ok cluster) (transport : Http.Transport τ)
    (state : τ) :
    execute environment arguments transport state =
      match searchOf options table with
      | .error usage => (.ofUsage environment usage, state)
      | .ok search =>
          let ended := (Command.search search).run (cluster.engine transport) ⟨0, state⟩
          (.ofResult ended.1, ended.2.transport) := by
  rw [execute, delivers.ofArguments_eq connected]
  cases searchOf options table with
  | error usage => rfl
  | ok search => simp only [Except.map, Invocation.run, usable]

theorem searchOf_congr {options others : List Given} {table : String}
    (same : ∀ name, valuesOf others name = valuesOf options name) :
    searchOf others table = searchOf options table := by
  simp only [searchOf, valueOf?, same]

/-- Whether a search can be made of its options: the table has a name, there is such a page, and
every text of a condition stands for a named field and a value that can be compared with. -/
structure IsSound (table : String) (options : List Given) (page size : UInt64) : Prop where
  named : table ≠ ""
  numbered : page ≠ 0
  sized : size ≠ 0
  readable : ∀ target : Section, ∀ raw ∈ valuesOf options target.flag,
    ∃ field value, IsPair raw (field, value) ∧ field ≠ "" ∧ value.IsOperand

/-- Whether a search is the compiled query of the page and of the pairs for each section: of each
field, the last pair counts and stands at the place of the first. -/
def IsSearchOf (search : Search) (table : String) (page size : UInt64)
    (pairs : Section → List (String × Json)) : Prop :=
  ∃ draft : Draft, draft.table = some table ∧ draft.page = ⟨page, size⟩ ∧
    (∀ target, (draft.conditions target).entries =
      Entries.lastWrites (conditionsOf target (pairs target))) ∧
    draft.compile = .ok search

theorem IsPair.unique {raw : String} {first second : String × Json} (reads : IsPair raw first)
    (alsoReads : IsPair raw second) : first = second :=
  Except.ok.inj ((pairOf_eq_ok_iff.mpr reads).symm.trans (pairOf_eq_ok_iff.mpr alsoReads))

theorem areConditions_iff {raws : List String} {pairs : List (String × Json)}
    (reads : List.Forall₂ IsPair raws pairs) :
    AreConditions pairs ↔
      ∀ raw ∈ raws, ∃ field value, IsPair raw (field, value) ∧ field ≠ "" ∧ value.IsOperand := by
  induction reads with
  | nil => exact iff_of_true (List.forall_mem_nil _) (List.forall_mem_nil _)
  | cons first others ih =>
      rw [AreConditions, List.forall_mem_cons, List.forall_mem_cons, ← ih]
      refine and_congr_left fun _ => ?_
      constructor
      · intro isCondition
        exact ⟨_, _, first, isCondition⟩
      · rintro ⟨field, value, reads, isCondition⟩
        rw [first.unique reads]
        exact isCondition

theorem SearchOptions.entries_draft (options : SearchOptions) (target : Section) :
    (options.draft.conditions target).entries =
      Entries.lastWrites (conditionsOf target (options.pairs target)) := by
  cases target <;> exact OrderedMap.entries_ofList _

/-- A search of readable texts is sound when its setters are accepted. -/
theorem isSound_iff_areAccepted {options : List Given} {pairs : Section → List (String × Json)}
    (reads : ∀ target, List.Forall₂ IsPair (valuesOf options (Section.flag target)) (pairs target))
    {table : String} {page size : UInt64} :
    IsSound table options page size ↔
      (SearchOptions.ofPairs table pairs page size).AreAccepted := by
  constructor
  · rintro ⟨named, numbered, sized, readable⟩
    refine ⟨named, numbered, sized, fun target => ?_⟩
    rw [SearchOptions.pairs_ofPairs]
    exact (areConditions_iff (reads target)).mpr (readable target)
  · rintro ⟨named, numbered, sized, conditions⟩
    refine ⟨named, numbered, sized, fun target => ?_⟩
    rw [SearchOptions.pairs_ofPairs] at conditions
    exact (areConditions_iff (reads target)).mp (conditions target)

/-- The command line of a search refines a client.  However it is written, its options are delivered
in order, and every number can be given.  With a usable connection, the program makes the one call
for the compiled query of the pairs and passes on its answer if the search is sound; otherwise it
makes none and fails.  How options of different names are interleaved makes no difference, apart from
what is said about arguments that make no sense. -/
theorem search_refines_client :
    (∀ line : SearchLine, Delivers line.arguments line.connecting line.options line.table) ∧
    (∀ number : UInt64, numberOf (String.ofList (Nat.toDigits 10 number.toNat)) = .ok number) ∧
    ∀ {τ : Type} (transport : Http.Transport τ) (start : τ) (environment : Environment)
      (arguments : List String) (connecting options : List Given) (table : String)
      (page size : UInt64) (connection : Connection) (cluster : Http.Cluster),
      Delivers arguments connecting options table →
      connectionOf environment connecting = .ok connection →
      Http.Cluster.ofConnection connection = .ok cluster →
      Gives options "page" 1 page → Gives options "size" 50 size →
      let ended := execute environment arguments transport.watched (start, [])
      (IsSound table options page size →
        ∃ pairs sent,
          (∀ target, List.Forall₂ IsPair (valuesOf options (Section.flag target))
            (pairs target)) ∧
          IsSearchOf sent table page size pairs ∧
          ended.2.2 = [cluster.request (.search sent) 0] ∧
          let answered :=
            (cluster.engine transport.watched).answer (.search sent) ⟨0, start, []⟩
          ended = (.ofResult ((answered.1.map SearchReport.toJson).mapError .failed),
            answered.2.transport)) ∧
      (¬IsSound table options page size →
        ended.2 = (start, []) ∧ ended.1.exit ≠ 0 ∧ ended.1.stdout = "") ∧
      ∀ (others : List String) (reconnecting reordered : List Given),
        Delivers others reconnecting reordered table →
        connectionOf environment reconnecting = .ok connection →
        (∀ name, valuesOf reordered name = valuesOf options name) →
        let again := execute environment others transport.watched (start, [])
        again.2 = ended.2 ∧ again.1.exit = ended.1.exit ∧ again.1.stdout = ended.1.stdout ∧
          (ended.1.exit ≠ 2 → again.1.stderr = ended.1.stderr) := by
  refine ⟨SearchLine.delivers, numberOf_toDigits, ?_⟩
  intro τ transport start environment arguments connecting options table page size connection
    cluster delivers connected usable paged sized ended
  have executed : ended = _ :=
    execute_of_delivers delivers connected usable transport.watched (start, [])
  refine ⟨?_, ?_, ?_⟩
  · intro sound
    obtain ⟨pairs, reads, read⟩ | ⟨⟨target, raw, member, unread⟩, _⟩ :=
      searchOf_cases paged sized table
    · let search : SearchOptions := .ofPairs table pairs page size
      have compiled : search.draft.compile = .ok _ := Draft.compile_of_some rfl
      have ran := Command.run_search_of_accepted (cluster.engine transport.watched)
        ((isSound_iff_areAccepted reads).mp sound) compiled ⟨0, start, []⟩
      rw [read] at executed
      simp only [ran] at executed
      refine ⟨pairs, _, reads, ⟨search.draft, rfl, rfl, ?_, compiled⟩, ?_, executed⟩
      · intro target
        rw [search.entries_draft, SearchOptions.pairs_ofPairs]
      · rw [executed]
        exact (cluster.after_call transport (.search _) ⟨0, start, []⟩).2
    · obtain ⟨field, value, reads, _⟩ := sound.readable target raw member
      exact absurd reads (unread _)
  · intro unsound
    obtain ⟨pairs, reads, read⟩ | ⟨_, reason, refused⟩ := searchOf_cases paged sized table
    · obtain ⟨cause, ran⟩ := Command.run_search_of_not_accepted
        (cluster.engine transport.watched)
        (fun accepted => unsound ((isSound_iff_areAccepted reads).mpr accepted)) ⟨0, start, []⟩
      rw [read] at executed
      simp only [ran] at executed
      rw [executed]
      exact ⟨rfl, (by decide : (1 : UInt32) ≠ 0), rfl⟩
    · rw [refused] at executed
      rw [executed]
      exact ⟨rfl, (by decide : (2 : UInt32) ≠ 0), rfl⟩
  · intro others reconnecting reordered redelivers reconnected same again
    have reexecuted : again = _ :=
      execute_of_delivers redelivers reconnected usable transport.watched (start, [])
    rw [searchOf_congr same, ← executed] at reexecuted
    rw [reexecuted]
    exact ⟨rfl, rfl, rfl, fun _ => rfl⟩

/-- A line that writes one field of a section twice, with an equals sign in the value, and looks for
one of two values in another section. -/
def stormLine : SearchLine where
  connecting := [⟨"timeout-ms", "5000", false⟩]
  before := [⟨"where", "title=storm", false⟩, ⟨"or", "tags=[\"a\",true]", true⟩]
  table := "news"
  behind := [⟨"where", "title=a=b", false⟩, ⟨"page", "2", true⟩]
  closed := false
  readableConnecting := by decide +kernel
  readableBefore := by decide +kernel
  readableBehind := by decide +kernel
  undashed := by decide
  last := by decide

/-- The same search with the options of different names in another order, and the table behind
`--`. -/
def stormLineReordered : SearchLine where
  connecting := [⟨"timeout-ms", "5000", true⟩]
  before := [⟨"page", "2", false⟩, ⟨"where", "title=storm", true⟩, ⟨"where", "title=a=b", true⟩,
    ⟨"or", "tags=[\"a\",true]", false⟩]
  table := "news"
  behind := []
  closed := true
  readableConnecting := by decide +kernel
  readableBefore := by decide +kernel
  readableBehind := by decide +kernel
  undashed := by decide
  last := by decide

/-- The same line with a page that there is not. -/
def stormLineStopped : SearchLine :=
  { stormLine with
    behind := [⟨"page", "0", false⟩]
    readableBehind := by decide +kernel
    last := by decide }

/-- What becomes of a line on a node that is unavailable, with the requests that the node got. -/
def onUnavailable (line : SearchLine) : Output × List Http.Request × List Http.Request :=
  execute (fun _ => none) line.arguments (Http.Transport.ending (.ok ⟨503, []⟩)).watched ([], [])

/-- The search is requested once, in whichever order its line is written, and not at all without a
page.  Of the two values for the title the second is looked for, and the second page is asked for. -/
theorem search_refines_client_stormLine :
    let must := "\x7b\"match\":\x7b\"title\":\"a=b\"\x7d\x7d"
    let should := "\x7b\"terms\":\x7b\"tags\":[\"a\",true]\x7d\x7d"
    let body := "\x7b\"query\":\x7b\"bool\":\x7b\"must\":[" ++ must ++ "],\"should\":[" ++ should ++
      "]\x7d\x7d,\"from\":50,\"size\":50\x7d"
    (onUnavailable stormLine).2.2.length = 1 ∧
      (∀ request ∈ (onUnavailable stormLine).2.2, request.method = .post ∧
        request.target = "/news/_search" ∧ request.content = some ⟨"application/json", body⟩) ∧
      (onUnavailable stormLineReordered).2 = (onUnavailable stormLine).2 ∧
      (onUnavailable stormLineStopped).2 = ([], []) ∧
      (onUnavailable stormLineStopped).1.exit ≠ 0 := by
  intro must should body
  obtain ⟨delivered, _, refines⟩ := search_refines_client
  let connection : Connection := { Connection.standard with requestTimeout := 5000 }
  have connected : connectionOf (fun _ => none) stormLine.connecting = .ok connection := by
    decide +kernel
  have reconnected : connectionOf (fun _ => none) stormLineReordered.connecting =
      .ok connection := by decide +kernel
  obtain ⟨cluster, usable⟩ : ∃ cluster, Http.Cluster.ofConnection connection = .ok cluster :=
    exists_eq_ok_of_isOk (by decide +kernel)
  have second : Gives stormLine.options "page" 1 2 :=
    .said (by decide +kernel : valuesOf stormLine.options "page" = ["2"]) (by decide +kernel)
  have zeroth : Gives stormLineStopped.options "page" 1 0 :=
    .said (by decide +kernel : valuesOf stormLineStopped.options "page" = ["0"])
      (by decide +kernel)
  have sound : IsSound "news" stormLine.options 2 50 := by
    refine ⟨by decide, by decide, by decide, ?_⟩
    have required : valuesOf stormLine.options "where" = ["title=storm", "title=a=b"] := by
      decide +kernel
    have preferred : valuesOf stormLine.options "or" = ["tags=[\"a\",true]"] := by decide +kernel
    have filtered : valuesOf stormLine.options "filter" = [] := by decide +kernel
    rintro (_ | _ | _) raw member
    · rw [Section.flag, required, List.mem_pair] at member
      obtain rfl | rfl := member
      · exact ⟨"title", .string "storm", pairOf_eq_ok_iff.mp (by decide +kernel), by decide, trivial⟩
      · exact ⟨"title", .string "a=b", pairOf_eq_ok_iff.mp (by decide +kernel), by decide, trivial⟩
    · rw [Section.flag, preferred, List.mem_singleton] at member
      subst member
      refine ⟨"tags", .array [.string "a", .bool true], pairOf_eq_ok_iff.mp (by decide +kernel),
        by decide, by simp, ?_⟩
      simp [Json.IsScalar]
    · rw [Section.flag, filtered] at member
      cases member
  have same : ∀ name, valuesOf stormLineReordered.options name =
      valuesOf stormLine.options name := by
    intro name
    by_cases known : name = "where" ∨ name = "or" ∨ name = "page"
    · obtain rfl | rfl | rfl := known <;> decide +kernel
    · have unknown : ∀ line : SearchLine,
          (∀ given ∈ line.options,
            given.name = "where" ∨ given.name = "or" ∨ given.name = "page") →
            valuesOf line.options name = [] := by
        intro line among
        rw [valuesOf, List.map_eq_nil_iff, List.filter_eq_nil_iff]
        intro given member
        rw [decide_eq_true_eq]
        rintro rfl
        exact known (among given member)
      rw [unknown _ (by decide +kernel), unknown _ (by decide +kernel)]
  obtain ⟨made, _, independent⟩ := refines (.ending (.ok ⟨503, []⟩)) [] (fun _ => none) _ _ _ _ _ _
    connection cluster (delivered stormLine) connected usable second (.unsaid (by decide +kernel))
  obtain ⟨_, refused, _⟩ := refines (.ending (.ok ⟨503, []⟩)) [] (fun _ => none) _ _ _ _ _ _
    connection cluster (delivered stormLineStopped) connected usable zeroth
    (.unsaid (by decide +kernel))
  obtain ⟨_, sent, _, _, requests, _⟩ := made sound
  obtain ⟨unsent, failed, _⟩ := refused fun wrong => wrong.numbered rfl
  have again := independent _ _ _ (delivered stormLineReordered) reconnected same
  have written : ∀ request ∈ (onUnavailable stormLine).2.2, request.method = .post ∧
      request.target = "/news/_search" ∧ request.content = some ⟨"application/json", body⟩ := by
    decide +kernel
  refine ⟨?_, written, ?_⟩
  · simp only [onUnavailable]
    exact congrArg List.length requests
  · simp only [onUnavailable]
    exact ⟨again.1, unsent, failed⟩

end CommandLine

end DocumentSearch
