import DocumentSearch.Http.Engine
import DocumentSearch.Proofs.Paths
import DocumentSearch.Proofs.Payloads

/-!
# Addresses of documents

A request for a document is to show the base path and behind it the table, the endpoint and the
identifier.  It does so exactly when both names are plain.  In general it shows what is left of the
names when tabs and line breaks are dropped, provided that this is neither nothing nor dots alone:
so another address may be shown, or none.
-/

namespace DocumentSearch

namespace Base

/-- The part of a target in front of appended names. -/
def front (base : Base) : List Char := Path.toChars (Path.shown base.path.dropTrailing)

/-- The part of a target behind its path. -/
def queryChars (base : Base) : List Char :=
  match base.query with
  | some query => '?' :: query
  | none => []

/-- Whether a target consists of the base and as many segments as there are texts, each of which
decodes to its text. -/
def Spells (base : Base) (target : List Char) (texts : List String) : Prop :=
  ∃ segments : Path, target = base.front ++ Path.toChars segments ++ base.queryChars ∧
    (∀ segment ∈ segments, '/' ∉ segment ∧ '?' ∉ segment ∧ '#' ∉ segment) ∧
    segments.map Percent.decode = texts.map fun text => Utf8.encode text.toList

theorem target_eq (base : Base) (names : List String) :
    base.target names =
      Path.toChars (base.path.dropTrailing.append names) ++ base.queryChars := rfl

variable {base : Base} {names texts : List String}

theorem target_of_spelling (many : texts ≠ []) (spelling : Path.Spelling names texts) :
    base.target names =
      base.front ++ Path.toChars (texts.map fun text => Path.segmentOf text.toList) ++
        base.queryChars := by
  rw [target_eq, Path.toChars_append_of_spelling many spelling]
  rfl

/-- A target spells several texts exactly when the appended names do. -/
theorem spells_target_iff (named : ∀ text ∈ texts, text ≠ "") (enough : names.length ≤ texts.length)
    (several : 1 < texts.length) :
    base.Spells (base.target names) texts ↔ Path.Spelling names texts := by
  constructor
  · rintro ⟨segments, written, free, decoded⟩
    rw [target_eq] at written
    exact Path.spelling_of_toChars_append (List.append_cancel_right written)
      (fun segment member => (free segment member).1) decoded named enough several
  · intro spelling
    have many : texts ≠ [] := List.ne_nil_of_length_pos (by omega)
    refine ⟨_, target_of_spelling many spelling, ?_, ?_⟩
    · intro segment member
      obtain ⟨text, _, rfl⟩ := List.mem_map.mp member
      exact ⟨Path.slash_not_mem_segmentOf _,
        Percent.not_mem_encode (by decide) (by decide) (by decide) _,
        Percent.not_mem_encode (by decide) (by decide) (by decide) _⟩
    · rw [List.map_map]
      exact List.map_congr_left fun text _ => Percent.decode_encode (by decide) text.toList

/-- Names lead to the target of names that spell texts exactly when they spell the texts as well. -/
theorem target_eq_target_iff {others : List String} (spelling : Path.Spelling names texts)
    (named : ∀ text ∈ texts, text ≠ "") (enough : others.length ≤ texts.length)
    (several : 1 < texts.length) :
    base.target others = base.target names ↔ Path.Spelling others texts := by
  have many : texts ≠ [] := List.ne_nil_of_length_pos (by omega)
  constructor
  · intro same
    have lengths : names.length ≤ texts.length := Nat.le_of_eq spelling.length_eq
    have spelled : base.Spells (base.target names) texts :=
      (spells_target_iff named lengths several).mpr spelling
    rw [← same] at spelled
    exact (spells_target_iff named enough several).mp spelled
  · intro other
    rw [target_of_spelling many other, target_of_spelling many spelling]

end Base

namespace Address

/-- Whether both names of an address are plain. -/
def isPlain (address : Address) : Bool := Path.isPlain address.table && Path.isPlain address.id

/-- The address that a request shows, if it shows one. -/
def shown? (address : Address) : Option Address :=
  (Path.spelled? address.table).bind fun table =>
    (Path.spelled? address.id).map fun id => ⟨table, id⟩

theorem shown?_eq_some_iff (address shown : Address) :
    address.shown? = some shown ↔
      Path.spelled? address.table = some shown.table ∧ Path.spelled? address.id = some shown.id := by
  obtain ⟨shownTable, shownId⟩ := shown
  simp [shown?, Option.bind_eq_some_iff, Option.map_eq_some_iff]

theorem new_of_shown? {address shown : Address} (reached : address.shown? = some shown) :
    Address.new shown.table shown.id = .ok shown := by
  obtain ⟨table, id⟩ := (shown?_eq_some_iff address shown).mp reached
  exact new_eq_ok_iff.mpr ⟨((Path.spelled?_eq_some_iff _ _).mp table).2.1,
    ((Path.spelled?_eq_some_iff _ _).mp id).2.1, rfl⟩

/-- Exactly the plain addresses are shown as they are. -/
theorem shown?_self_iff {address : Address}
    (accepted : Address.new address.table address.id = .ok address) :
    address.shown? = some address ↔ address.isPlain := by
  obtain ⟨table, id, _⟩ := new_eq_ok_iff.mp accepted
  rw [shown?_eq_some_iff, Path.spelled?_self_iff table, Path.spelled?_self_iff id, isPlain,
    Bool.and_eq_true]

end Address

/-- The endpoint and the address of a call that names its document. -/
def Call.document? {kind : Kind} : Call kind → Option (String × Address)
  | .index ⟨table, ⟨some id, _⟩⟩ => some ("_doc", ⟨table, id⟩)
  | .get address => some ("_doc", address)
  | .update change => some ("_update", change.address)
  | .delete address => some ("_doc", address)
  | _ => none

namespace Http

namespace Message

variable {kind : Kind} {call : Call kind} {endpoint : String} {address : Address}

theorem names_of_document (document : call.document? = some (endpoint, address)) :
    (ofCall call).names = [address.table, endpoint, address.id] := by
  cases call with
  | index insertion =>
      obtain ⟨table, ⟨id, body⟩⟩ := insertion
      cases id with
      | none => exact nomatch document
      | some id =>
          cases document
          rfl
  | get _ | update _ | delete _ =>
      cases document
      rfl
  | createTable _ _ | updateMapping _ _ | getMapping _ | bulk _ | search _ => exact nomatch document

theorem document_of_names {table id : String}
    (names : (ofCall call).names = [table, endpoint, id]) :
    call.document? = some (endpoint, ⟨table, id⟩) := by
  cases call with
  | index insertion =>
      obtain ⟨table, ⟨id, body⟩⟩ := insertion
      cases id with
      | none => exact nomatch names
      | some id =>
          cases names
          rfl
  | get _ | update _ | delete _ =>
      cases names
      rfl
  | getMapping tables =>
      cases tables with
      | nil => exact nomatch names
      | cons _ _ => exact nomatch names
  | createTable _ _ | updateMapping _ _ | bulk _ | search _ => exact nomatch names

theorem names_length_le (call : Call kind) : (ofCall call).names.length ≤ 3 := by
  cases call with
  | index insertion =>
      obtain ⟨table, ⟨id, body⟩⟩ := insertion
      cases id <;> simp [ofCall]
  | getMapping tables => cases tables <;> simp [ofCall]
  | createTable _ _ | updateMapping _ _ | bulk _ | search _ | get _ | update _ | delete _ =>
      simp [ofCall]

theorem spelled?_endpoint (document : call.document? = some (endpoint, address)) :
    Path.spelled? endpoint = some endpoint := by
  have either : endpoint = "_doc" ∨ endpoint = "_update" := by
    unfold Call.document? at document
    split at document
    case h_5 => exact nomatch document
    all_goals
      cases document
      simp
  rcases either with rfl | rfl
  · decide
  · decide

/-- A call spells an address and an endpoint exactly when it is a call for that endpoint and for a
document that is shown at that address. -/
theorem spelling_iff (endpointSpelled : Path.spelled? endpoint = some endpoint)
    (call : Call kind) (shown : Address) :
    Path.Spelling (ofCall call).names [shown.table, endpoint, shown.id] ↔
      ∃ address, call.document? = some (endpoint, address) ∧ address.shown? = some shown := by
  constructor
  · intro spelling
    generalize written : (ofCall call).names = names at spelling
    cases spelling with
    | cons table behindTable =>
        cases behindTable with
        | cons middle behindMiddle =>
            cases behindMiddle with
            | cons id nothing =>
                cases nothing
                have document := document_of_names written
                rw [spelled?_endpoint document] at middle
                obtain rfl := Option.some.inj middle
                exact ⟨_, document, (Address.shown?_eq_some_iff _ shown).mpr ⟨table, id⟩⟩
  · rintro ⟨address, document, reached⟩
    obtain ⟨table, id⟩ := (Address.shown?_eq_some_iff address shown).mp reached
    rw [names_of_document document]
    exact .cons table (.cons endpointSpelled (.cons id .nil))

end Message

namespace Cluster

/-- Whether the request for a call shows a table, an endpoint and an identifier behind the base of
its node. -/
def Shows {kind : Kind} (cluster : Cluster) (requests : Nat) (call : Call kind) (endpoint : String)
    (shown : Address) : Prop :=
  (cluster.node requests).Spells (cluster.request call requests).target.toList
    [shown.table, endpoint, shown.id]

theorem toList_target {kind : Kind} (cluster : Cluster) (requests : Nat) (call : Call kind) :
    (cluster.request call requests).target.toList =
      (cluster.node requests).target (Message.ofCall call).names :=
  String.toList_ofList

variable {kind : Kind} {cluster : Cluster} {requests : Nat} {call : Call kind} {endpoint : String}
  {address shown : Address}

theorem named_of_accepted (document : call.document? = some (endpoint, address))
    (accepted : Address.new shown.table shown.id = .ok shown) :
    ∀ text ∈ [shown.table, endpoint, shown.id], text ≠ "" := by
  obtain ⟨table, id, _⟩ := Address.new_eq_ok_iff.mp accepted
  have named := ((Path.spelled?_eq_some_iff endpoint endpoint).mp
    (Message.spelled?_endpoint document)).2.1
  simp [table, id, named]

/-- A request shows the address that its names leave, and no other one. -/
theorem shows_iff (document : call.document? = some (endpoint, address))
    (accepted : Address.new shown.table shown.id = .ok shown) :
    cluster.Shows requests call endpoint shown ↔ address.shown? = some shown := by
  have named := named_of_accepted document accepted
  have endpointSpelled := Message.spelled?_endpoint document
  rw [Shows, toList_target,
    Base.spells_target_iff named (Message.names_length_le call) (by decide : 1 < 3),
    Message.spelling_iff endpointSpelled]
  constructor
  · rintro ⟨other, again, reached⟩
    rw [document] at again
    cases again
    exact reached
  · intro reached
    exact ⟨address, document, reached⟩

/-- The targets of a call that shows an address and of another call on the same base are the same
exactly when the other call is for the same endpoint and shows the same address. -/
theorem target_eq_target_iff (document : call.document? = some (endpoint, address))
    (reached : address.shown? = some shown) {otherKind : Kind} (other : Call otherKind) {later : Nat}
    (node : cluster.node later = cluster.node requests) :
    (cluster.request other later).target = (cluster.request call requests).target ↔
      ∃ origin, other.document? = some (endpoint, origin) ∧ origin.shown? = some shown := by
  have named := named_of_accepted document (Address.new_of_shown? reached)
  have endpointSpelled := Message.spelled?_endpoint document
  have spelling : Path.Spelling (Message.ofCall call).names [shown.table, endpoint, shown.id] :=
    (Message.spelling_iff endpointSpelled call shown).mpr ⟨address, document, reached⟩
  rw [← String.toList_inj, toList_target, toList_target, node,
    Base.target_eq_target_iff spelling named (Message.names_length_le other) (by decide : 1 < 3),
    Message.spelling_iff endpointSpelled]

/-- The request for a document shows its address exactly when the names are plain, and otherwise at
most what is left of them.  Only a request for the same endpoint that shows the same address has the
same target, so requests for different plain addresses have different targets. -/
theorem document_addressing {kind : Kind} (cluster : Cluster) (requests : Nat) (call : Call kind)
    {endpoint : String} {address : Address}
    (document : call.document? = some (endpoint, address))
    (accepted : Address.new address.table address.id = .ok address) :
    (cluster.Shows requests call endpoint address ↔ address.isPlain) ∧
      (∀ shown, Address.new shown.table shown.id = .ok shown →
        (cluster.Shows requests call endpoint shown ↔ address.shown? = some shown)) ∧
      ∀ {otherKind : Kind} (other : Call otherKind) (later : Nat),
        cluster.node later = cluster.node requests →
        (∀ shown, address.shown? = some shown →
          ((cluster.request other later).target = (cluster.request call requests).target ↔
            ∃ origin, other.document? = some (endpoint, origin) ∧
              origin.shown? = some shown)) ∧
        ∀ otherEndpoint otherAddress, other.document? = some (otherEndpoint, otherAddress) →
          Address.new otherAddress.table otherAddress.id = .ok otherAddress →
          address.isPlain → otherAddress.isPlain →
          (cluster.request other later).target = (cluster.request call requests).target →
          otherEndpoint = endpoint ∧ otherAddress = address := by
  have itself := Address.shown?_self_iff accepted
  refine ⟨(shows_iff document accepted).trans itself, fun shown given => shows_iff document given,
    fun other later node => ⟨fun shown reached => target_eq_target_iff document reached other node,
      ?_⟩⟩
  intro otherEndpoint otherAddress otherDocument otherAccepted plain otherPlain same
  obtain ⟨origin, again, reached⟩ :=
    (target_eq_target_iff document (itself.mpr plain) other node).mp same
  rw [otherDocument] at again
  cases again
  have otherItself := (Address.shown?_self_iff otherAccepted).mpr otherPlain
  exact ⟨rfl, Option.some.inj (otherItself.symm.trans reached)⟩

/-- The engine behind `http://localhost:9200/engine/`. -/
def localEngine : Cluster where
  nodes := [⟨.http, none, .domain "localhost".toList, some 9200, ["engine".toList, []], none⟩]
  inhabited := List.cons_ne_nil _ _
  credentials := none

/-- Spaces, slashes and percent signs in the names of a document stay within their segments. -/
theorem document_addressing_reserved :
    (localEngine.request (.get ⟨"my index", "a/b%"⟩) 0).target =
        "/engine/my%20index/_doc/a%2Fb%25" ∧
      Call.document? (.get ⟨"my index", "a/b%"⟩) = some ("_doc", ⟨"my index", "a/b%"⟩) ∧
      Address.new "my index" "a/b%" = .ok ⟨"my index", "a/b%"⟩ ∧
      localEngine.Shows 0 (.get ⟨"my index", "a/b%"⟩) "_doc" ⟨"my index", "a/b%"⟩ :=
  ⟨by decide, rfl, rfl,
    (document_addressing localEngine 0 (.get ⟨"my index", "a/b%"⟩) rfl rfl).1.mpr (by decide)⟩

/-- A tab in an identifier is dropped, which leads to another document; a dot leads to the endpoint
without an identifier; and dots around a tab lead to the table itself. -/
theorem not_shows_of_tab :
    Address.new "t" "a\tb" = .ok ⟨"t", "a\tb"⟩ ∧
      ¬localEngine.Shows 0 (.get ⟨"t", "a\tb"⟩) "_doc" ⟨"t", "a\tb"⟩ ∧
      (localEngine.request (.get ⟨"t", "a\tb"⟩) 0).target =
        (localEngine.request (.get ⟨"t", "ab"⟩) 0).target ∧
      (localEngine.request (.get ⟨"t", "."⟩) 0).target = "/engine/t/_doc" ∧
      (localEngine.request (.delete ⟨"t", ".\t."⟩) 0).target = "/engine/t/" := by
  have document : Call.document? (.get ⟨"t", "a\tb"⟩) = some ("_doc", ⟨"t", "a\tb"⟩) := rfl
  have accepted : Address.new "t" "a\tb" = .ok ⟨"t", "a\tb"⟩ := rfl
  refine ⟨accepted, ?_, by decide, by decide, by decide⟩
  rw [shows_iff document accepted]
  decide

end Cluster

end Http

end DocumentSearch
