import DocumentSearch.Proofs.HostEntries
import DocumentSearch.Proofs.Rotation

/-!
# Nodes and the hosts of entries

The node of an entry has the scheme that the entry gives, or else `http`, and the host that it names.
Only a misread entry has another node: the name of its scheme is taken for its host, so it is never
refused, not even when it names no host at all.

Hosts are the ones that `Domain.ofText?` reads.  It leaves out normalisation, the rules for text that
runs from right to left, and Punycode in what it writes, so for an entry with a host outside ASCII the
node may be refused, and has its host in another spelling, when these are applied.
-/

namespace DocumentSearch

namespace Base

/-- What counts of a text behind a scheme: no tabs and line breaks, no control characters and spaces
at the end, and no slashes in front. -/
def significant (text : List Char) : List Char :=
  ((Text.dropEndWhile (fun c => decide (c.toNat ≤ 0x20)) text).filter fun c =>
    !Path.isDropped c).dropWhile fun c => c = '/' || c = '\\'

/-- The host in an authority, without credentials and port. -/
def hostOf (authority : List Char) : List Char := (splitHost false (splitUserInfo authority).2).1

/-- The host that a text behind a scheme names. -/
def hostText (text : List Char) : List Char :=
  hostOf ((significant text).takeWhile fun c => !endsAuthority c)

theorem ofUrl_of_mark {url : String} {scheme : Scheme} {text : List Char}
    (written : url.toList = scheme.mark ++ text) :
    ofUrl url = ofAuthority scheme (significant text) := by
  have kept : Text.dropEndWhile (fun c => decide (c.toNat ≤ 0x20)) url.toList =
      scheme.mark ++ Text.dropEndWhile (fun c => decide (c.toNat ≤ 0x20)) text := by
    rw [written, Scheme.mark_eq]
    have last := @Text.dropEndWhile_append_cons (fun c => decide (c.toNat ≤ 0x20)) '/' (by decide)
      (scheme.name ++ [':', '/']) text
    simpa using last
  rw [ofUrl, kept, List.filter_append]
  cases scheme <;> rfl

theorem ofAuthority_eq_ok {scheme : Scheme} {text : List Char} {base : Base}
    (read : ofAuthority scheme text = .ok base) :
    base.scheme = scheme ∧
      Host.ofText (hostOf (text.takeWhile fun c => !endsAuthority c)) = .ok base.host := by
  unfold ofAuthority at read
  obtain ⟨host, named, rest⟩ := bind_eq_ok.mp read
  obtain ⟨port, _, same⟩ := bind_eq_ok.mp rest
  cases same
  exact ⟨rfl, named⟩

theorem ofAuthority_of_hostOf_eq_nil {scheme : Scheme} {text : List Char}
    (unnamed : hostOf (text.takeWhile fun c => !endsAuthority c) = []) :
    ofAuthority scheme text = .error .emptyHost := by
  have refused : Host.ofText (hostOf (text.takeWhile fun c => !endsAuthority c)) =
      .error .emptyHost := by
    rw [unnamed]
    rfl
  unfold hostOf at refused
  simp only [ofAuthority, refused]
  rfl

/-! ## A word in front of a colon -/

section Words

variable {word tail : List Char}

theorem significant_of_word (letters : ∀ c ∈ word, c.isAlpha = true) (named : word ≠ [])
    (slashed : Text.IsSlashed tail) :
    ∃ rest, Text.IsSlashed rest ∧ significant (word ++ ':' :: tail) = word ++ ':' :: rest := by
  have kept : word.filter (fun c => !Path.isDropped c) = word :=
    List.filter_eq_self.mpr fun c member => of_isAlpha (letters c member) (by decide)
  have stays : Text.dropEndWhile (fun c => decide (c.toNat ≤ 0x20)) (word ++ ':' :: tail) =
      word ++ ':' :: Text.dropEndWhile (fun c => decide (c.toNat ≤ 0x20)) tail :=
    Text.dropEndWhile_append_cons (by decide) word tail
  refine ⟨(Text.dropEndWhile (fun c => decide (c.toNat ≤ 0x20)) tail).filter fun c =>
    !Path.isDropped c, ?_, ?_⟩
  · obtain none | ⟨rest, same⟩ := slashed.of_isPrefix (Text.dropEndWhile_isPrefix _ tail)
    · exact .inl (by rw [none]; rfl)
    · exact .inr ⟨_, by rw [same, List.filter_cons_of_pos (by decide)]⟩
  · obtain ⟨c, front, rfl⟩ := List.exists_cons_of_ne_nil named
    have first : ¬(c = '/' || c = '\\') = true :=
      of_isAlpha (letters c List.mem_cons_self) (by decide)
    rw [significant, stays, List.filter_append, kept, List.filter_cons_of_pos (by decide),
      List.cons_append]
    exact List.dropWhile_cons_of_neg first

theorem splitHost_of_word (letters : ∀ c ∈ word, c.isAlpha = true) :
    splitHost false (word ++ [':']) = (word, [':']) := by
  induction word with
  | nil => rfl
  | cons c rest ih =>
      obtain ⟨here, there⟩ := List.forall_mem_cons.mp letters
      obtain ⟨noColon, unopened, unclosed⟩ : c ≠ ':' ∧ c ≠ '[' ∧ c ≠ ']' :=
        of_isAlpha here (by decide)
      simp [splitHost, noColon, unopened, unclosed, ih there]

theorem splitUserInfo_of_not_mem {authority : List Char} (free : '@' ∉ authority) :
    splitUserInfo authority = (none, authority) := by
  have all : authority.reverse.takeWhile (fun c => c ≠ '@') = authority.reverse :=
    List.takeWhile_eq_self_iff.mpr fun c member => by
      simpa using ne_of_mem_of_not_mem (List.mem_reverse.mp member) free
  rw [splitUserInfo, all, List.reverse_reverse, if_pos rfl]

theorem ofAuthority_of_word (scheme : Scheme) (letters : ∀ c ∈ word, c.isAlpha = true)
    (named : word ≠ []) (slashed : Text.IsSlashed tail) :
    ∃ base, ofAuthority scheme (word ++ ':' :: tail) = .ok base ∧ base.scheme = scheme ∧
      base.credentials = none ∧ base.host = .domain (word.map Char.toLower) ∧ base.port = none := by
  have authority : (word ++ ':' :: tail).takeWhile (fun c => !endsAuthority c) = word ++ [':'] := by
    have inside : ∀ c ∈ word, (!endsAuthority c) = true := fun c member =>
      of_isAlpha (letters c member) (by decide)
    have behind : tail.takeWhile (fun c => !endsAuthority c) = [] := by
      obtain rfl | ⟨rest, rfl⟩ := slashed
      · rfl
      · rfl
    rw [List.takeWhile_append_of_pos inside, List.takeWhile_cons_of_pos (by decide), behind]
  have anonymous : splitUserInfo (word ++ [':']) = (none, word ++ [':']) := by
    refine splitUserInfo_of_not_mem fun member => ?_
    obtain inWord | colon := List.mem_append.mp member
    · exact absurd (letters '@' inWord) (by decide)
    · exact absurd colon (by decide)
  simp only [ofAuthority, authority, anonymous, splitHost_of_word letters,
    Host.ofText_of_isAlpha named letters]
  exact ⟨_, rfl, rfl, rfl, rfl, rfl⟩

end Words

end Base

namespace Connection

/-- The node that an entry stands for: it has the scheme that the entry gives, or else `http`, and
what the entry gives behind it. -/
def givenNode (host : String) : Except HostFault Base :=
  Base.ofAuthority ((givenScheme? host).getD .http) (Base.significant (givenRest host))

theorem of_givenNode_eq_ok {host : String} {node : Base} (read : givenNode host = .ok node) :
    node.scheme = (givenScheme? host).getD .http ∧
      Host.ofText (Base.hostText (givenRest host)) = .ok node.host :=
  Base.ofAuthority_eq_ok read

theorem givenNode_of_hostText_eq_nil {host : String}
    (unnamed : Base.hostText (givenRest host) = []) : givenNode host = .error .emptyHost :=
  Base.ofAuthority_of_hostOf_eq_nil unnamed

theorem ofUrl_of_not_isMisread {host : String} (sound : ¬IsMisread host) :
    Base.ofUrl (baseUrl host) = givenNode host := by
  cases isRead host with
  | plain ungiven url => rw [Base.ofUrl_of_mark url, givenNode, ungiven, Option.getD_none]
  | found scheme given _ url => rw [Base.ofUrl_of_mark url, givenNode, given, Option.getD_some]
  | misread _ _ _ _ unsound => exact absurd unsound sound

/-- A node whose host is the name of a scheme: nothing else of its entry is in front of its path. -/
structure IsSchemeNode (scheme : Scheme) (node : Base) : Prop where
  spoken : node.scheme = .http
  anonymous : node.credentials = none
  named : node.host = .domain scheme.name
  portless : node.port = none

/-- The node of a misread entry has the name of the scheme for its host. -/
theorem ofUrl_of_isMisread {host : String} (misread : IsMisread host) :
    ∃ scheme node, givenScheme? host = some scheme ∧ Base.ofUrl (baseUrl host) = .ok node ∧
      IsSchemeNode scheme node := by
  cases isRead host with
  | plain ungiven _ =>
      obtain ⟨_, given, _⟩ := misread
      simp [ungiven] at given
  | found _ _ sound _ => exact absurd misread sound
  | misread scheme word tail given _ named letters trimmed slashed _ url =>
      have nonempty : word ≠ [] := by
        rintro rfl
        cases scheme <;> cases named
      obtain ⟨rest, restSlashed, same⟩ := Base.significant_of_word letters nonempty slashed
      obtain ⟨node, read, spoken, anonymous, host, portless⟩ :=
        Base.ofAuthority_of_word .http letters nonempty restSlashed
      refine ⟨scheme, node, given, ?_, spoken, anonymous, named ▸ host, portless⟩
      rw [Base.ofUrl_of_mark url, trimmed, same, read]

end Connection

namespace Http.Cluster

variable {connection : Connection}

/-- The nodes of a connection that can be used are known, or one of its entries is refused. -/
theorem ofConnection_cases (usable : connection.validate = .ok ()) :
    (∃ cluster, ofConnection connection = .ok cluster) ∨
      ∃ host ∈ connection.hosts, ∃ fault, Base.ofUrl (Connection.baseUrl host) = .error fault ∧
        ofConnection connection = .error (.invalidHost (Connection.baseUrl host) fault) := by
  have inhabited : connection.hosts ≠ [] := by
    intro none
    rw [Connection.validate, none, List.isEmpty_nil, if_pos rfl] at usable
    cases usable
  cases known : Base.ofConnection connection with
  | ok nodes =>
      have same := (Base.nodes_of_ofConnection known).length_eq
      have somewhere : nodes ≠ [] := by
        rintro rfl
        exact inhabited (List.eq_nil_of_length_eq_zero same)
      refine .inl ⟨⟨nodes, somewhere, connection.credentials?⟩, ?_⟩
      simp only [ofConnection, known, dif_pos somewhere]
  | error cause =>
      have failed := known
      rw [Base.ofConnection, usable] at failed
      obtain ⟨url, listed, failed⟩ := exists_of_mapM_eq_error failed
      obtain ⟨host, member, rfl⟩ := List.mem_map.mp listed
      split at failed
      · cases failed
      · rename_i fault refused
        cases failed
        refine .inr ⟨host, member, fault, refused, ?_⟩
        rw [ofConnection, known]

theorem exists_node_of_mem {cluster : Cluster} (accepted : ofConnection connection = .ok cluster)
    {host : String} (listed : host ∈ connection.hosts) :
    ∃ node, Base.ofUrl (Connection.baseUrl host) = .ok node := by
  obtain ⟨position, inside, rfl⟩ := List.getElem_of_mem listed
  obtain ⟨same, read⟩ := List.forall₂_iff_get.mp (nodes_of_ofConnection accepted)
  exact ⟨_, read position inside (same ▸ inside)⟩

/-- A misread entry is never refused, so what is accepted is a matter of the other ones. -/
theorem exists_ofConnection_eq_ok_iff (usable : connection.validate = .ok ()) :
    (∃ cluster, ofConnection connection = .ok cluster) ↔
      ∀ host ∈ connection.hosts, ¬Connection.IsMisread host →
        ∃ node, Connection.givenNode host = .ok node := by
  constructor
  · rintro ⟨cluster, accepted⟩ host listed sound
    rw [← Connection.ofUrl_of_not_isMisread sound]
    exact exists_node_of_mem accepted listed
  · intro all
    refine (ofConnection_cases usable).resolve_right ?_
    rintro ⟨host, listed, fault, refused, _⟩
    by_cases misread : Connection.IsMisread host
    · obtain ⟨_, _, _, read, _⟩ := Connection.ofUrl_of_isMisread misread
      cases refused.symm.trans read
    · obtain ⟨node, read⟩ := all host listed misread
      rw [Connection.ofUrl_of_not_isMisread misread, read] at refused
      cases refused

/-- A connection that can be used has one URL for each entry, in order: the scheme that the entry
gives, or else `http`, and what it gives behind.  The nodes have the schemes and the hosts that the
entries give, they are known exactly when each entry stands for a node, and an entry that names no host
is refused.  Misread entries are left out of all this: they are put behind a second scheme, their nodes
have the name of the first one for a host, and they are never refused.  Hosts outside ASCII are read
without normalisation, rules for the direction of text and Punycode (`Domain.ofText?`). -/
theorem entries_kept_iff (usable : connection.validate = .ok ()) :
    List.Forall₂ (fun host url =>
        (Connection.IsUrlOf host url ↔ ¬Connection.IsMisread host) ∧
        (Connection.IsMisread host → url.toList = Scheme.http.mark ++ Connection.trimHost host))
      connection.hosts connection.baseUrls ∧
    (∀ cluster, ofConnection connection = .ok cluster →
      List.Forall₂ (fun host node =>
          (¬Connection.IsMisread host →
            Connection.givenNode host = .ok node ∧
            node.scheme = (Connection.givenScheme? host).getD .http ∧
            Host.ofText (Base.hostText (Connection.givenRest host)) = .ok node.host) ∧
          (Connection.IsMisread host →
            ∃ scheme, Connection.givenScheme? host = some scheme ∧
              Connection.IsSchemeNode scheme node))
        connection.hosts cluster.nodes) ∧
    ((∃ cluster, ofConnection connection = .ok cluster) ↔
      ∀ host ∈ connection.hosts, ¬Connection.IsMisread host →
        ∃ node, Connection.givenNode host = .ok node) ∧
    ∀ host ∈ connection.hosts, ¬Connection.IsMisread host →
      Base.hostText (Connection.givenRest host) = [] →
      ∃ other ∈ connection.hosts, ∃ fault,
        Base.ofUrl (Connection.baseUrl other) = .error fault ∧
        ofConnection connection = .error (.invalidHost (Connection.baseUrl other) fault) := by
  refine ⟨?urls, ?nodes, exists_ofConnection_eq_ok_iff usable, ?unnamed⟩
  case urls =>
    refine List.forall₂_map_right_iff.mpr (List.forall₂_same.mpr fun host _ => ?_)
    exact ⟨Connection.isUrlOf_iff host, fun misread =>
      Connection.toList_baseUrl_of_not_isPrefix (Connection.not_isPrefix_of_isMisread misread)⟩
  case nodes =>
    intro cluster accepted
    refine (nodes_of_ofConnection accepted).imp fun host node read =>
      ⟨fun sound => ?_, fun misread => ?_⟩
    · have given : Connection.givenNode host = .ok node :=
        (Connection.ofUrl_of_not_isMisread sound).symm.trans read
      exact ⟨given, Connection.of_givenNode_eq_ok given⟩
    · obtain ⟨scheme, other, given, known, named⟩ := Connection.ofUrl_of_isMisread misread
      cases known.symm.trans read
      exact ⟨scheme, given, named⟩
  case unnamed =>
    intro host listed sound unnamed
    refine (ofConnection_cases usable).resolve_left fun accepted => ?_
    obtain ⟨node, read⟩ := (exists_ofConnection_eq_ok_iff usable).mp accepted host listed sound
    cases (Connection.givenNode_of_hostText_eq_nil unnamed).symm.trans read

/-- An entry with a scheme in lower case is kept, and another one is misread.  An entry with a port and
no host is refused. -/
theorem entries_kept_iff_mixed :
    let kept := " https://node-b:9200/ "
    let misread := "HTTPS://search.internal:9200"
    let connection := Connection.toHosts [kept, misread]
    let unnamed := Connection.toHosts [kept, "http://:9200"]
    connection.validate = .ok () ∧
    Connection.IsUrlOf kept (Connection.baseUrl kept) ∧
    ¬Connection.IsUrlOf misread (Connection.baseUrl misread) ∧
    (∃ cluster first second, ofConnection connection = .ok cluster ∧
      cluster.nodes = [first, second] ∧
      first.scheme = .https ∧ first.host = .domain "node-b".toList ∧
      Connection.IsSchemeNode .https second) ∧
    unnamed.validate = .ok () ∧
    ∃ url fault, ofConnection unnamed = .error (.invalidHost url fault) := by
  intro kept misread connection unnamed
  have usable : connection.validate = .ok () := by decide +kernel
  have unnamedUsable : unnamed.validate = .ok () := by decide +kernel
  have sound : ¬Connection.IsMisread kept := by decide +kernel
  have unsound : Connection.IsMisread misread := by decide +kernel
  have known : ∃ node, Connection.givenNode kept = .ok node :=
    exists_eq_ok_of_isOk (by decide +kernel)
  have spoken : (Connection.givenScheme? kept).getD .http = .https := by decide +kernel
  have named : Host.ofText (Base.hostText (Connection.givenRest kept)) =
      .ok (.domain "node-b".toList) := by decide +kernel
  have given : Connection.givenScheme? misread = some .https := by decide +kernel
  obtain ⟨urls, nodes, accepted_iff, _⟩ := entries_kept_iff usable
  obtain ⟨_, _, _, refused⟩ := entries_kept_iff unnamedUsable
  obtain ⟨keptUrl, misreadUrls⟩ := List.forall₂_cons.mp urls
  obtain ⟨misreadUrl, _⟩ := List.forall₂_cons.mp misreadUrls
  obtain ⟨cluster, accepted⟩ := accepted_iff.mpr fun host listed readable => by
    obtain here | here := List.mem_pair.mp listed
    · rwa [here]
    · exact absurd (here ▸ unsound) readable
  obtain ⟨first, _, firstNode, others, same⟩ := List.forall₂_cons_left_iff.mp (nodes cluster accepted)
  obtain ⟨second, _, secondNode, none, rfl⟩ := List.forall₂_cons_left_iff.mp others
  obtain rfl := List.forall₂_nil_left_iff.mp none
  obtain ⟨_, firstScheme, firstHost⟩ := firstNode.1 sound
  obtain ⟨scheme, giving, schemeNode⟩ := secondNode.2 unsound
  cases giving.symm.trans given
  obtain ⟨other, _, fault, _, error⟩ := refused "http://:9200" (by decide) (by decide +kernel)
    (by decide +kernel)
  exact ⟨usable, keptUrl.1.mpr sound, fun right => misreadUrl.1.mp right unsound,
    ⟨cluster, first, second, accepted, same, firstScheme.trans spoken,
      Except.ok.inj (firstHost.symm.trans named), schemeNode⟩,
    unnamedUsable, Connection.baseUrl other, fault, error⟩

/-- A scheme in capital letters and an entry that is no more than a scheme are both taken for hosts. -/
theorem schemes_taken_for_hosts :
    let capital := "HTTPS://search.internal:9200"
    let bare := "http://"
    let connection := Connection.toHosts [capital, bare]
    connection.validate = .ok () ∧
    connection.baseUrls = ["http://HTTPS://search.internal:9200", "http://http:"] ∧
    ¬Connection.IsUrlOf capital (Connection.baseUrl capital) ∧
    ¬Connection.IsUrlOf bare (Connection.baseUrl bare) ∧
    Host.ofText (Base.hostText (Connection.givenRest capital)) =
      .ok (.domain "search.internal".toList) ∧
    Base.hostText (Connection.givenRest bare) = [] ∧
    ∃ cluster, ofConnection connection = .ok cluster ∧
      cluster.nodes.map Base.host = [.domain "https".toList, .domain "http".toList] := by
  intro capital bare connection
  have misread : Connection.IsMisread capital ∧ Connection.IsMisread bare := by decide +kernel
  have hosts : (ofConnection connection).map (fun cluster => cluster.nodes.map Base.host) =
      .ok [.domain "https".toList, .domain "http".toList] := by decide +kernel
  refine ⟨by decide +kernel, by decide +kernel, ?_, ?_, by decide +kernel, by decide +kernel,
    map_eq_ok.mp hosts⟩
  · exact mt (Connection.isUrlOf_iff capital).mp (not_not.mpr misread.1)
  · exact mt (Connection.isUrlOf_iff bare).mp (not_not.mpr misread.2)

end Http.Cluster

end DocumentSearch
