import TezosNode.Proofs.Client.Keeping
import TezosNode.Proofs.Url.Origin

set_option autoImplicit false

/-!
# Client: where requests go

Every request of a client is that of an inquiry which the operation makes: its own, or one of
the two of a bootstrap.  All their paths begin with a slash if those that the caller gives do,
so that each request leads to the node of the client's host, at every point of a session and
whatever paths, options, names and hashes hold.
-/

namespace TezosNode

/-! ## Inquiries of operations -/

/-- The inquiries that an operation may make.  Of a bootstrap, the one for constants is for a
hash that the node has reported. -/
inductive Operation.Makes : Operation → Inquiry → Prop
  | own {op : Operation} {q : Inquiry} (hop : op.inquiry? = some q) : Makes op q
  | head : Makes .bootstrap .head
  | constants (blockHash : String) : Makes .bootstrap (.constants blockHash)

/-- What has happened from one point of a session to another, where every request was made
through the transport in use and comes from an inquiry. -/
def Session.MadeBy (s t : Session) (makes : Inquiry → Prop) : Prop :=
  ∃ events, t.trace = s.trace ++ events ∧
    ∀ p ∈ Session.attempts events, p.1 = s.client.transport ∧
      ∃ q, makes q ∧ q.request s.client.host = .ok p.2

namespace Session.MadeBy

variable {s t u : Session} {makes more : Inquiry → Prop}

/-- Where nothing has happened, no request has been made. -/
theorem of_trace_eq (hsame : t.trace = s.trace) : s.MadeBy t makes := by
  refine ⟨[], ?_, fun p hmem => (nomatch hmem)⟩
  rw [hsame, List.append_nil]

/-- What a client has done that has stayed the same is put together. -/
theorem trans (h : s.MadeBy t makes) (h' : t.MadeBy u makes) (hclient : t.client = s.client) :
    s.MadeBy u makes := by
  obtain ⟨events, htrace, hall⟩ := h
  obtain ⟨events', htrace', hall'⟩ := h'
  refine ⟨events ++ events', ?_, ?_⟩
  · rw [htrace', htrace, List.append_assoc]
  · intro p hmem
    rw [Session.attempts_append] at hmem
    rcases List.mem_append.1 hmem with hmem | hmem
    · exact hall p hmem
    · have hp := hall' p hmem
      rw [hclient] at hp
      exact hp

/-- Events that are no attempts add no requests. -/
theorem note (h : s.MadeBy t makes) {events : List Event} (hnone : Session.attempts events = []) :
    s.MadeBy (t.note events) makes := by
  obtain ⟨before, htrace, hall⟩ := h
  refine ⟨before ++ events, ?_, ?_⟩
  · rw [Session.note_trace, htrace, List.append_assoc]
  · rw [Session.attempts_append, hnone, List.append_nil]
    exact hall

theorem mono (h : s.MadeBy t makes) (himp : ∀ q, makes q → more q) : s.MadeBy t more := by
  obtain ⟨events, htrace, hall⟩ := h
  refine ⟨events, htrace, ?_⟩
  intro p hmem
  obtain ⟨htransport, q, hq, hrequest⟩ := hall p hmem
  exact ⟨htransport, q, himp q hq, hrequest⟩

end Session.MadeBy

/-- A call makes no request but its own. -/
theorem Inquiry.madeBy_call (q : Inquiry) (s : Session) :
    s.MadeBy (q.call.runIn s).2 (· = q) := by
  rcases q.call_cases s with ⟨f, _, hfail⟩ | ⟨r, aside, events, hrequest, hexchange, hafter⟩
  · rw [hfail]
    exact .of_trace_eq rfl
  · refine ⟨events, ?_, ?_⟩
    · rw [hafter, Session.note_trace, hexchange.trace_eq]
    · intro p hmem
      rw [hexchange.attempts_eq] at hmem
      obtain rfl := List.mem_singleton.1 hmem
      exact ⟨rfl, q, rfl, hrequest⟩

/-- The requests of a bootstrap after that for the head are for the constants there. -/
theorem BootstrapRun.madeBy_after_head {s t : Session} {result : Except Failure Constants}
    (h : BootstrapRun s result t) {head : Block} (hhead : (Endpoint.head.runIn s).1 = .ok head) :
    (Endpoint.head.runIn s).2.MadeBy t (· = .constants head.hash) := by
  cases h with
  | headFailed hhead' =>
    rw [hhead'] at hhead
    cases hhead
  | @constantsFailed head' f t u hhead' hconstants =>
    rw [hhead'] at hhead ⊢
    obtain rfl := Except.ok.inj hhead
    rw [Endpoint.after_constants hconstants]
    exact ((Inquiry.constants head'.hash).madeBy_call t).note (Session.attempts_setback _ _ _ _)
  | @completed head' c t u hhead' hconstants =>
    rw [hhead'] at hhead ⊢
    obtain rfl := Except.ok.inj hhead
    have hmade := (Inquiry.constants head'.hash).madeBy_call t
    rw [← Endpoint.after_constants hconstants] at hmade
    obtain ⟨events, htrace, hall⟩ := hmade
    refine Session.MadeBy.note ?_ rfl
    exact ⟨events, htrace, hall⟩

/-- All requests of a bootstrap are for the head or for constants. -/
theorem BootstrapRun.madeBy {s t : Session} {result : Except Failure Constants}
    (h : BootstrapRun s result t) : s.MadeBy t (Operation.bootstrap.Makes ·) := by
  have hfirst : s.MadeBy (Endpoint.head.runIn s).2 (Operation.bootstrap.Makes ·) := by
    rw [Endpoint.runIn_head]
    refine (Inquiry.head.madeBy_call s).mono ?_
    rintro q rfl
    exact .head
  cases hhead : (Endpoint.head.runIn s).1 with
  | error f =>
    cases h with
    | headFailed hhead' =>
      rw [hhead'] at hfirst
      exact hfirst.note (Session.attempts_setback _ _ _ _)
    | constantsFailed hhead' =>
      rw [hhead'] at hhead
      cases hhead
    | completed hhead' =>
      rw [hhead'] at hhead
      cases hhead
  | ok head =>
    have hsecond : (Endpoint.head.runIn s).2.MadeBy t (Operation.bootstrap.Makes ·) := by
      refine (h.madeBy_after_head hhead).mono ?_
      rintro q rfl
      exact .constants head.hash
    apply hfirst.trans hsecond
    rw [Endpoint.runIn_head]
    exact Inquiry.head.call_client s

/-- An operation that is an inquiry makes its request alone. -/
theorem Session.madeBy_of_inquiry {op : Operation} {q : Inquiry} (hop : op.inquiry? = some q)
    (s : Session) : s.MadeBy (s.perform op).2 (· = q) := by
  rw [perform_of_inquiry hop]
  exact q.madeBy_call s

/-- An operation makes no requests but those of its inquiries. -/
theorem Session.madeBy_perform (s : Session) (op : Operation) :
    s.MadeBy (s.perform op).2 op.Makes := by
  cases hop : op.inquiry? with
  | some q =>
    refine (madeBy_of_inquiry hop s).mono ?_
    rintro _ rfl
    exact .own hop
  | none =>
    cases op with
    | bootstrap =>
      rw [perform_bootstrap]
      exact (Action.bootstrapRun s).madeBy
    | useTransport n => exact .of_trace_eq rfl
    | installTransport t => exact .of_trace_eq rfl
    | closeIdle => exact (MadeBy.of_trace_eq rfl).note rfl
    | closeTransport => exact .of_trace_eq rfl
    | setConstants c => exact .of_trace_eq rfl
    | _ => cases hop

/-! ## Paths of inquiries -/

/-- Whether a path begins with a slash. -/
def IsRooted (path : String) : Prop := path.toList.head? = some '/'

theorem IsRooted.append {path : String} (h : IsRooted path) (more : String) :
    IsRooted (path ++ more) := by
  unfold IsRooted at h ⊢
  rw [String.toList_append, List.head?_append, h]
  rfl

/-- The path that the caller gives for an operation, if any. -/
def Operation.path? : Operation → Option String
  | .get path _ | .post path _ _ | .delete path _ => some path
  | _ => none

namespace Endpoint

theorem isRooted_chainPath : IsRooted chainPath := rfl

theorem isRooted_injectionPath : IsRooted injectionPath := rfl

theorem isRooted_blockPath (id : String) : IsRooted (blockPath id) :=
  (isRooted_chainPath.append _).append id

theorem isRooted_constantsPath (blockHash : String) : IsRooted (constantsPath blockHash) :=
  (isRooted_blockPath blockHash).append _

theorem isRooted_contractPath (blockHash address : String) :
    IsRooted (contractPath blockHash address) :=
  ((isRooted_blockPath blockHash).append _).append address

end Endpoint

/-- If the path that the caller gives begins with a slash, all paths of an operation do. -/
theorem Operation.Makes.isRooted {op : Operation} {q : Inquiry} (h : op.Makes q)
    (hpath : ∀ path, op.path? = some path → IsRooted path) : IsRooted q.path := by
  cases h with
  | head => exact Endpoint.isRooted_blockPath "head"
  | constants blockHash => exact Endpoint.isRooted_constantsPath blockHash
  | own hop =>
    cases op with
    | get path options =>
      obtain rfl := Option.some.inj hop
      exact hpath path rfl
    | post path body options =>
      obtain rfl := Option.some.inj hop
      exact hpath path rfl
    | delete path options =>
      obtain rfl := Option.some.inj hop
      exact hpath path rfl
    | block id =>
      obtain rfl := Option.some.inj hop
      exact Endpoint.isRooted_blockPath id
    | constants blockHash =>
      obtain rfl := Option.some.inj hop
      exact Endpoint.isRooted_constantsPath blockHash
    | balance blockHash address =>
      obtain rfl := Option.some.inj hop
      exact (Endpoint.isRooted_contractPath blockHash address).append _
    | counter blockHash address =>
      obtain rfl := Option.some.inj hop
      exact (Endpoint.isRooted_contractPath blockHash address).append _
    | chainId =>
      obtain rfl := Option.some.inj hop
      exact Endpoint.isRooted_chainPath.append _
    | isBootstrapped =>
      obtain rfl := Option.some.inj hop
      exact Endpoint.isRooted_chainPath.append _
    | injectOperation operation chain =>
      obtain rfl := Option.some.inj hop
      exact Endpoint.isRooted_injectionPath
    | _ => cases hop

/-! ## Requests of inquiries -/

/-- What a request of an inquiry was made of: a URL that has been read, and options that have
been attached to it. -/
theorem Inquiry.exists_of_request {q : Inquiry} {host : String} {r : Request}
    (hrequest : q.request host = .ok r) :
    ∃ u, Url.parse (host.toList ++ q.path.toList) = .ok u ∧ u.attach q.options = .ok r.url ∧
      r.hostHeader = u.hostHeader? := by
  obtain ⟨u, v, hread, hattach, rfl⟩ := Inquiry.of_request hrequest
  exact ⟨u, hread, hattach, rfl⟩

/-- The host header is that of every URL that leads to the same host as it stands. -/
theorem Url.hostHeader?_eq {u v : Url} (hhost : v.host = u.host) (hport : v.port = u.port) :
    v.hostHeader? = u.hostHeader? := by
  simp only [hostHeader?, netloc, hostText, portText, hhost, hport]

/-- A request to a path that begins with a slash leads to the node of the host that it is
made for, and names that host. -/
theorem Inquiry.sameOrigin_of_request {q : Inquiry} {host url : String} {r : Request}
    (hurl : Host.normalize host = .ok url) (hpath : IsRooted q.path)
    (hrequest : q.request url = .ok r) :
    ∃ node, Url.parse url.toList = .ok node ∧ r.url.SameOrigin node ∧
      r.hostHeader = node.hostHeader? := by
  obtain ⟨u, hread, hattach, hheader⟩ := Inquiry.exists_of_request hrequest
  obtain ⟨node, hnode, hhost, hsame⟩ := Url.exists_parse_of_append hurl hpath hread
  refine ⟨node, hnode, ?_, ?_⟩
  · exact (Url.sameOrigin_of_attach (Url.isSettled_of_parse hurl hread) hattach).trans hsame
  · rw [hheader]
    exact Url.hostHeader?_eq hhost.symm hsame.port_eq

/-! ## Sessions -/

namespace Session

/-- A request that has been sent is one that was given to a transport. -/
theorem mem_attempts_of_mem_requests {events : List Event} {p : Nat × Request}
    (hmem : p ∈ requests events) : p ∈ attempts events := by
  obtain ⟨e, he, hp⟩ := List.mem_filterMap.1 hmem
  refine List.mem_filterMap.2 ⟨e, he, ?_⟩
  cases e with
  | sent t r => exact hp
  | _ => cases hp

/-- If all requests up to some point are made by inquiries with paths that begin with a slash,
so are those up to a later one. -/
theorem exists_inquiry_of_attempt (s : Session) (ops : List Operation)
    (hpaths : ∀ op ∈ ops, ∀ path, op.path? = some path → IsRooted path) {p : Nat × Request}
    (hmem : p ∈ attempts (s.performAll ops).trace) :
    p ∈ attempts s.trace ∨ ∃ q : Inquiry, IsRooted q.path ∧ q.request s.client.host = .ok p.2 := by
  induction ops generalizing s with
  | nil => exact .inl hmem
  | cons op rest ih =>
    have hlater := ih (s.perform op).2
      (fun op' hop' => hpaths op' (List.mem_cons_of_mem op hop')) hmem
    rw [host_perform] at hlater
    refine hlater.elim (fun hmem => ?_) .inr
    obtain ⟨events, htrace, hall⟩ := s.madeBy_perform op
    rw [htrace, attempts_append] at hmem
    rcases List.mem_append.1 hmem with hbefore | hnew
    · exact .inl hbefore
    · obtain ⟨-, q, hmakes, hrequest⟩ := hall p hnew
      exact .inr ⟨q, hmakes.isRooted (hpaths op List.mem_cons_self), hrequest⟩

/-- In every session, if the paths that its caller gives begin with a slash, every request
that is sent leads to the node of the client's host: scheme, user information and port are
those of that host by itself, and so is the host up to letter case.  The request also names
that host in its header.  No path, option, name or hash can send a request elsewhere. -/
theorem requests_to_node {host : Option String} {config : Config} {transports : List Transport}
    {transport : Nat} {replies : List Reply} {clock : List Int} {s : Session}
    (hstart : start host config transports transport replies clock = .ok s)
    (ops : List Operation)
    (hpaths : ∀ op ∈ ops, ∀ path, op.path? = some path → path.toList.head? = some '/')
    (t : Nat) (r : Request) (hsent : (t, r) ∈ requests (s.performAll ops).trace) :
    ∃ url node, Host.normalize (host.getD config.host) = .ok url ∧
      Url.parse url.toList = .ok node ∧ r.url.SameOrigin node ∧
      r.hostHeader = node.hostHeader? := by
  obtain ⟨url, hurl, rfl⟩ := eq_of_start hstart
  have hattempt := mem_attempts_of_mem_requests hsent
  rcases exists_inquiry_of_attempt _ ops hpaths hattempt with hbefore | ⟨q, hpath, hrequest⟩
  · cases hbefore
  · obtain ⟨node, hnode, hsame, hheader⟩ := Inquiry.sameOrigin_of_request hurl hpath hrequest
    exact ⟨url, node, hurl, hnode, hsame, hheader⟩

/-- A client of a node with a user, capitals and a port, which the node tells a hash that
looks like the end of another authority. -/
def misled : Session :=
  ⟨⟨"http://u:p@Node:81", .default, 0, none⟩, [.plain],
    [.notFound, .success "\x7b\"hash\":\"@other:82?\"\x7d"], [], []⟩

/-- Neither a path that looks like another authority nor such a hash leads elsewhere. -/
theorem requests_to_node_of_misled :
    ∃ p ∈ requests (misled.performAll [.get "//v@other:82/" [("@other:82", "//")],
        .bootstrap]).trace,
      p.2.url.path = "/chains/main/blocks/@other:82".toList ∧
        ∃ node, Url.parse "http://u:p@Node:81".toList = .ok node ∧ p.2.url.SameOrigin node := by
  obtain ⟨⟨t, r⟩, hsent, hpath⟩ :
      ∃ p ∈ requests (misled.performAll [.get "//v@other:82/" [("@other:82", "//")],
          .bootstrap]).trace,
        p.2.url.path = "/chains/main/blocks/@other:82".toList := by
    decide +kernel
  refine ⟨(t, r), hsent, hpath, ?_⟩
  have hstart : start (some "http://u:p@Node:81") .default misled.transports 0 misled.replies [] =
      .ok misled :=
    rfl
  have hpaths : ∀ op ∈ [Operation.get "//v@other:82/" [("@other:82", "//")], .bootstrap],
      ∀ path, op.path? = some path → path.toList.head? = some '/' := by
    intro op hop path hpath
    rcases List.mem_cons.1 hop with rfl | hop
    · obtain rfl := Option.some.inj hpath
      rfl
    · obtain rfl := List.mem_singleton.1 hop
      cases hpath
  obtain ⟨url, node, hurl, hnode, hsame, -⟩ := requests_to_node hstart _ hpaths t r hsent
  obtain rfl : "http://u:p@Node:81" = url := Except.ok.inj hurl
  exact ⟨node, hnode, hsame⟩

end Session

end TezosNode
