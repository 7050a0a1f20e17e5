import LightningGateway.Proofs.Backend.Lookup
import LightningGateway.Proofs.Provider.Sending
import LightningGateway.Proofs.Url.Plain

/-
  Where lookups are sent.

  The id of an invoice or a payment is written at the end of an
  address as it is, and the whole is then read as a URL.  So an
  id is looked up under its own name only if nothing in it is
  read as a part of the URL.

  Key definitions include:
    * `Wallet.resource`, `Wallet.lookupPath`
    * `Wallet.SendsTo`
    * `Url.directory`, `Url.below`
    * `Url.Names`

  Main results:
    * `Client.target_eq_ok_iff`
    * `Wallet.parse_lookupPath`
    * `Wallet.lookups_named_iff`
-/

namespace LightningGateway

open Backend Payment Provider

------------------------------------------------------------
-- Directories
------------------------------------------------------------

namespace Url

/- The segments of a path before its last slash. -/
def directory (u : Url) : List (List Char) :=
  match u.path with
  | .segments ss => ss.dropLast
  | .opaqueText _ => []

/- The directory of a path is without its last segment. -/
theorem directory_eq
    {u : Url}
    {ss : List (List Char)}
    (hPath : u.path = .segments ss) :
    u.directory = ss.dropLast := by
  rw [directory, hPath]

/- The URL of segments in the directory of a URL. -/
def below
    (u : Url)
    (ss : List (List Char)) : Url :=
  { u with path := .segments (u.directory ++ ss) }

/-
  A URL names an id under a resource: its path is the directory
  of the base, the resource and one more segment, which stands
  for the id, and it has no query.
-/
structure Names
    (base : Url)
    (resource : List (List Char))
    (id : String)
    (u : Url) : Prop where
  scheme_eq : u.scheme = base.scheme
  authority_eq : u.authority = (connectUrl base).authority
  path_eq :
    ∃ seg,
      u.path =
          .segments (base.directory ++ resource ++ [seg]) ∧
        Percent.decode seg = Text.Utf8.encode id
  query_eq : u.query = none

end Url

------------------------------------------------------------
-- Targets
------------------------------------------------------------

namespace Provider

/- Only the user of the address to connect to is changed. -/
theorem connectUrl_fields (u : Url) :
    (connectUrl u).scheme = u.scheme ∧
      (connectUrl u).path = u.path ∧
      (connectUrl u).query = u.query ∧
      (connectUrl u).fragment = u.fragment ∧
      (connectUrl u).host? = u.host? := by
  unfold connectUrl
  split
  · refine ⟨rfl, rfl, rfl, rfl, ?_⟩
    unfold Url.host? Url.withoutUser
    cases u.authority <;> rfl
  · exact ⟨rfl, rfl, rfl, rfl, rfl⟩

/- The user is changed without regard to the path. -/
theorem authority_connectUrl
    {u v : Url}
    (hSame : u.authority = v.authority) :
    (connectUrl u).authority = (connectUrl v).authority := by
  unfold connectUrl
  rw [hSame]
  split
  · exact congrArg (Option.map _) hSame
  · exact hSame

/- A request is sent to a special URL with a host. -/
theorem special_of_isSendable
    {u : Url}
    (hSendable : isSendable u = true) :
    Url.Scheme.kind u.scheme = .special ∧
      u.authority.isSome = true ∧ u.host?.isSome = true := by
  simp only [isSendable, Bool.and_eq_true, Bool.or_eq_true,
    beq_iff_eq] at hSendable
  rcases hSendable with ⟨⟨hScheme, _⟩, hHost⟩
  have hKind : Url.Scheme.kind u.scheme = .special := by
    unfold Url.Scheme.kind Url.Scheme.port?
    rcases hScheme with hPlain | hSecure
    · rw [hPlain]
      rfl
    · rw [hSecure]
      rfl
  cases hFound : u.host? with
  | none =>
      rw [hFound] at hHost
      cases hHost
  | some h =>
      refine ⟨hKind, ?_, rfl⟩
      rcases Option.bind_eq_some_iff.mp hFound with
        ⟨a, hAuthority, _⟩
      rw [hAuthority]
      rfl

/- The target of a path is where a request for it can be sent. -/
theorem Client.target_eq_ok_iff
    {c : Client}
    {path : String}
    {u : Url} :
    c.target path = .ok u ↔
      ∃ v, Url.parse (c.url path) = .ok v ∧
        connectUrl v = u ∧ isSendable u = true := by
  unfold target
  cases hParse : Url.parse (c.url path) with
  | error e => simp
  | ok v =>
      have hNamed :
          isSendable (connectUrl v) = true →
            v.host?.isNone = false := by
        intro hSendable
        have hHost := (special_of_isSendable hSendable).2.2
        rw [(connectUrl_fields v).2.2.2.2] at hHost
        rw [← Option.not_isSome, hHost]
        rfl
      simp only [Except.ok.injEq, exists_eq_left']
      by_cases hSendable : isSendable (connectUrl v) = true
      · rw [hNamed hSendable]
        simp only [Bool.false_eq_true, if_false, if_pos hSendable,
          Except.ok.injEq]
        constructor
        · rintro rfl
          exact ⟨rfl, hSendable⟩
        · rintro ⟨hSame, _⟩
          exact hSame
      · simp only [if_neg hSendable]
        constructor
        · intro hTarget
          split at hTarget <;> cases hTarget
        · rintro ⟨rfl, hOther⟩
          exact absurd hOther hSendable

/- An address goes on after a slash; more slashes do not count. -/
theorem Client.toList_url_eq
    (c : Client)
    (path : String) :
    (c.url path).toList =
      c.endpoint.toList ++
        '/' :: path.toList.dropWhile Endpoint.isSlash := by
  rw [url, Endpoint.join, Text.trimStart, String.toList_append,
    String.toList_append, List.append_assoc]
  simp only [String.toList_ofList]
  rfl

/- The characters of an address are those of the endpoint and path. -/
theorem Client.toList_url
    (c : Client)
    {path : String}
    (hStart : path.toList.head? ≠ some '/') :
    (c.url path).toList =
      c.endpoint.toList ++ '/' :: path.toList := by
  have hTrim :
      path.toList.dropWhile Endpoint.isSlash = path.toList := by
    cases hPath : path.toList with
    | nil => rfl
    | cons d rest =>
        rw [hPath] at hStart
        apply List.dropWhile_cons_of_neg
        simpa [Endpoint.isSlash] using hStart
  rw [c.toList_url_eq, hTrim]

end Provider

------------------------------------------------------------
-- Paths of Lookups
------------------------------------------------------------

namespace Wallet

/- Where a provider keeps what is looked up. -/
def resource : Wallet → Subject → List String
  | .lnbits _, _ => ["api", "v1", "payments"]
  | .lnpay _, _ => ["lntx"]
  | .zbd _, .invoice => ["charges"]
  | .zbd _, .payment => ["payments"]
  | .memory _, _ => []

/- A text after segments, with slashes between them. -/
def pathTo : List String → String → String
  | [], id => id
  | s :: ss, id => s ++ "/" ++ pathTo ss id

/- The path of the lookup of an id. -/
def lookupPath
    (w : Wallet)
    (subject : Subject)
    (id : String) : String :=
  pathTo (w.resource subject) id

/- A lookup is one call of its path. -/
theorem lookUp_eq_call
    {w : Wallet}
    {c : Client}
    (hClient : w.client? = some c)
    (subject : Subject)
    (id : String) :
    ∃ read, w.lookUp subject id =
      .once ⟨.get, w.lookupPath subject id, some readLimit⟩
        read := by
  cases w with
  | lnbits v =>
      have hPath :
          Lnbits.paymentsPath ++ "/" ++ id =
            pathTo ["api", "v1", "payments"] id := by
        apply String.toList_inj.mp
        simp [pathTo, Lnbits.paymentsPath]
      cases subject with
      | invoice =>
          refine ⟨v.statusOf Lnbits.Lookup.invoiceStatus, ?_⟩
          rw [lookupPath, resource, ← hPath]
          rfl
      | payment =>
          refine ⟨v.statusOf Lnbits.Lookup.paymentStatus, ?_⟩
          rw [lookupPath, resource, ← hPath]
          rfl
  | lnpay v => cases subject <;> exact ⟨v.statusOf, rfl⟩
  | zbd v => cases subject <;> exact ⟨v.statusOf _, rfl⟩
  | memory l => cases hClient

/- The segments of a resource are plain. -/
theorem isPlain_of_mem_resource
    {w : Wallet}
    {subject : Subject}
    {s : String}
    (hMem : s ∈ w.resource subject) :
    Url.IsPlain s.toList ∧
      Url.Percent.encode Url.Percent.inPath s.toList =
        s.toList := by
  have hAll :
      ∀ t ∈ ["api", "v1", "payments", "lntx", "charges"],
        Url.IsPlain t.toList ∧
          Url.Percent.encode Url.Percent.inPath t.toList =
            t.toList := by
    decide +kernel
  have hKnown :
      w.resource subject ⊆
        ["api", "v1", "payments", "lntx", "charges"] := by
    cases w with
    | zbd v => cases subject <;> simp [resource]
    | _ => simp [resource]
  exact hAll s (hKnown hMem)

/- No path of a lookup starts with a slash. -/
theorem head?_lookupPath
    {w : Wallet}
    {c : Client}
    (hClient : w.client? = some c)
    (subject : Subject)
    (id : String) :
    (w.lookupPath subject id).toList.head? ≠ some '/' := by
  cases w with
  | memory l => cases hClient
  | zbd v =>
      cases subject <;> simp [lookupPath, resource, pathTo]
  | _ => simp [lookupPath, resource, pathTo]

/- Plain segments before a text are added to the path. -/
theorem resolveDots_pathTo
    {ss : List String}
    (hPlain :
      ∀ s ∈ ss, Url.IsPlain s.toList ∧
        Url.Percent.encode Url.Percent.inPath s.toList =
          s.toList)
    (done : List (List Char))
    (id : String) :
    Url.resolveDots .special done
          (Url.segmentsOf (pathTo ss id).toList) =
        Url.resolveDots .special
          ((ss.map String.toList).reverse ++ done)
          (Url.segmentsOf id.toList) ∧
      Url.tailsOf (pathTo ss id).toList =
        Url.tailsOf id.toList := by
  induction ss generalizing done with
  | nil => exact ⟨rfl, rfl⟩
  | cons s ss ih =>
      rcases hPlain s (.head ss) with ⟨hFirst, hKept⟩
      have hChars :
          (pathTo (s :: ss) id).toList =
            s.toList ++ '/' :: (pathTo ss id).toList := by
        rw [pathTo, String.toList_append, String.toList_append,
          List.append_assoc]
        rfl
      rcases ih (fun t hMem => hPlain t (.tail s hMem))
          (s.toList :: done) with
        ⟨hSegments, hTails⟩
      rw [hChars, hFirst.resolveDots_append, hKept, hSegments,
        hFirst.tailsOf_append, hTails, List.map_cons,
        List.reverse_cons, List.append_assoc]
      exact ⟨rfl, rfl⟩

/-
  The address of a lookup, read as a URL: the id goes on with
  the path under the resource, or adds nothing to the path at
  all if the base has a query or a fragment.
-/
theorem parse_lookupPath
    {w : Wallet}
    {c : Client}
    {b : Url}
    (hClient : w.client? = some c)
    (hBase : Url.parse (c.url "") = .ok b)
    (hKind : Url.Scheme.kind b.scheme = .special)
    (subject : Subject)
    (id : String) :
    (b.query = none ∧ b.fragment = none ∧
      Url.parse (c.url (w.lookupPath subject id)) =
        .ok { b with
          path :=
            .segments (Url.resolveDots .special
              (b.directory ++
                (w.resource subject).map String.toList).reverse
              (Url.segmentsOf id.toList))
          query := (Url.tailsOf id.toList).1
          fragment := (Url.tailsOf id.toList).2 }) ∨
    (¬(b.query = none ∧ b.fragment = none) ∧
      ∃ query fragment,
        Url.parse (c.url (w.lookupPath subject id)) =
          .ok { b with query := query, fragment := fragment }) := by
  have hRoot : (c.url "").toList = c.endpoint.toList ++ ['/'] :=
    c.toList_url (by simp)
  have hPath :
      (c.url (w.lookupPath subject id)).toList =
        c.endpoint.toList ++
          '/' :: (w.lookupPath subject id).toList :=
    c.toList_url (head?_lookupPath hClient subject id)
  rw [Url.parse, hRoot] at hBase
  rw [Url.parse, hPath]
  rcases Url.ofChars_below hBase hKind with
    ⟨hQuery, hFragment, done, hDone, hAdded⟩ |
      ⟨hTails, hAdded⟩
  · refine .inl ⟨hQuery, hFragment, ?_⟩
    have hDirectory : b.directory = done.reverse := by
      rw [Url.directory_eq hDone, List.dropLast_concat]
    rcases resolveDots_pathTo
        (fun s hMem => isPlain_of_mem_resource hMem) done id with
      ⟨hSegments, hEnds⟩
    rw [hAdded, hDirectory, lookupPath, hSegments, hEnds,
      List.reverse_append, List.reverse_reverse]
  · exact .inr ⟨hTails, hAdded _⟩

------------------------------------------------------------
-- Named Lookups
------------------------------------------------------------

/- The resource of a lookup, as segments of a path. -/
def resourceSegments
    (w : Wallet)
    (subject : Subject) : List (List Char) :=
  (w.resource subject).map String.toList

/-
  A lookup is sent to a URL: that is what its path is read as,
  and a provider in reach gets one request for it.
-/
structure SendsTo
    (w : Wallet)
    (c : Client)
    (subject : Subject)
    (id : String)
    (u : Url) : Prop where
  target_eq : c.target (w.lookupPath subject id) = .ok u
  requests_eq :
    ∀ script : Script, script.inReach = true →
      (w.run (w.lookUp subject id) script).requests =
        [⟨"GET", u.withoutFragment.render,
          c.headers .get (w.lookupPath subject id), none⟩]

/- A client that is open sends a lookup to its target. -/
theorem sendsTo_of_target
    {w : Wallet}
    {c : Client}
    {subject : Subject}
    {id : String}
    {u : Url}
    (hClient : w.client? = some c)
    (hOpen : c.closed = false)
    (hTarget : c.target (w.lookupPath subject id) = .ok u) :
    w.SendsTo c subject id u := by
  refine ⟨hTarget, ?_⟩
  intro script hReach
  rcases lookUp_eq_call hClient subject id with ⟨read, hCall⟩
  have hRequest :
      c.request
          ⟨.get, w.lookupPath subject id, some readLimit⟩ =
        .ok (⟨"GET", u.withoutFragment.render,
          c.headers .get (w.lookupPath subject id), none⟩,
          u.render) := by
    rw [Client.request, hTarget]
    rfl
  unfold run
  rw [hClient, hCall]
  simp only [Dialogue.requests_run_once, Client.sent, hOpen,
    hRequest, hReach, Bool.false_eq_true, if_false, if_true]

/- A plain id is one segment under the resource. -/
theorem below_of_isPlain
    {b : Url}
    {id : String}
    (hPlain : Url.IsPlain id.toList)
    (hQuery : b.query = none)
    (hFragment : b.fragment = none)
    (resource : List (List Char)) :
    { b with
      path :=
        .segments (Url.resolveDots .special
          (b.directory ++ resource).reverse
          (Url.segmentsOf id.toList))
      query := (Url.tailsOf id.toList).1
      fragment := (Url.tailsOf id.toList).2 } =
      b.below (resource ++
        [Url.Percent.encode Url.Percent.inPath id.toList]) := by
  rw [hPlain.segmentsOf_eq, hPlain.tailsOf_eq,
    Url.resolveDots_singleton hPlain.isDoubleDot_eq
      hPlain.isSingleDot_eq,
    List.reverse_reverse, Url.keptSegment_special,
    List.append_assoc, Url.below, hQuery, hFragment]

/- The base of an id that is named under it is a directory. -/
theorem isPlain_of_names
    {w : Wallet}
    {c : Client}
    {subject : Subject}
    {id : String}
    {b u : Url}
    (hClient : w.client? = some c)
    (hSome : id ≠ "")
    (hBase : Url.parse (c.url "") = .ok b)
    (hTarget : c.target (w.lookupPath subject id) = .ok u)
    (hNames :
      Url.Names b (w.resourceSegments subject) id u) :
    Url.IsPlain id.toList ∧ b.query = none ∧
      b.fragment = none ∧
      isSendable
        (connectUrl
          (b.below (w.resourceSegments subject ++
            [Url.Percent.encode Url.Percent.inPath
              id.toList]))) = true := by
  rcases Client.target_eq_ok_iff.mp hTarget with
    ⟨v, hParse, hConnect, hSendable⟩
  have hKind := (special_of_isSendable hSendable).1
  rw [hNames.scheme_eq] at hKind
  rcases hNames.path_eq with ⟨seg, hPath, hDecode⟩
  rw [← hConnect, (connectUrl_fields v).2.1] at hPath
  rcases parse_lookupPath hClient hBase hKind subject id with
    ⟨hQuery, hFragment, hRead⟩ | ⟨_, query, fragment, hRead⟩
  · rw [hRead] at hParse
    cases hParse
    have hLast :=
      congrArg List.getLast? (Url.Path.segments.inj hPath)
    rw [List.getLast?_concat] at hLast
    have hChars : id.toList ≠ [] := by
      intro hNil
      exact hSome (String.toList_inj.mp hNil)
    have hPlain :=
      Url.isPlain_of_getLast? hChars hLast hDecode
    refine ⟨hPlain, hQuery, hFragment, ?_⟩
    have hBelow :=
      below_of_isPlain hPlain hQuery hFragment
        (w.resourceSegments subject)
    rw [← hBelow]
    rw [← hConnect] at hSendable
    exact hSendable
  · -- The path of the base has no room for the resource.
    rw [hRead] at hParse
    cases hParse
    have hDirectory :
        b.directory =
          b.directory ++ w.resourceSegments subject :=
      (Url.directory_eq hPath).trans List.dropLast_concat
    have hNone : w.resourceSegments subject = [] :=
      List.append_right_eq_self.mp hDirectory.symm
    cases w with
    | memory l => cases hClient
    | zbd v => cases subject <;> cases hNone
    | _ => cases hNone

/- A plain id is named by the URL that its lookup is sent to. -/
theorem names_of_isPlain
    {w : Wallet}
    {c : Client}
    {subject : Subject}
    {id : String}
    {b : Url}
    (hClient : w.client? = some c)
    (hBase : Url.parse (c.url "") = .ok b)
    (hPlain : Url.IsPlain id.toList)
    (hQuery : b.query = none)
    (hFragment : b.fragment = none)
    (hSendable :
      isSendable
        (connectUrl
          (b.below (w.resourceSegments subject ++
            [Url.Percent.encode Url.Percent.inPath
              id.toList]))) = true) :
    ∃ u, c.target (w.lookupPath subject id) = .ok u ∧
      Url.Names b (w.resourceSegments subject) id u := by
  have hKind := (special_of_isSendable hSendable).1
  rw [(connectUrl_fields _).1] at hKind
  rcases parse_lookupPath hClient hBase hKind subject id with
    ⟨_, _, hRead⟩ | ⟨hTails, _⟩
  · have hBelow :=
      below_of_isPlain hPlain hQuery hFragment
        (w.resourceSegments subject)
    refine ⟨_, Client.target_eq_ok_iff.mpr
      ⟨_, hRead.trans (congrArg _ hBelow), rfl, hSendable⟩, ?_⟩
    refine ⟨(connectUrl_fields _).1, authority_connectUrl rfl,
      ⟨_, ?_, hPlain.decode_encode⟩, ?_⟩
    · rw [(connectUrl_fields _).2.1, List.append_assoc]
      rfl
    · rw [(connectUrl_fields _).2.2.1]
      exact hQuery
  · exact absurd ⟨hQuery, hFragment⟩ hTails

end Wallet

/- The text of a URL that names an id ends in its segment. -/
theorem Url.Names.id_eq
    {base u v : Url}
    {resource : List (List Char)}
    {id other : String}
    (hNames : Names base resource id u)
    (hOther : Names base resource other v)
    (hHost : u.authority.isSome = true)
    (hSame :
      u.withoutFragment.render = v.withoutFragment.render) :
    id = other := by
  rcases hNames.path_eq with ⟨seg, hPath, hDecode⟩
  rcases hOther.path_eq with ⟨seg', hPath', hDecode'⟩
  rcases Option.isSome_iff_exists.mp hHost with ⟨a, hFirst⟩
  have hSecond : v.authority = some a := by
    rw [hOther.authority_eq, ← hNames.authority_eq, hFirst]
  have hChars := String.ofList_injective hSame
  simp only [chars, beforePath, withoutFragment, hFirst, hSecond,
    hPath, hPath', hNames.query_eq, hOther.query_eq,
    hNames.scheme_eq, hOther.scheme_eq, Path.chars, tailChars,
    List.append_nil, List.flatMap_append, List.flatMap_cons,
    List.flatMap_nil, List.append_cancel_left_eq,
    List.cons.injEq, true_and] at hChars
  subst hChars
  rw [hDecode] at hDecode'
  exact String.toList_inj.mp
    (Text.Utf8.encodeChars_inj hDecode')

namespace Wallet

/-
  For every wallet with an open client and every id that is not
  empty: the lookup of an invoice or a payment is sent to a URL
  that names the id, under the resource of the provider and the
  address of the endpoint, if and only if the id is plain, that
  address has no query and no fragment, and a request can be
  sent to the URL with one segment for the id.  Ids that are
  named so are looked up at different addresses.
-/
theorem lookups_named_iff
    (w : Wallet)
    (c : Client)
    (subject : Subject)
    (id : String)
    (hClient : w.client? = some c)
    (hOpen : c.closed = false)
    (hSome : id ≠ "") :
    ((∃ b u, Url.parse (c.url "") = .ok b ∧
        w.SendsTo c subject id u ∧
        Url.Names b (w.resourceSegments subject) id u) ↔
      Url.IsPlain id.toList ∧
        ∃ b, Url.parse (c.url "") = .ok b ∧
          b.query = none ∧ b.fragment = none ∧
          isSendable
            (connectUrl
              (b.below (w.resourceSegments subject ++
                [Url.Percent.encode Url.Percent.inPath
                  id.toList]))) = true) ∧
    ∀ b u v other,
      w.SendsTo c subject id u →
      w.SendsTo c subject other v →
      Url.Names b (w.resourceSegments subject) id u →
      Url.Names b (w.resourceSegments subject) other v →
      u.withoutFragment.render = v.withoutFragment.render →
      id = other := by
  refine ⟨⟨?_, ?_⟩, ?_⟩
  · rintro ⟨b, u, hBase, hSends, hNames⟩
    rcases isPlain_of_names hClient hSome hBase hSends.target_eq
        hNames with
      ⟨hPlain, hQuery, hFragment, hSendable⟩
    exact ⟨hPlain, b, hBase, hQuery, hFragment, hSendable⟩
  · rintro ⟨hPlain, b, hBase, hQuery, hFragment, hSendable⟩
    rcases names_of_isPlain hClient hBase hPlain hQuery hFragment
        hSendable with
      ⟨u, hTarget, hNames⟩
    exact ⟨b, u, hBase, sendsTo_of_target hClient hOpen hTarget,
      hNames⟩
  · intro b u v other hSends _ hNames hOther hSame
    rcases Client.target_eq_ok_iff.mp hSends.target_eq with
      ⟨_, _, _, hSendable⟩
    have hHost := (special_of_isSendable hSendable).2.1
    exact hNames.id_eq hOther hHost hSame

/- A client of an LNbits instance. -/
def addressed : Client :=
  ⟨"http://lnbits.test", "x-api-key", "key", "agent", false⟩

/- A wallet with this client. -/
def addressing : Wallet :=
  .lnbits ⟨addressed, 5, 8⟩

/- The address of the instance. -/
def root : Url :=
  ⟨"http".toList,
    some ⟨[], [], some (.domain "lnbits.test".toList), none⟩,
    .segments [[]], none, none⟩

/- An id with a blank and a letter outside ASCII is named. -/
theorem lookups_named_iff_of_blank :
    addressing.client? = some addressed ∧
      addressed.closed = false ∧
      ∃ b u, Url.parse (addressed.url "") = .ok b ∧
        addressing.SendsTo addressed .invoice "h \u00e9" u ∧
        Url.Names b (addressing.resourceSegments .invoice)
          "h \u00e9" u := by
  have hBase : Url.parse (addressed.url "") = .ok root := by
    decide +kernel
  have hPlain : Url.IsPlain "h \u00e9".toList := by
    decide +kernel
  have hSendable :
      isSendable
        (connectUrl
          (root.below (addressing.resourceSegments .invoice ++
            [Url.Percent.encode Url.Percent.inPath
              "h \u00e9".toList]))) = true := by
    decide +kernel
  refine ⟨rfl, rfl, ?_⟩
  exact (lookups_named_iff addressing addressed .invoice
    "h \u00e9" rfl rfl (by decide)).1.mpr
      ⟨hPlain, root, hBase, rfl, rfl, hSendable⟩

/- Whether the endpoint of a client is a web address. -/
def onWeb (c : Client) : Prop :=
  ∃ e, Url.parse c.endpoint = .ok e ∧
    (e.scheme = "http".toList ∨ e.scheme = "https".toList)

/- The address of another resource of the instance. -/
def elsewhere : Url :=
  { root with
    path :=
      .segments
        ["api".toList, "v1".toList, "wallet".toList] }

/-
  Not every id is looked up under its own name, even at a web
  address: with two dots it leads to another resource.
-/
theorem not_all_lookups_named :
    addressing.SendsTo addressed .invoice "../wallet"
        elsewhere ∧
      ¬∀ (w : Wallet) (c : Client) (subject : Subject)
          (id : String),
        w.client? = some c → c.closed = false → onWeb c →
        id ≠ "" →
        ∃ b u, Url.parse (c.url "") = .ok b ∧
          w.SendsTo c subject id u ∧
          Url.Names b (w.resourceSegments subject) id u := by
  have hTarget :
      addressed.target
          (addressing.lookupPath .invoice "../wallet") =
        .ok elsewhere := by
    decide +kernel
  have hBase : Url.parse (addressed.url "") = .ok root := by
    decide +kernel
  have hEndpoint : Url.parse addressed.endpoint = .ok root := by
    decide +kernel
  refine ⟨sendsTo_of_target rfl rfl hTarget, ?_⟩
  intro hNamed
  rcases hNamed addressing addressed .invoice "../wallet" rfl rfl
      ⟨root, hEndpoint, .inl rfl⟩ (by decide) with
    ⟨b, u, hRoot, hSends, hNames⟩
  rw [hBase] at hRoot
  cases hRoot
  have hSame := hSends.target_eq
  rw [hTarget] at hSame
  cases hSame
  rcases hNames.path_eq with ⟨seg, hPath, _⟩
  have hLength :=
    congrArg List.length (Url.Path.segments.inj hPath)
  exact absurd hLength (by simp; decide)

end Wallet

end LightningGateway
