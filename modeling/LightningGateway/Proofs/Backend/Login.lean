import LightningGateway.Proofs.Backend.Addressing

/-
  What tells a provider who sends a request.

  Besides the key of a wallet this is the login that the address
  of the provider names, if it names one.  It is the same in all
  requests, as what is written after the address of the provider
  has no part in it.

  Key definitions include:
    * `Url.LogsIn`
    * `Request.credentials`
    * `Request.IsShownBy`

  Main results:
    * `login?_eq_some_iff`
    * `Client.isShownBy_of_request`
-/

namespace LightningGateway

open Provider

------------------------------------------------------------
-- Texts That Are Empty
------------------------------------------------------------

/- Only of no bytes there are no characters. -/
theorem Text.Utf8.decodeFrom_eq_nil
    {s : Option Unfinished}
    {bytes : List UInt8}
    (hNone : decodeFrom s bytes = []) :
    bytes = [] := by
  induction bytes generalizing s with
  | nil => rfl
  | cons b rest ih =>
      -- What is not finished with its first byte ends later.
      have hMore {u : Unfinished} :
          decodeFrom (some u) rest ≠ [] := by
        intro hLater
        rw [ih hLater] at hLater
        cases hLater
      unfold decodeFrom at hNone
      cases s with
      | none =>
          simp only at hNone
          split at hNone
          · cases hNone
          · exact absurd hNone hMore
          · cases hNone
      | some u =>
          simp only at hNone
          split at hNone
          · split at hNone
            · cases hNone
            · exact absurd hNone hMore
            · cases hNone
          · cases hNone

/- Only an empty part of a URL has no bytes. -/
theorem Url.Percent.decode_eq_nil_iff {cs : List Char} :
    decode cs = [] ↔ cs = [] := by
  refine ⟨?_, fun hNone => by rw [hNone]; rfl⟩
  intro hNone
  unfold decode at hNone
  split at hNone
  · rfl
  · split at hNone <;> cases hNone
  · rw [List.append_eq_nil_iff] at hNone
    exact absurd hNone.1 String.utf8EncodeChar_ne_nil

------------------------------------------------------------
-- Logins
------------------------------------------------------------

/-
  A URL names a user and a password to log in as: the user is
  text, and one of the two is not empty.  A password that is no
  text counts as empty.
-/
def Url.LogsIn
    (u : Url)
    (user password : String) : Prop :=
  ∃ a, u.authority = some a ∧
    Text.Utf8.decode? (Percent.decode a.user) = .ok user ∧
    (Text.Utf8.decode? (Percent.decode a.password) =
        .ok password ∨
      (∃ f, Text.Utf8.decode? (Percent.decode a.password) =
        .error f) ∧ password = "") ∧
    (user ≠ "" ∨ password ≠ "")

namespace Provider

/- The header for a user and a password. -/
def basicLogin (user password : String) : String × String :=
  ("authorization",
    "Basic " ++ Text.Base64.encode
      (Text.Utf8.encode (user ++ ":" ++ password)))

/- A part of an address is text, which may be empty, or it is not. -/
theorem part_cases (cs : List Char) :
    (∃ text,
      Text.Utf8.decode? (Url.Percent.decode cs) = .ok text ∧
        isText cs = true ∧ plainPart cs = text ∧
        (cs = [] ↔ text = "")) ∨
    (∃ f, Text.Utf8.decode? (Url.Percent.decode cs) = .error f) ∧
      isText cs = false ∧ plainPart cs = "" := by
  unfold isText plainPart
  cases hRead : Text.Utf8.decode? (Url.Percent.decode cs) with
  | error f => exact .inr ⟨⟨f, rfl⟩, rfl, rfl⟩
  | ok text =>
      refine .inl ⟨text, rfl, rfl, rfl, ?_⟩
      constructor
      · rintro rfl
        cases hRead
        rfl
      · rintro rfl
        rw [← Url.Percent.decode_eq_nil_iff]
        unfold Text.Utf8.decode? at hRead
        split at hRead
        · cases hRead
        · have hChars := congrArg String.toList
            (Except.ok.inj hRead)
          rw [Text.Utf8.decode, String.toList_ofList] at hChars
          exact Text.Utf8.decodeFrom_eq_nil hChars

/- A URL has a login by its authority. -/
theorem logsIn_iff
    {u : Url}
    {a : Url.Authority}
    {user password : String}
    (hAuthority : u.authority = some a) :
    u.LogsIn user password ↔
      hasLogin a = true ∧ plainPart a.user = user ∧
        plainPart a.password = password := by
  simp only [Url.LogsIn, hAuthority, Option.some.injEq,
    exists_eq_left']
  rcases part_cases a.user with
    ⟨name, hName, hIsName, hPlainName, hNoName⟩ |
    ⟨⟨f, hName⟩, hIsName, hPlainName⟩
  · rcases part_cases a.password with
      ⟨word, hWord, hIsWord, hPlainWord, hNoWord⟩ |
      ⟨⟨g, hWord⟩, hIsWord, hPlainWord⟩
    · simp only [hasLogin, hName, hIsName, hPlainName, hWord,
        hIsWord, hPlainWord, Except.ok.injEq, reduceCtorEq,
        exists_false, false_and, or_false, Bool.true_and,
        Bool.and_true, Bool.or_eq_true, Bool.not_eq_true',
        List.isEmpty_eq_false_iff, ne_eq, hNoName, hNoWord]
      constructor
      · rintro ⟨rfl, rfl, hSome⟩
        exact ⟨hSome, rfl, rfl⟩
      · rintro ⟨hSome, rfl, rfl⟩
        exact ⟨rfl, rfl, hSome⟩
    · simp only [hasLogin, hName, hIsName, hPlainName, hWord,
        hIsWord, hPlainWord, Except.ok.injEq, reduceCtorEq,
        Except.error.injEq, exists_eq', true_and, false_or,
        Bool.true_and, Bool.and_false, Bool.or_false,
        Bool.not_eq_true', List.isEmpty_eq_false_iff, ne_eq,
        hNoName]
      constructor
      · rintro ⟨rfl, rfl, hSome⟩
        exact ⟨hSome.resolve_right (· rfl), rfl, rfl⟩
      · rintro ⟨hSome, rfl, rfl⟩
        exact ⟨rfl, rfl, .inl hSome⟩
  · simp [hasLogin, hName, hIsName]

/- The login of a URL is sent, and nothing else is. -/
theorem login?_eq_some_iff
    {u : Url}
    {h : String × String} :
    login? u = some h ↔
      ∃ user password, u.LogsIn user password ∧
        h = basicLogin user password := by
  cases hAuthority : u.authority with
  | none => simp [login?, Url.LogsIn, hAuthority]
  | some a =>
      have hLogin :
          login? u = some h ↔
            hasLogin a = true ∧
              basicLogin (plainPart a.user)
                (plainPart a.password) = h := by
        unfold login?
        rw [hAuthority]
        simp [Option.map_eq_some_iff, Option.filter_eq_some_iff,
          and_assoc, basicLogin, loginText]
      simp only [hLogin, logsIn_iff hAuthority]
      constructor
      · rintro ⟨hSome, rfl⟩
        exact ⟨_, _, ⟨hSome, rfl, rfl⟩, rfl⟩
      · rintro ⟨_, _, ⟨hSome, rfl, rfl⟩, rfl⟩
        exact ⟨hSome, rfl⟩

------------------------------------------------------------
-- Headers
------------------------------------------------------------

/- The names of headers that do not tell who sends a request. -/
def plainHeaders : List String :=
  ["accept", "user-agent", "content-type"]

/- Whether a header tells who sends a request. -/
def tellsSender (h : String × String) : Bool :=
  !plainHeaders.contains h.1

/- The headers of a request that tell who sends it. -/
def Request.credentials (q : Request) : List (String × String) :=
  q.headers.filter tellsSender

/-
  What tells who sends a request to a provider at a URL: a key
  and, if the URL has a login, the login.
-/
inductive Request.IsShownBy
    (q : Request)
    (u : Url)
    (name key : String) : Prop
  | key
      (hNone : ∀ user password, ¬u.LogsIn user password)
      (hShown : q.credentials = [(name, key)])
  | keyAndLogin
      (user password : String)
      (hLogin : u.LogsIn user password)
      (hShown :
        q.credentials = [(name, key), basicLogin user password])

/- Only the authority of a URL decides about the login. -/
theorem login?_congr
    {u v : Url}
    (hSame : u.authority = v.authority) :
    login? u = login? v := by
  unfold login?
  rw [hSame]

/- The headers that tell who sends are a key and a login. -/
theorem Client.filter_headers
    {c : Client}
    (hName : c.keyName ∉ plainHeaders)
    (action : Action)
    (path : String) :
    (c.headers action path).filter tellsSender =
      (c.keyName, c.key) :: (c.login? path).toList := by
  have hKey : tellsSender (c.keyName, c.key) = true := by
    simpa [tellsSender] using hName
  have hLogin :
      (c.login? path).toList.filter tellsSender =
        (c.login? path).toList := by
    rw [List.filter_eq_self]
    intro h hMem
    rw [Option.mem_toList, Client.login?] at hMem
    split at hMem
    · cases hMem
    · rcases login?_eq_some_iff.mp hMem with ⟨_, _, -, rfl⟩
      rfl
  have hAccept : tellsSender ("accept", action.accept) = false :=
    rfl
  have hAgent : tellsSender ("user-agent", c.userAgent) = false :=
    rfl
  have hBody :
      tellsSender ("content-type", "application/json") = false :=
    rfl
  unfold headers
  rw [List.filter_append, List.filter_append, hLogin]
  simp only [List.filter_cons, hAccept, hKey, hAgent]
  cases action <;> simp [hBody]

/- The root of a provider has the login of all its requests. -/
theorem Client.exists_root
    {c : Client}
    {e v : Url}
    {path : String}
    (hEndpoint : Url.parse c.endpoint = .ok e)
    (hParse : Url.parse (c.url path) = .ok v)
    (hKind : Url.Scheme.kind v.scheme = .special) :
    ∃ b, Url.parse (c.url "") = .ok b ∧
      Provider.login? b = Provider.login? v := by
  unfold Url.parse at hEndpoint hParse ⊢
  rw [c.toList_url_eq] at hParse ⊢
  rcases Url.authority_of_ofChars hEndpoint hParse hKind with
    ⟨b, hBase, hSame⟩
  exact ⟨b, hBase, login?_congr hSame⟩

/- A request shows the key of a client and the login of its URL. -/
theorem Client.isShownBy_of_request
    {c : Client}
    {e : Url}
    {call : Call}
    {q : Request}
    {url : String}
    (hEndpoint : Url.parse c.endpoint = .ok e)
    (hName : c.keyName ∉ plainHeaders)
    (hRequest : c.request call = .ok (q, url)) :
    ∃ b, Url.parse (c.url "") = .ok b ∧
      q.IsShownBy b c.keyName c.key := by
  rcases Client.request_eq_ok_iff.mp hRequest with
    ⟨u, hTarget, rfl, -⟩
  rcases Client.target_eq_ok_iff.mp hTarget with
    ⟨v, hParse, rfl, hSendable⟩
  have hKind := (special_of_isSendable hSendable).1
  rw [(connectUrl_fields v).1] at hKind
  rcases c.exists_root hEndpoint hParse hKind with
    ⟨b, hRoot, hLogin⟩
  have hShown :
      Request.credentials
          ⟨call.action.method, (connectUrl v).withoutFragment.render,
            c.headers call.action call.path, call.action.body?⟩ =
        (c.keyName, c.key) :: (Provider.login? b).toList := by
    have hOwn : c.login? call.path = Provider.login? b := by
      rw [Client.login?, hParse, hLogin]
    rw [Request.credentials, filter_headers hName, hOwn]
  refine ⟨b, hRoot, ?_⟩
  cases hOwn : Provider.login? b with
  | none =>
      rw [hOwn] at hShown
      refine .key ?_ hShown
      intro user password hLogsIn
      have hSome := login?_eq_some_iff.mpr
        ⟨user, password, hLogsIn, rfl⟩
      rw [hOwn] at hSome
      cases hSome
  | some h =>
      rcases login?_eq_some_iff.mp hOwn with
        ⟨user, password, hLogsIn, rfl⟩
      rw [hOwn] at hShown
      exact .keyAndLogin user password hLogsIn hShown

end Provider

end LightningGateway
