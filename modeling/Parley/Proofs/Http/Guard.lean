/-
Who may pass the guards.

A path is internal, of users, or open to everyone (`areaOf_services_iff`,
`areaOf_users_iff`). An internal request passes with the configured key
(`guardServices_iff`), one of users with a token of a user (`guardUser_iff`).
What does not pass is refused, and the server stays as it is
(`Server.serve_refused`). The credential of the other area does not count: the
request is served as it would be without it (`serve_without_authorization`,
`serve_without_key`).
-/
import Parley.Proofs.Dialogue
import Parley.Server

namespace Parley.Http

open Time (Instant)

/-! ## Areas -/

/-- A path is a root or lies below it. -/
def Under (root path : String) : Prop :=
  path.toList = root.toList ∨ ∃ rest, path.toList = root.toList ++ '/' :: rest

theorem below?_isSome_iff {root path : String} : (below? root path).isSome ↔ Under root path := by
  unfold below? Under
  by_cases hprefix : root.toList <+: path.toList
  · obtain ⟨rest, hrest⟩ := hprefix
    have hdrop : path.toList.drop root.length = rest := by
      rw [← hrest, ← String.length_toList, List.drop_left]
    have hpre : root.toList.isPrefixOf path.toList = true :=
      List.isPrefixOf_iff_prefix.mpr ⟨rest, hrest⟩
    rw [if_pos hpre, hdrop, ← hrest]
    rcases rest with _ | ⟨c, rest⟩
    · simp
    · by_cases hc : c = '/'
      · subst hc
        simp
      · simp [hc]
  · have hpre : root.toList.isPrefixOf path.toList = false := by
      rw [Bool.eq_false_iff]
      exact fun h => hprefix (List.isPrefixOf_iff_prefix.mp h)
    rw [hpre]
    simp only [Bool.false_eq_true, if_false, Option.isSome_none, false_iff]
    rintro (h | ⟨rest, h⟩)
    · exact hprefix (h ▸ List.prefix_refl _)
    · exact hprefix ⟨_, h.symm⟩

/-- The root of internal requests. -/
def servicesRoot : String := "/message/v1/internal"

/-- The root of the requests of users, and of internal ones. -/
def usersRoot : String := "/message/v1"

theorem areaOf_services_iff {path : String} : (areaOf path).1 = .services ↔ Under servicesRoot path := by
  rw [← below?_isSome_iff]
  unfold areaOf servicesRoot
  split
  · next h => simp [h]
  · next h => split <;> simp [h]

theorem areaOf_users_iff {path : String} :
    (areaOf path).1 = .users ↔ Under usersRoot path ∧ ¬ Under servicesRoot path := by
  rw [← below?_isSome_iff, ← below?_isSome_iff]
  unfold areaOf usersRoot servicesRoot
  split
  · next h => simp [h]
  · next h => split <;> next h' => simp [h, h']

/-! ## Credentials -/

/-- The first header of a name is a text. -/
def Headers.Reads (headers : Headers) (name value : String) : Prop :=
  headers.raw? name = some value ∧ value.toList.all isVisible

theorem Headers.text?_eq_some_iff {headers : Headers} {name value : String} :
    headers.text? name = some value ↔ headers.Reads name value := by
  unfold text? Reads
  cases headers.raw? name with
  | none => simp
  | some v =>
    by_cases hv : v.toList.all isVisible
    · simp only [hv, if_true, Option.some.injEq]
      exact ⟨fun h => ⟨h, h ▸ hv⟩, fun h => h.1⟩
    · simp only [hv, Bool.false_eq_true, if_false, Option.some.injEq]
      exact ⟨nofun, fun h => (hv (h.1 ▸ h.2)).elim⟩

/-- The request has the key for internal requests: one is configured that is not
empty, and the first header for it is that key. -/
def Keyed (c : Configuration) (r : Request) : Prop :=
  ∃ key, c.internalKey = some key ∧ key ≠ "" ∧ r.headers.Reads "x-internal-api-key" key

/-- The first authorization header is `Bearer` and, without blanks around it, a token. -/
def Headers.Carries (headers : Headers) (token : String) : Prop :=
  ∃ value rest, headers.Reads "authorization" value ∧ value.toList = "Bearer ".toList ++ rest ∧
    Text.trim rest = token.toList ∧ token ≠ ""

/-- The request has a token of a user. -/
def Bears (c : Configuration) (now : Instant) (r : Request) (user : UserId) : Prop :=
  ∃ token, r.headers.Carries token ∧ AccessToken.verify? c.secret now.second token = some user

theorem guardServices_iff {c : Configuration} {r : Request} : guardServices c r ↔ Keyed c r := by
  unfold guardServices Keyed Headers.internalKey
  cases c.internalKey with
  | none => simp
  | some key =>
    simp only [Option.some.injEq, Bool.and_eq_true, decide_eq_true_eq, exists_eq_left',
      ← Headers.text?_eq_some_iff]
    refine and_congr_right fun hkey => ?_
    cases r.headers.text? "x-internal-api-key" with
    | none => simpa using Ne.symm hkey
    | some value => simp

theorem Headers.bearer?_eq_some_iff {headers : Headers} {token : String} :
    headers.bearer? = some token ↔ headers.Carries token := by
  unfold bearer? Carries
  simp only [← text?_eq_some_iff]
  cases headers.text? "authorization" with
  | none => simp
  | some value =>
    simp only [Option.some.injEq]
    constructor
    · intro h
      split at h
      · next rest hvalue =>
        split at h
        · cases h
        · next hempty =>
          cases h
          refine ⟨value, rest, rfl, hvalue, by simp, ?_⟩
          simpa using hempty
      · cases h
    · rintro ⟨_, rest, rfl, hvalue, htrim, htoken⟩
      rw [hvalue]
      simp [htrim, htoken]

-- Of two authorizations the first counts, without the blanks around its token.
example : Headers.bearer? [("authorization", "Bearer  a "), ("authorization", "Bearer b")] = some "a" := by
  decide

theorem guardUser_iff {c : Configuration} {now : Instant} {r : Request} {user : UserId} :
    guardUser c now r = .ok user ↔ Bears c now r user := by
  unfold guardUser userOf Bears
  simp only [← Headers.bearer?_eq_some_iff, ← Option.bind_eq_some_iff]
  cases r.headers.bearer?.bind (AccessToken.verify? c.secret now.second) <;> simp

/-- A secret. -/
def sampleSecret : String := "test-secret-0123456789"

/-- A token of user 1 under the secret. -/
def sampleToken : String :=
  "eyJ0eXAiOiJKV1QiLCJhbGciOiJIUzI1NiJ9.eyJzdWIiOiIxIiwiaWF0IjowLCJleHAiOjMyNTAzNjgwMDAwfQ." ++
    "ajIsOHlJnS7dvDFRpwOcJzIhxRUwiLRSG82GNiR-6sc"

theorem bears_sampleToken {c : Configuration} {r : Request} (hc : c.secret = sampleSecret)
    (h : r.headers.text? "authorization" = some ("Bearer " ++ sampleToken)) : Bears c ⟨0, 0⟩ r 1 := by
  have hbearer : r.headers.bearer? = some sampleToken := by
    unfold Headers.bearer?
    rw [h]
    decide +kernel
  have hverified : AccessToken.verify? sampleSecret 0 sampleToken = some 1 := by decide +kernel
  exact ⟨sampleToken, Headers.bearer?_eq_some_iff.mp hbearer, hc ▸ hverified⟩

/-! ## Serving -/

variable {c : Configuration} {now : Instant} {fresh : String} {r : Request} {user : UserId}

/-- The answer to a request that may not pass. -/
def refusal (now : Instant) : Outcome := (Reply.failure now .unauthorized).respond none

theorem refusal_eq (now : Instant) : ∃ body, refusal now = .response ⟨401, body, none⟩ := ⟨_, rfl⟩

/-- The answer to a request that passed, with its id. -/
def passing (fresh : String) (r : Request) (x : Answering Reply) : Answering Outcome :=
  x.bind fun reply => .done (reply.respond (some (requestIdOf r fresh)))

/-- The answer of an endpoint, or of none. -/
def answerOf (e : Option Endpoint) (use : Endpoint → Answering Reply) : Answering Reply :=
  match e with
  | some e => use e
  | none => .done (.empty 404)

theorem serve_keyed (harea : (areaOf r.path).1 = .services) (h : Keyed c r) : serve c now fresh r =
    passing fresh r (answerOf (endpoint? .services r.method (areaOf r.path).2) (·.forServices now r)) := by
  unfold serve
  simp only [harea, guardServices_iff.mpr h, if_true]
  cases endpoint? .services r.method (areaOf r.path).2 <;> rfl

theorem serve_bearing (harea : (areaOf r.path).1 = .users) (h : Bears c now r user) :
    serve c now fresh r = passing fresh r
      (answerOf (endpoint? .users r.method (areaOf r.path).2) (·.forUser c.message now user r)) := by
  unfold serve
  simp only [harea, guardUser_iff.mpr h]
  cases endpoint? .users r.method (areaOf r.path).2 <;> rfl

/-- A request that its guard does not let pass. -/
def Refused (c : Configuration) (now : Instant) (r : Request) : Prop :=
  (areaOf r.path).1 = .services ∧ ¬ Keyed c r ∨ (areaOf r.path).1 = .users ∧ ∀ user, ¬ Bears c now r user

theorem serve_refused (h : Refused c now r) : serve c now fresh r = .done (refusal now) := by
  unfold serve
  rcases h with ⟨harea, hkey⟩ | ⟨harea, htoken⟩
  · have hguard : guardServices c r = false := by
      rw [Bool.eq_false_iff]
      exact fun h => hkey (guardServices_iff.mp h)
    simp only [harea, hguard, Bool.false_eq_true, if_false]
    rfl
  · simp only [harea]
    cases hguard : guardUser c now r with
    | error f => rfl
    | ok user => exact (htoken user (guardUser_iff.mp hguard)).elim

/-- The area that an endpoint lies in. -/
def Endpoint.area : Endpoint → Area
  | .health | .socket => .everyone
  | .push | .stats => .services
  | _ => .users

theorem endpoint?_area {area : Area} {method : String} {rest : List Char} {e : Endpoint}
    (h : endpoint? area method rest = some e) : e.area = area := by
  unfold endpoint? at h
  split at h <;> try exact Option.some.inj h ▸ rfl
  · simp only at h
    split at h
    · split at h
      · cases h
      · exact Option.some.inj h ▸ rfl
    · cases h
  · cases h

/-- The endpoint of a request. -/
def Request.endpoint? (r : Request) : Option Endpoint :=
  Http.endpoint? (areaOf r.path).1 r.method (areaOf r.path).2

theorem Request.endpoint?_area {e : Endpoint} (h : r.endpoint? = some e) : (areaOf r.path).1 = e.area :=
  (Http.endpoint?_area h).symm

/-- What is done for a request that its guard lets pass, if it asks for no socket. -/
inductive Admitted (c : Configuration) (now : Instant) (r : Request) : Answering Reply → Prop
  | unknown (h : r.endpoint? = none) : Admitted c now r (.done (.empty 404))
  | everyone {e : Endpoint} (h : r.endpoint? = some e) (harea : (areaOf r.path).1 = .everyone)
    (hsocket : e ≠ .socket) : Admitted c now r e.forEveryone
  | services {e : Endpoint} (h : r.endpoint? = some e) (harea : (areaOf r.path).1 = .services)
    (hkey : Keyed c r) : Admitted c now r (e.forServices now r)
  | users {e : Endpoint} {user : UserId} (h : r.endpoint? = some e) (harea : (areaOf r.path).1 = .users)
    (htoken : Bears c now r user) : Admitted c now r (e.forUser c.message now user r)

theorem serve_admitted (c : Configuration) (now : Instant) (fresh : String) (r : Request)
    (h : ¬ Refused c now r) :
    (r.endpoint? = some .socket ∧ serve c now fresh r = openSocket c now (requestIdOf r fresh) r) ∨
      ∃ x, Admitted c now r x ∧ serve c now fresh r = passing fresh r x := by
  cases harea : (areaOf r.path).1 with
  | services =>
    have hkey : Keyed c r := Classical.byContradiction fun hkey => h (.inl ⟨harea, hkey⟩)
    rw [serve_keyed harea hkey]
    cases hendpoint : endpoint? .services r.method (areaOf r.path).2 with
    | none => exact .inr ⟨_, .unknown (by rw [Request.endpoint?, harea, hendpoint]), rfl⟩
    | some e => exact .inr ⟨_, .services (by rw [Request.endpoint?, harea, hendpoint]) harea hkey, rfl⟩
  | users =>
    obtain ⟨user, htoken⟩ : ∃ user, Bears c now r user :=
      Classical.byContradiction fun hnone => h (.inr ⟨harea, fun user htoken => hnone ⟨user, htoken⟩⟩)
    rw [serve_bearing harea htoken]
    cases hendpoint : endpoint? .users r.method (areaOf r.path).2 with
    | none => exact .inr ⟨_, .unknown (by rw [Request.endpoint?, harea, hendpoint]), rfl⟩
    | some e => exact .inr ⟨_, .users (by rw [Request.endpoint?, harea, hendpoint]) harea htoken, rfl⟩
  | everyone =>
    cases hendpoint : endpoint? .everyone r.method (areaOf r.path).2 with
    | none =>
      refine .inr ⟨_, .unknown (by rw [Request.endpoint?, harea, hendpoint]), ?_⟩
      simp only [serve, harea, hendpoint]
      rfl
    | some e =>
      have he : r.endpoint? = some e := by rw [Request.endpoint?, harea, hendpoint]
      by_cases hsocket : e = .socket
      · subst hsocket
        refine .inl ⟨he, ?_⟩
        simp only [serve, harea, hendpoint]
      · refine .inr ⟨_, .everyone he harea hsocket, ?_⟩
        simp only [serve, harea, hendpoint]
        rfl

/-! ## Credentials that do not count -/

/-- The request without the headers of a name. -/
def Request.without (r : Request) (name : String) : Request :=
  { r with headers := r.headers.filter fun h => h.1 ≠ name }

theorem raw?_without {name other : String} (h : other ≠ name) :
    (r.without name).headers.raw? other = r.headers.raw? other := by
  unfold Headers.raw? Request.without
  rw [List.find?_filter]
  congr 2
  refine funext fun p => ?_
  by_cases hp : p.1 = other <;> simp [hp, h]

section

variable {name : String}

theorem text?_without {other : String} (h : other ≠ name) :
    (r.without name).headers.text? other = r.headers.text? other := by
  simp only [Headers.text?, raw?_without h]

theorem requestIdOf_without (h : "x-request-id" ≠ name) :
    requestIdOf (r.without name) fresh = requestIdOf r fresh := by
  simp only [requestIdOf, text?_without h]

/-- Whether a header tells how a body is read. -/
def IsContent (name : String) : Prop :=
  name = "content-type" ∨ name = "content-length" ∨ name = "content-encoding"

theorem readBody_without {α : Type} {form : Json.Form α} (h : ¬ IsContent name) :
    readBody form (r.without name) = readBody form r := by
  simp only [IsContent, not_or] at h
  obtain ⟨htype, hlength, hencoding⟩ := h
  simp only [readBody, declaredLength?, contents?, Coding.ofHeaders?, text?_without (Ne.symm htype),
    text?_without (Ne.symm hlength), text?_without (Ne.symm hencoding)]
  rfl

theorem forServices_without (h : ¬ IsContent name) (e : Endpoint) :
    e.forServices now (r.without name) = e.forServices now r := by
  cases e <;> simp only [Endpoint.forServices, withBody, readBody_without h]

theorem forUser_without {settings : MessageSettings} (h : ¬ IsContent name) (e : Endpoint) :
    e.forUser settings now user (r.without name) = e.forUser settings now user r := by
  cases e <;> simp only [Endpoint.forUser, withBody, readBody_without h] <;> rfl

end

theorem reads_without {name other value : String} (h : other ≠ name) :
    (r.without name).headers.Reads other value ↔ r.headers.Reads other value := by
  unfold Headers.Reads
  rw [raw?_without h]

theorem keyed_without {name : String} (h : "x-internal-api-key" ≠ name) :
    Keyed c (r.without name) ↔ Keyed c r := by
  simp only [Keyed, reads_without h]

theorem bears_without {name : String} (h : "authorization" ≠ name) :
    Bears c now (r.without name) user ↔ Bears c now r user := by
  simp only [Bears, Headers.Carries, reads_without h]

theorem serve_without_authorization (h : (areaOf r.path).1 = .services) :
    serve c now fresh (r.without "authorization") = serve c now fresh r := by
  have hkeyed : Keyed c (r.without "authorization") ↔ Keyed c r := keyed_without (by decide)
  have harea : (areaOf (r.without "authorization").path).1 = .services := h
  by_cases hkey : Keyed c r
  · rw [serve_keyed h hkey, serve_keyed harea (hkeyed.mpr hkey)]
    unfold passing
    rw [requestIdOf_without (by decide)]
    simp only [forServices_without (show ¬ IsContent "authorization" by simp [IsContent])]
    rfl
  · rw [serve_refused (.inl ⟨h, hkey⟩), serve_refused (.inl ⟨harea, mt hkeyed.mp hkey⟩)]

theorem serve_without_key (h : (areaOf r.path).1 = .users) :
    serve c now fresh (r.without "x-internal-api-key") = serve c now fresh r := by
  have hbears : ∀ user, Bears c now (r.without "x-internal-api-key") user ↔ Bears c now r user :=
    fun _ => bears_without (by decide)
  have harea : (areaOf (r.without "x-internal-api-key").path).1 = .users := h
  by_cases htoken : ∃ user, Bears c now r user
  · obtain ⟨user, htoken⟩ := htoken
    rw [serve_bearing h htoken, serve_bearing harea ((hbears user).mpr htoken)]
    unfold passing
    rw [requestIdOf_without (by decide)]
    simp only [forUser_without (show ¬ IsContent "x-internal-api-key" by simp [IsContent])]
    rfl
  · have hnone : ∀ user, ¬ Bears c now r user := fun user h => htoken ⟨user, h⟩
    have hnone' : ∀ user, ¬ Bears c now (r.without "x-internal-api-key") user :=
      fun user => mt (hbears user).mp (hnone user)
    rw [serve_refused (.inr ⟨h, hnone⟩), serve_refused (.inr ⟨harea, hnone'⟩)]

end Parley.Http

namespace Parley.Server

open Http (Refused refusal)

theorem serve_refused {B : Backend} {s : Server B}
    {fresh : String} {r : Http.Request} (h : Refused s.configuration s.now r) : s.serve fresh r = (refusal s.now, s) := by
  unfold Server.serve Server.run
  rw [Http.serve_refused h]
  rfl

end Parley.Server
