import ZubotIngestion.Python.CodePoints
import ZubotIngestion.Python.Integers

/-!
# The URLs of the Redis databases

`_build_redis_url` of `services/celery_app.py` gives the broker and the result backend their
databases, `build_storage_uri` of `api/middleware/rate_limit.py` gives the rate limiter its own.
Both start from `REDIS_URL`, and only the second one expects that it names a database already.

## Main definitions

* `buildRedisUrl`, `buildStorageUri`.
* `RedisServer`, `RedisUrl`: what `REDIS_URL` is made of.
* `UrlsAgree`: the URLs name databases of one server.

## Main results

* `RedisServer.urlOf_injective`: a URL names one database of one server.
* `buildStorageUri_text`: the rate limiter uses the server of `REDIS_URL`.
* `urlsAgree_iff`: when the broker uses the same server.
-/

namespace ZubotIngestion

/-! ### The two builders -/

/-- `_build_redis_url`. -/
def buildRedisUrl (base : PyStr) (db : ℤ) : Except PyException PyStr :=
  (strOfInt db).map fun number => base.rstrip (.of '/') ++ .of "/" ++ .of number

section Storage

variable (otherDigit : CodePoint → Bool)

/-- Strip an existing trailing segment of digits. -/
def stripDatabase (base : PyStr) : PyStr :=
  let lastSlash := base.rfind (.of '/')
  -- the slashes behind the scheme do not count
  if base.find (.of "//") + 1 < lastSlash then
    let tail : PyStr := base.drop (lastSlash + 1).toNat
    if tail.isDigit otherDigit then base.take lastSlash.toNat else base
  else base

/-- `RATE_LIMIT_REDIS_DB`. -/
def rateLimitRedisDb : ℤ := 4

/-- `build_storage_uri`. -/
def buildStorageUri (redisUrl : PyStr) (db : ℤ := rateLimitRedisDb) : Except PyException PyStr :=
  (strOfInt db).map fun number =>
    stripDatabase otherDigit (redisUrl.rstrip (.of '/')) ++ .of "/" ++ .of number

end Storage

/-! ### What a URL is made of -/

/-- `scheme://authority`. -/
structure RedisServer where
  scheme : PyStr
  authority : PyStr
  slash_notMem_scheme : .of '/' ∉ scheme
  slash_notMem_authority : .of '/' ∉ authority

namespace RedisServer

variable (server : RedisServer)

/-- The server without a database. -/
def origin : PyStr := server.scheme ++ .of "://" ++ server.authority

/-- The URL of a database. -/
def urlOf (db : ℤ) : Except PyException PyStr :=
  (strOfInt db).map fun number => server.origin ++ .of "/" ++ .of number

theorem count_slash_origin : server.origin.count (.of '/') = 2 := by
  rw [origin, List.count_append, List.count_append,
    List.count_eq_zero_of_not_mem server.slash_notMem_scheme,
    List.count_eq_zero_of_not_mem server.slash_notMem_authority]
  decide

theorem slash_notMem_schemePart : .of '/' ∉ server.scheme ++ PyStr.of ":" := by
  rw [List.mem_append, not_or]
  exact ⟨server.slash_notMem_scheme, by decide⟩

/-- The first two slashes are those behind the scheme. -/
theorem find_origin_append (rest : PyStr) :
    PyStr.find (server.origin ++ rest) (.of "//") = server.scheme.length + 1 := by
  have hsplit : server.origin ++ rest =
      server.scheme ++ PyStr.of ":" ++ (PyStr.of "//" ++ (server.authority ++ rest)) := by
    simp only [origin, PyStr.of, List.append_assoc]
    rfl
  have hfind : Text.findSub? (PyStr.of "//") (server.origin ++ rest) =
      some (server.scheme.length + 1) := by
    rw [hsplit]
    exact (Text.findSub?_append server.slash_notMem_schemePart (PyStr.of "/") _).trans
      (congrArg some List.length_append)
  rw [PyStr.find, hfind]
  rfl

theorem rfind_origin : PyStr.rfind (.of '/') server.origin = server.scheme.length + 2 := by
  have hsplit : server.origin =
      server.scheme ++ .of ":/" ++ CodePoint.of '/' :: server.authority := by
    simp only [origin, PyStr.of, List.append_assoc]
    rfl
  rw [PyStr.rfind, hsplit, PyStr.rfind?_append_cons server.slash_notMem_authority,
    List.length_append]
  rfl

/-- A URL is that of one database of one server. -/
theorem urlOf_injective {server server' : RedisServer} {db db' : ℤ} {url : PyStr}
    (h : server.urlOf db = .ok url) (h' : server'.urlOf db' = .ok url) :
    server = server' ∧ db = db' := by
  have hcut {server : RedisServer} {db : ℤ} (h : server.urlOf db = .ok url) :
      Text.digitCount 10 db.natAbs ≤ maxStrDigits ∧
        url = server.scheme ++ PyStr.of ":" ++ CodePoint.of '/' :: CodePoint.of '/' ::
          (server.authority ++ CodePoint.of '/' :: PyStr.of (toString db)) := by
    rw [urlOf, strOfInt] at h
    split_ifs at h with hdigits
    · obtain rfl := Except.ok.inj h
      refine ⟨hdigits, ?_⟩
      simp only [origin, PyStr.of, List.append_assoc]
      rfl
    · cases h
  obtain ⟨hdigits, hurl⟩ := hcut h
  obtain ⟨hdigits', hurl'⟩ := hcut h'
  have hboth := hurl.symm.trans hurl'
  rw [Text.append_cons_inj_of_notMem_left server.slash_notMem_schemePart
      server'.slash_notMem_schemePart,
    List.append_left_inj, List.cons_inj_right,
    Text.append_cons_inj_of_notMem_left server.slash_notMem_authority
      server'.slash_notMem_authority] at hboth
  obtain ⟨hscheme, hauthority, hnumber⟩ := hboth
  have hdb : toString db = toString db' :=
    String.toList_inj.mp (List.map_injective_iff.mpr CodePoint.of_injective hnumber)
  have hread := @intOfStr_toString (fun _ => none) db hdigits
  rw [hdb, @intOfStr_toString (fun _ => none) db' hdigits'] at hread
  refine ⟨?_, (Except.ok.inj hread).symm⟩
  cases server
  cases server'
  congr

end RedisServer

/-- `scheme://authority` with an optional segment of digits and any number of slashes. -/
structure RedisUrl (otherDigit : CodePoint → Bool) extends RedisServer where
  database : Option PyStr
  isDigit_database : ∀ digits ∈ database, digits.isDigit otherDigit
  slashes : ℕ

namespace RedisUrl

variable {otherDigit : CodePoint → Bool} (url : RedisUrl otherDigit)

/-- The segment of the database. -/
def segment : PyStr := url.database.elim [] (CodePoint.of '/' :: ·)

/-- `REDIS_URL`. -/
def text : PyStr := url.origin ++ url.segment ++ List.replicate url.slashes (.of '/')

/-- Digits are no slash. -/
theorem slash_notMem_of_isDigit {digits : PyStr} (h : digits.isDigit otherDigit = true) :
    .of '/' ∉ digits := by
  intro hslash
  rw [PyStr.isDigit, Bool.and_eq_true, List.all_eq_true] at h
  exact Bool.false_ne_true (h.2 _ hslash)

theorem ne_nil_of_isDigit {digits : PyStr} (h : digits.isDigit otherDigit = true) :
    digits ≠ [] := by
  rintro rfl
  exact Bool.false_ne_true h

theorem rstrip_text (h : url.database.isSome ∨ url.authority ≠ []) :
    PyStr.rstrip (.of '/') url.text = url.origin ++ url.segment := by
  refine PyStr.rstrip_append_replicate ?_ url.slashes
  cases hdatabase : url.database with
  | none =>
    have hauthority : url.authority ≠ [] := h.resolve_left (by rw [hdatabase]; exact nofun)
    rw [segment, hdatabase, Option.elim_none, List.append_nil]
    exact Text.notMem_getLast?_append hauthority url.slash_notMem_authority _
  | some digits =>
    have hdigits := url.isDigit_database digits hdatabase
    rw [segment, hdatabase, Option.elim_some, List.append_cons]
    exact Text.notMem_getLast?_append (ne_nil_of_isDigit hdigits)
      (slash_notMem_of_isDigit hdigits) _

/-- Without an authority and without a database, the slashes behind the scheme are lost. -/
theorem rstrip_text_of_empty (hdatabase : url.database = none) (hauthority : url.authority = []) :
    PyStr.rstrip (.of '/') url.text = url.scheme ++ .of ":" := by
  have htext : url.text = url.scheme ++ PyStr.of ":" ++
      List.replicate (url.slashes + 2) (CodePoint.of '/') := by
    rw [text, segment, hdatabase, RedisServer.origin, hauthority, List.append_nil,
      Option.elim_none, List.append_nil, List.append_assoc, List.append_assoc,
      List.replicate_succ, List.replicate_succ]
    rfl
  rw [htext]
  exact PyStr.rstrip_append_replicate
    (Text.notMem_getLast?_append (by decide) (by decide) url.scheme) _

/-- A database is stripped, and nothing else is. -/
theorem stripDatabase_origin_append :
    stripDatabase otherDigit (url.origin ++ url.segment) = url.origin := by
  have hfind := url.find_origin_append url.segment
  cases hdatabase : url.database with
  | none =>
    have hsegment : url.segment = [] := by rw [segment, hdatabase, Option.elim_none]
    rw [hsegment, List.append_nil] at hfind ⊢
    rw [stripDatabase, hfind, url.rfind_origin]
    exact if_neg (by omega)
  | some digits =>
    have hsegment : url.segment = CodePoint.of '/' :: digits := by
      rw [segment, hdatabase, Option.elim_some]
    have hdigits := url.isDigit_database digits hdatabase
    have hrfind : PyStr.rfind (.of '/') (url.origin ++ url.segment) = url.origin.length := by
      rw [PyStr.rfind, hsegment, PyStr.rfind?_append_cons (slash_notMem_of_isDigit hdigits)]
      rfl
    have hlength : url.origin.length = url.scheme.length + 3 + url.authority.length := by
      rw [RedisServer.origin, List.length_append, List.length_append]
      rfl
    have htail : (url.origin ++ url.segment).drop (url.origin.length + 1) = digits := by
      rw [hsegment, List.drop_length_add_append]
      rfl
    rw [stripDatabase, hfind, hrfind]
    dsimp only
    rw [if_pos (by omega), Int.toNat_natCast_add_one, htail, if_pos hdigits, Int.toNat_natCast,
      List.take_left]

/-- The rate limiter uses the server of `REDIS_URL`, with or without a database. -/
theorem buildStorageUri_text (h : url.database.isSome ∨ url.authority ≠ []) (db : ℤ) :
    buildStorageUri otherDigit url.text db = url.urlOf db := by
  rw [buildStorageUri, rstrip_text url h, stripDatabase_origin_append, RedisServer.urlOf]

/-- The two URLs name the databases `db` and `db'` of one server. -/
def UrlsAgree (db db' : ℤ) : Prop :=
  ∃ server : RedisServer, buildRedisUrl url.text db = server.urlOf db ∧
    buildStorageUri otherDigit url.text db' = server.urlOf db'

/-- What the URLs are built from has the slashes of a server. -/
theorem UrlsAgree.count_slash {url : RedisUrl otherDigit} {db db' : ℤ} (h : url.UrlsAgree db db')
    {number : String} (hdb : strOfInt db = .ok number) :
    (PyStr.rstrip (.of '/') url.text).count (.of '/') = 2 := by
  obtain ⟨server, hbroker, -⟩ := h
  rw [buildRedisUrl, RedisServer.urlOf, hdb] at hbroker
  have hsame := Except.ok.inj hbroker
  rw [List.append_left_inj, List.append_left_inj] at hsame
  rw [hsame, server.count_slash_origin]

end RedisUrl

/-- The URLs agree if and only if `REDIS_URL` names no database, and has an authority. -/
theorem urlsAgree_iff {otherDigit : CodePoint → Bool} (url : RedisUrl otherDigit) {db : ℤ}
    {number : String} (hdb : strOfInt db = .ok number) (db' : ℤ) :
    url.UrlsAgree db db' ↔ url.database = none ∧ url.authority ≠ [] := by
  constructor
  · intro h
    have hcount := h.count_slash hdb
    cases hdatabase : url.database with
    | none =>
      refine ⟨rfl, fun hauthority => ?_⟩
      rw [url.rstrip_text_of_empty hdatabase hauthority,
        List.count_eq_zero_of_not_mem url.slash_notMem_schemePart] at hcount
      cases hcount
    | some digits =>
      -- the slash before the database is a third one
      rw [url.rstrip_text (Or.inl (by rw [hdatabase]; rfl)), RedisUrl.segment, hdatabase,
        Option.elim_some, List.count_append, url.count_slash_origin, List.count_cons_self] at hcount
      omega
  · rintro ⟨hdatabase, hauthority⟩
    have hbase := url.rstrip_text (Or.inr hauthority)
    refine ⟨url.toRedisServer, ?_, url.buildStorageUri_text (Or.inr hauthority) db'⟩
    rw [buildRedisUrl, RedisServer.urlOf, hbase, RedisUrl.segment, hdatabase, Option.elim_none,
      List.append_nil]

/-- `redis://redis:6379`, with or without a database. -/
def redisUrl (database : Option PyStr)
    (h : ∀ digits ∈ database, digits.isDigit fun _ => false) : RedisUrl fun _ => false where
  scheme := .of "redis"
  authority := .of "redis:6379"
  slash_notMem_scheme := by decide
  slash_notMem_authority := by decide
  database := database
  isDigit_database := h
  slashes := 1

/-- The broker and the rate limiter with the default of `REDIS_URL` and a slash. -/
theorem urlsAgree_iff_default : (redisUrl none nofun).UrlsAgree 2 4 ↔
    (redisUrl none nofun).database = none ∧ (redisUrl none nofun).authority ≠ [] :=
  @urlsAgree_iff _ (redisUrl none nofun) 2 "2" rfl 4

/-- With `REDIS_URL=redis://redis:6379/0/` the broker is given `redis://redis:6379/0/2`. -/
theorem not_urlsAgree_database :
    ¬ (redisUrl (some (.of "0")) fun _ h => Option.some.inj h ▸ rfl).UrlsAgree 2 4 := by
  intro h
  have hprint : strOfInt 2 = .ok "2" := rfl
  exact absurd (h.count_slash hprint) (by decide)

end ZubotIngestion
