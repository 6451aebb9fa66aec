import ZubotIngestion.Infrastructure.OllamaRetry

/-!
# What the retry loop of the Ollama client promises

`_post_generate` promises how often it posts, when it returns and with which status it fails, and
that it counts each call once, as a success or as an error. The first promise breaks where the
length of a sleep is too large for a float, and where the body of the answer is nested too deeply
for the decoder. The second one also breaks with every body that is not parsed, since a call is
counted before.

## Main definitions

* `GeneratesAsStated`, `CountsOnce`: the two promises.
* `GenerateRun.BackoffOverflows`, `GenerateRun.DecidedBy`: on what they depend.

## Main results

* `generatesAsStated_iff`, `countsOnce_iff`: when the client keeps them.
-/

namespace ZubotIngestion

open Effects

namespace GenerateRun

variable (run : GenerateRun)

/-- `max_attempts`, which counts as zero if it is negative. -/
def attempts : ℕ := run.client.maxAttempts.toNat

/-- The outcome of a post is the last one that is looked at. -/
def Final (k : ℕ) : Prop := ¬ (run.outcomes k).Retryable

/-- A sleep that comes due is too long for a float. -/
def BackoffOverflows : Prop :=
  ∃ k, k + 1 < run.attempts ∧ (∀ j ≤ k, (run.outcomes j).Retryable) ∧ run.Overflows k

/-- The call is decided by the response to its post numbered `i`. -/
def DecidedBy (i : ℕ) (r : HttpResponse) : Prop :=
  i < run.attempts ∧ IsFirst run.Final i ∧ run.outcomes i = .response r

end GenerateRun

/-- The promise about the posts of a call and about its end. -/
structure GeneratesAsStated (run : GenerateRun) : Prop where
  posts : IsAttemptCount run.attempts run.Final (generateCount run.calls)
  /-- The call returns if it is decided by an answer with a string `response`. -/
  returns : (∃ response, run.result = .ok response) ↔
    ∃ i r, run.DecidedBy i r ∧ r.statusCode = 200 ∧ HasResponse run.json r
  /-- Otherwise it raises an `OllamaError` with the status of the response that decides, or of the
  last attempt. -/
  raises : ∀ e, run.result = .error e → ∃ message code, e = .ollamaError message code ∧
    ((∃ i r, run.DecidedBy i r ∧ code = some r.statusCode) ∨
      (∀ k < run.attempts, (run.outcomes k).Retryable) ∧
        code = (run.outcomes (run.attempts - 1)).status?)
  retries : requestCount .retry run.calls + 1 = generateCount run.calls

/-- The promise about the counters of successes and of errors. -/
structure CountsOnce (run : GenerateRun) : Prop where
  once : requestCount .success run.calls + requestCount .error run.calls = 1
  success : requestCount .success run.calls = 1 ↔ ∃ response, run.result = .ok response
  raises : ∀ e, run.result = .error e → ∃ message code, e = .ollamaError message code

namespace GenerateRun

variable {run : GenerateRun}

/-! ### The end of a call -/

/-- How often the call posts, and by how much it increases each counter. -/
structure Counts (run : GenerateRun) (posts retries successes errors : ℕ) : Prop where
  posts : generateCount run.calls = posts
  retries : requestCount .retry run.calls = retries
  successes : requestCount .success run.calls = successes
  errors : requestCount .error run.calls = errors

/-- The ways in which a call can end, each with its counts. -/
inductive CallEnd (run : GenerateRun) : Prop
  | answered (i : ℕ) (r : HttpResponse) (hdecided : run.DecidedBy i r) (hok : r.statusCode = 200)
      (hpower : ¬ run.BackoffOverflows)
      (hresult : run.result = parseResponse run.json r run.model)
      (hcounts : run.Counts (i + 1) i 1 0)
  | refused (i : ℕ) (r : HttpResponse) (hdecided : run.DecidedBy i r) (hok : r.statusCode ≠ 200)
      (hpower : ¬ run.BackoffOverflows) (message : String)
      (hresult : run.result = .error (.ollamaError message (some r.statusCode)))
      (hcounts : run.Counts (i + 1) i 0 1)
  | exhausted (i : ℕ) (hlast : i + 1 = run.attempts)
      (hretryable : ∀ k < run.attempts, (run.outcomes k).Retryable)
      (hpower : ¬ run.BackoffOverflows) (message : String)
      (hresult : run.result = .error (.ollamaError message (run.outcomes i).status?))
      (hcounts : run.Counts (i + 1) i 0 1)
  | broke (i : ℕ) (hmore : i + 1 < run.attempts)
      (hretryable : ∀ k ≤ i, (run.outcomes k).Retryable) (hoverflows : run.Overflows i)
      (exc : PyException) (hresult : run.result = .error (.other exc))
      (hcounts : run.Counts (i + 1) (i + 1) 0 0)
  | none (hnone : run.attempts = 0) (message : String)
      (hresult : run.result = .error (.ollamaError message none)) (hcounts : run.Counts 0 0 0 1)

/-- A call that ends at its first final outcome, or with its last attempt, has not come to a sleep
that is too long. -/
theorem not_backoffOverflows {m : ℕ}
    (hbefore : ∀ k < m, (run.outcomes k).Retryable ∧ ¬ run.Overflows k)
    (h : run.Final m ∨ m + 1 = run.attempts) : ¬ run.BackoffOverflows := by
  rintro ⟨k, hk, hretryable, hoverflows⟩
  rcases Nat.lt_or_ge k m with hkm | hmk
  · exact (hbefore k hkm).2 hoverflows
  · rcases h with hfinal | hlast
    · exact hfinal (hretryable m hmk)
    · omega

theorem final_of_response {m : ℕ} {r : HttpResponse} (h : run.outcomes m = .response r)
    (hok : r.statusCode = 200) : run.Final m := by
  rw [Final, h]
  rintro (hbusy | hbusy) <;> omega

theorem counts_of_calls {m : ℕ} {tail : List OllamaOp} (h : run.calls = run.front m ++ tail)
    (htail : generateCount tail = 0) :
    run.Counts (m + 1) (m + requestCount .retry tail) (requestCount .success tail)
      (requestCount .error tail) := by
  constructor
  · rw [h, generateCount_front, htail]
  · rw [h, requestCount_front, if_pos rfl]
  · rw [h, requestCount_front, if_neg RequestStatus.noConfusion, Nat.zero_add]
  · rw [h, requestCount_front, if_neg RequestStatus.noConfusion, Nat.zero_add]

/-- Every call ends in one of these ways. -/
theorem callEnd (run : GenerateRun) : run.CallEnd := by
  rcases Nat.eq_zero_or_pos run.attempts with hzero | hpos
  · have hloop : run.loop.run (generateAnswer run.outcomes) 0 = (.ok (.again none), 0) ∧
        run.loop.trace (generateAnswer run.outcomes) 0 = [] := by
      have hn : run.client.maxAttempts.toNat = 0 := hzero
      rw [loop, hn]
      exact ⟨rfl, rfl⟩
    have hcalls : run.calls = [.count run.model .error] := by
      rw [calls_of_loop hloop.1, hloop.2]
      rfl
    refine .none hzero _ (result_of_loop hloop.1) ⟨?_, ?_, ?_, ?_⟩ <;> rw [hcalls] <;> rfl
  obtain ⟨m, hm, hbefore, tail, hexit, hcalls⟩ := run.exists_exit hpos
  generalize hr : run.result = result at hexit
  have hfirst : run.Final m → IsFirst run.Final m := fun hfinal =>
    ⟨hfinal, fun k hk => not_not.mpr (hbefore k hk).1⟩
  cases hexit with
  | answered r h hok =>
    have hfinal := final_of_response h hok
    exact .answered m r ⟨hm, hfirst hfinal, h⟩ hok
      (not_backoffOverflows hbefore (Or.inl hfinal)) hr (counts_of_calls hcalls rfl)
  | refused r h hfinal hok message =>
    exact .refused m r ⟨hm, hfirst hfinal, h⟩ hok
      (not_backoffOverflows hbefore (Or.inl hfinal)) message hr (counts_of_calls hcalls rfl)
  | exhausted hretryable hlast message =>
    refine .exhausted m hlast (fun k hk => ?_) (not_backoffOverflows hbefore (Or.inr hlast))
      message hr (counts_of_calls hcalls rfl)
    rcases Nat.lt_or_ge k m with hkm | hmk
    · exact (hbefore k hkm).1
    · obtain rfl : k = m := by
        rw [attempts] at hk
        omega
      exact hretryable
  | broke hretryable hmore hoverflows =>
    refine .broke m hmore (fun k hk => ?_) hoverflows _ hr (counts_of_calls hcalls rfl)
    rcases Nat.lt_or_eq_of_le hk with hkm | rfl
    · exact (hbefore k hkm).1
    · exact hretryable

theorem DecidedBy.unique {i j : ℕ} {r r' : HttpResponse} (h : run.DecidedBy i r)
    (h' : run.DecidedBy j r') : r = r' := by
  obtain rfl := h.2.1.unique h'.2.1
  exact GenerateOutcome.response.inj (h.2.2.symm.trans h'.2.2)

/-- What holds of every response that decides the call holds of the one there is. -/
theorem DecidedBy.forall_iff {i : ℕ} {r : HttpResponse} (h : run.DecidedBy i r)
    {P : HttpResponse → Prop} : (∀ j r', run.DecidedBy j r' → P r') ↔ P r :=
  ⟨fun hall => hall i r h, fun hr _ _ h' => h.unique h' ▸ hr⟩

theorem DecidedBy.exists_iff {i : ℕ} {r : HttpResponse} (h : run.DecidedBy i r)
    {P : HttpResponse → Prop} : (∃ j r', run.DecidedBy j r' ∧ P r') ↔ P r :=
  ⟨fun ⟨_, _, h', hr⟩ => h.unique h' ▸ hr, fun hr => ⟨i, r, h, hr⟩⟩

/-- A call whose attempts may all be retried is not decided. -/
theorem not_decidedBy (hretryable : ∀ k < run.attempts, (run.outcomes k).Retryable) (i : ℕ)
    (r : HttpResponse) : ¬ run.DecidedBy i r :=
  fun h => h.2.1.1 (hretryable i h.1)

theorem DecidedBy.isAttemptCount {i : ℕ} {r : HttpResponse} (h : run.DecidedBy i r) :
    IsAttemptCount run.attempts run.Final (i + 1) :=
  isAttemptCount_succ h.1 h.2.1.2 (Or.inl h.2.1.1)

theorem not_returns {e : OllamaException} (h : run.result = .error e) :
    ¬ ∃ response, run.result = .ok response := by
  rintro ⟨response, hresponse⟩
  cases hresponse.symm.trans h

/-- The first promise is kept by a call that raises an `OllamaError` with the status it should
have. -/
theorem generatesAsStated_of_error {message : String} {code : Option ℕ}
    (hresult : run.result = .error (.ollamaError message code))
    (hposts : IsAttemptCount run.attempts run.Final (generateCount run.calls))
    (hresponse : ¬ ∃ i r, run.DecidedBy i r ∧ r.statusCode = 200 ∧ HasResponse run.json r)
    (hcode : (∃ i r, run.DecidedBy i r ∧ code = some r.statusCode) ∨
      (∀ k < run.attempts, (run.outcomes k).Retryable) ∧
        code = (run.outcomes (run.attempts - 1)).status?)
    (hretries : requestCount .retry run.calls + 1 = generateCount run.calls) :
    GeneratesAsStated run := by
  refine ⟨hposts, iff_of_false (not_returns hresult) hresponse, fun e he => ?_, hretries⟩
  obtain rfl := Except.error.inj (he.symm.trans hresult)
  exact ⟨message, code, rfl, hcode⟩

/-- A call that is counted as an error keeps the second promise if it raises an `OllamaError`. -/
theorem countsOnce_of_error {posts retries : ℕ} {message : String} {code : Option ℕ}
    (hresult : run.result = .error (.ollamaError message code))
    (hcounts : run.Counts posts retries 0 1) : CountsOnce run := by
  refine ⟨?_, ?_, fun e he => ⟨message, code, Except.error.inj (he.symm.trans hresult)⟩⟩
  · rw [hcounts.successes, hcounts.errors]
  · rw [hcounts.successes]
    exact iff_of_false Nat.zero_ne_one (not_returns hresult)

/-- A call that is counted as a success keeps it if it returns. -/
theorem countsOnce_iff_returns {posts retries : ℕ} (hcounts : run.Counts posts retries 1 0) :
    CountsOnce run ↔ ∃ response, run.result = .ok response := by
  refine ⟨fun h => h.success.mp hcounts.successes, fun h => ⟨?_, ?_, fun e he => ?_⟩⟩
  · rw [hcounts.successes, hcounts.errors]
  · exact iff_of_true hcounts.successes h
  · exact absurd h (not_returns he)

/-- An answer that is nested too deeply breaks the first promise. -/
theorem not_generatesAsStated_of_nested {i : ℕ} {r : HttpResponse} (hdecided : run.DecidedBy i r)
    (hok : r.statusCode = 200) (hdeep : NestedTooDeeply run.json r) : ¬ GeneratesAsStated run := by
  have hescapes {exc : PyException} (hresult : run.result = .error (.other exc)) :
      ¬ GeneratesAsStated run := by
    intro h
    obtain ⟨message, code, he, -⟩ := h.raises _ hresult
    cases he
  cases run.callEnd with
  | answered j r' hdecided' hok' hpower hresult hcounts =>
    obtain rfl := hdecided.unique hdecided'
    rcases parseResponse_cases run.json r run.model with
      ⟨-, hresponse, -⟩ | ⟨-, -, hnot⟩ | ⟨⟨exc, hparse⟩, -⟩
    · exact absurd hdeep hresponse.not_nestedTooDeeply
    · exact absurd hdeep hnot
    · exact hescapes (hresult.trans hparse)
  | refused j r' hdecided' hok' hpower message hresult hcounts =>
    exact absurd (hdecided.unique hdecided' ▸ hok) hok'
  | exhausted j hlast hretryable hpower message hresult hcounts =>
    exact absurd hdecided (not_decidedBy hretryable i r)
  | broke j hmore hretryable hoverflows exc hresult hcounts => exact hescapes hresult
  | none hnone message hresult hcounts =>
    exact absurd (hnone ▸ hdecided.1) (Nat.not_lt_zero i)

end GenerateRun

/-! ### The promises -/

open GenerateRun in
/-- With finite counters, the first promise is kept if and only if no sleep is too long and the
answer that decides is not nested too deeply. -/
theorem generatesAsStated_iff (run : GenerateRun) (hn : 1 ≤ run.client.maxAttempts)
    (hfinite : ∀ k r, run.outcomes k = .response r → CountersFinite run.json r) :
    GeneratesAsStated run ↔ ¬ run.BackoffOverflows ∧
      ∀ i r, run.DecidedBy i r → r.statusCode = 200 → ¬ NestedTooDeeply run.json r := by
  cases run.callEnd with
  | answered i r hdecided hok hpower hresult hcounts =>
    have hposts : IsAttemptCount run.attempts run.Final (generateCount run.calls) :=
      hcounts.posts ▸ hdecided.isAttemptCount
    have hretries : requestCount .retry run.calls + 1 = generateCount run.calls := by
      rw [hcounts.retries, hcounts.posts]
    have hreturns : (∃ j r', run.DecidedBy j r' ∧ r'.statusCode = 200 ∧ HasResponse run.json r') ↔
        HasResponse run.json r := hdecided.exists_iff.trans (and_iff_right hok)
    rw [hdecided.forall_iff, imp_iff_right hok, and_iff_right hpower]
    rcases parseResponse_cases run.json r run.model with
      ⟨⟨response, hparse⟩, hresponse, -⟩ | ⟨⟨message, hparse⟩, hresponse, hnot⟩ |
        ⟨⟨exc, hparse⟩, hexc⟩
    · have hok' : run.result = .ok response := hresult.trans hparse
      refine iff_of_true ⟨hposts, ?_, fun e he => ?_, hretries⟩ hresponse.not_nestedTooDeeply
      · exact iff_of_true ⟨response, hok'⟩ (hreturns.mpr hresponse)
      · cases he.symm.trans hok'
    · exact iff_of_true (generatesAsStated_of_error (hresult.trans hparse) hposts
        (mt hreturns.mp hresponse) (Or.inl ⟨i, r, hdecided, rfl⟩) hretries) hnot
    · have hdeep : NestedTooDeeply run.json r :=
        hexc.resolve_right fun h => h.2 (hfinite i r hdecided.2.2)
      exact iff_of_false (not_generatesAsStated_of_nested hdecided hok hdeep) (not_not.mpr hdeep)
  | refused i r hdecided hok hpower message hresult hcounts =>
    rw [hdecided.forall_iff]
    refine iff_of_true (generatesAsStated_of_error hresult (hcounts.posts ▸ hdecided.isAttemptCount)
      ?_ (Or.inl ⟨i, r, hdecided, rfl⟩) ?_) ⟨hpower, fun hok' => absurd hok' hok⟩
    · rw [hdecided.exists_iff]
      exact fun h => hok h.1
    · rw [hcounts.retries, hcounts.posts]
  | exhausted i hlast hretryable hpower message hresult hcounts =>
    have hnot := not_decidedBy hretryable
    refine iff_of_true (generatesAsStated_of_error hresult ?_ (fun ⟨j, r', h', _⟩ => hnot j r' h')
      (Or.inr ⟨hretryable, ?_⟩) ?_) ⟨hpower, fun j r' h' _ => absurd h' (hnot j r')⟩
    · rw [hcounts.posts]
      exact isAttemptCount_succ (by omega) (fun k hk => not_not.mpr (hretryable k (by omega)))
        (Or.inr hlast)
    · rw [← hlast, Nat.add_sub_cancel]
    · rw [hcounts.retries, hcounts.posts]
  | broke i hmore hretryable hoverflows exc hresult hcounts =>
    refine iff_of_false (fun h => ?_) fun h => h.1 ⟨i, hmore, hretryable, hoverflows⟩
    have hposts := h.posts
    rw [hcounts.posts] at hposts
    exact not_isAttemptCount_succ hmore (fun k hk => not_not.mpr (hretryable k hk)) hposts
  | none hnone message hresult hcounts =>
    have hn' : run.client.maxAttempts.toNat = 0 := hnone
    omega

/-- A request of a client with the default backoff. -/
def plainRun (maxAttempts : ℤ) (json : Bytes → Except DecodeException JsonValue)
    (outcomes : ℕ → GenerateOutcome) : GenerateRun where
  json := json
  client := ⟨"http://ollama:11434", maxAttempts, 1, .fin 2⟩
  payload := generateText {} (.of "A-101") (.of "Which drawing is this?")
  model := "qwen2.5:7b"
  outcomes := outcomes

/-- The server is busy once, and then answers with `hi`. -/
theorem generatesAsStated_iff_busyOnce :
    let run := plainRun 3 (fun _ => .ok (.dict [(.of "response", .str (.of "hi"))])) fun k =>
      .response ⟨if k = 0 then 503 else 200, (String.toUTF8 "\x7b\"response\":\"hi\"\x7d").toList⟩
    GeneratesAsStated run ↔ ¬ run.BackoffOverflows ∧
      ∀ i r, run.DecidedBy i r → r.statusCode = 200 → ¬ NestedTooDeeply run.json r := by
  refine generatesAsStated_iff (plainRun 3 _ _) (by decide) fun k r hr body hbody key hkey => ?_
  obtain rfl := JsonValue.dict.inj (Except.ok.inj hbody)
  simp only [counterKeys, List.mem_cons, List.not_mem_nil, or_false] at hkey
  rcases hkey with rfl | rfl | rfl <;> exact id

/-- The decoder on ASCII texts that are made of opening brackets. -/
def bracketJson (content : Bytes) : Except DecodeException JsonValue :=
  (nestingLibrary 1000).loads (content.map fun byte => .of (Char.ofNat byte.toNat))

/-- `b"[" * 100000`. -/
def nestedContent : Bytes := List.replicate 100000 91

theorem nestedTooDeeply_nestedContent :
    NestedTooDeeply bracketJson ⟨200, nestedContent⟩ := by
  have htext :
      nestedContent.map (fun byte => CodePoint.of (Char.ofNat byte.toNat)) = nestedText := by
    rw [nestedContent, List.map_replicate, nestedText]
    rfl
  have hloads : bracketJson nestedContent = .error .recursionError := by
    rw [bracketJson, htext, loads_nestedText]
  exact ⟨_, hloads, rfl⟩

/-- A server that answers with nested brackets: the decoder raises a `RecursionError`, and so does
the client. -/
theorem not_forall_generatesAsStated :
    ¬ ∀ run : GenerateRun, 1 ≤ run.client.maxAttempts →
      (∀ k r, run.outcomes k = .response r → CountersFinite run.json r) →
        GeneratesAsStated run := by
  intro h
  have hfinal : (plainRun 1 bracketJson fun _ => .response ⟨200, nestedContent⟩).Final 0 :=
    GenerateRun.final_of_response rfl rfl
  have hdecided : (plainRun 1 bracketJson fun _ => .response ⟨200, nestedContent⟩).DecidedBy 0
      ⟨200, nestedContent⟩ :=
    ⟨Nat.zero_lt_one, ⟨hfinal, fun k hk => absurd hk (Nat.not_lt_zero k)⟩, rfl⟩
  refine GenerateRun.not_generatesAsStated_of_nested hdecided rfl nestedTooDeeply_nestedContent
    (h _ le_rfl fun k r hr body hbody => ?_)
  obtain rfl := GenerateOutcome.response.inj hr
  obtain ⟨exc, hexc, -⟩ := nestedTooDeeply_nestedContent
  cases hexc.symm.trans hbody

open GenerateRun in
/-- The second promise is kept if and only if no sleep is too long, and the answer that decides has
a body that is parsed. -/
theorem countsOnce_iff (run : GenerateRun) :
    CountsOnce run ↔ ¬ run.BackoffOverflows ∧
      ∀ i r, run.DecidedBy i r → r.statusCode = 200 →
        HasResponse run.json r ∧ CountersFinite run.json r := by
  cases run.callEnd with
  | answered i r hdecided hok hpower hresult hcounts =>
    rw [hdecided.forall_iff, imp_iff_right hok, and_iff_right hpower,
      countsOnce_iff_returns hcounts]
    rcases parseResponse_cases run.json r run.model with
      ⟨⟨response, hparse⟩, hbody⟩ | ⟨⟨message, hparse⟩, hresponse, -⟩ | ⟨⟨exc, hparse⟩, hexc⟩
    · exact iff_of_true ⟨response, hresult.trans hparse⟩ hbody
    · exact iff_of_false (not_returns (hresult.trans hparse)) fun h => hresponse h.1
    · refine iff_of_false (not_returns (hresult.trans hparse)) fun h => ?_
      rcases hexc with hdeep | ⟨-, hcounters⟩
      · exact h.1.not_nestedTooDeeply hdeep
      · exact hcounters h.2
  | refused i r hdecided hok hpower message hresult hcounts =>
    rw [hdecided.forall_iff]
    exact iff_of_true (countsOnce_of_error hresult hcounts) ⟨hpower, fun hok' => absurd hok' hok⟩
  | exhausted i hlast hretryable hpower message hresult hcounts =>
    exact iff_of_true (countsOnce_of_error hresult hcounts)
      ⟨hpower, fun j r' h' _ => absurd h' (not_decidedBy hretryable j r')⟩
  | broke i hmore hretryable hoverflows exc hresult hcounts =>
    refine iff_of_false (fun h => ?_) fun h => h.1 ⟨i, hmore, hretryable, hoverflows⟩
    obtain ⟨message, code, he⟩ := h.raises _ hresult
    cases he
  | none hnone message hresult hcounts =>
    refine iff_of_true (countsOnce_of_error hresult hcounts) ⟨?_, fun j r' h' _ => ?_⟩
    · rintro ⟨k, hk, -⟩
      omega
    · exact absurd (hnone ▸ h'.1) (Nat.not_lt_zero j)

/-- A server that answers with something else than JSON: the call is counted as a success, and
raises. -/
theorem not_countsOnce_plainText :
    ¬ CountsOnce (plainRun 3 (fun _ => .error (.jsonDecodeError "Expecting value")) fun _ =>
      .response ⟨200, (String.toUTF8 "not json").toList⟩) := by
  intro h
  exact GenerateRun.not_returns (e := .ollamaError "Ollama /api/generate returned non-JSON body"
    (some 200)) rfl (h.success.mp rfl)

end ZubotIngestion
