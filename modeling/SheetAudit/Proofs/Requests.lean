import SheetAudit.Web.Collection

/-!
# The requests of a fetch

To fetch a URL is to ask for it, and then for each place to which an answer redirects.  `ask` is
one such round: it ends the fetch or names the next place.  `requests` lists the URLs that are asked
for, and what comes of the fetch depends on the web only there.

## Key results

- `follow_eq`: following redirects is one round after the other
- `fetch_congr`: webs that answer the requests of a fetch alike make the same of it
- `requests_of_fetch`: an answer comes from the last URL asked for
- `level_of_mem_fetch`: a fetch warns of nothing
-/

namespace SheetAudit.Web

open SheetAudit.Console (LogRecord LogLevel)
open SheetAudit.Url

variable {ε : Type} {reader : Reader ε} {web : Transport}

/-! ## One round -/

/-- What a request comes to. -/
inductive Round where
  /-- The fetch ends, with its answer and the record of the request, if there is one. -/
  | ended (answer : Answer) (records : List LogRecord)
  /-- The request is sent on to another URL. -/
  | moved (record : LogRecord) (target : RequestUrl)

/-- Asks for a URL once. -/
def Reader.ask (reader : Reader ε) (web : Transport) (url : RequestUrl) : Round :=
  match web (String.ofList url.toText) with
  | .error .timeout => .ended (.failure .timeout) []
  | .error (.failed message) => .ended (.failure (.failed message)) []
  | .ok r =>
    if url.scheme.isEmpty then .ended (.refused (.unknownType (shownWithoutScheme url))) []
    else
      match r.redirect? with
      | none =>
        if r.isSuccess then .ended (.response url r) [requestRecord url r]
        else .ended (.failure (.status r.status)) [requestRecord url r]
      | some location =>
        match reader.url location.toList with
        | .error e =>
          .ended (.failure (.failed s!"Invalid URL in location header: {e.message}."))
            [requestRecord url r]
        | .ok location =>
          match reader.redirect url location with
          | .error e => .ended (.refused e) [requestRecord url r]
          | .ok target => .moved (requestRecord url r) target

/-- A fetch goes on as its first round says, as long as redirects are left. -/
theorem follow_eq (reader : Reader ε) (web : Transport) (redirects : Nat) (log : List LogRecord)
    (url : RequestUrl) :
    reader.follow web redirects log url =
      match reader.ask web url, redirects with
      | .ended answer records, _ => (answer, records ++ log)
      | .moved record _, 0 =>
        (.failure (.failed "Exceeded maximum allowed redirects."), record :: log)
      | .moved record target, redirects + 1 =>
        reader.follow web redirects (record :: log) target := by
  -- both sides take the same branches, so that each branch of the one is met with that of the other
  rw [Reader.follow.eq_def, Reader.ask]
  cases web (String.ofList url.toText) with
  | error e => cases e <;> rfl
  | ok r =>
    dsimp only
    split
    · rfl
    · cases r.redirect? with
      | none => dsimp only; split <;> rfl
      | some location =>
        dsimp only
        cases reader.url location.toList with
        | error e => rfl
        | ok location =>
          dsimp only
          cases reader.redirect url location with
          | error e => rfl
          | ok target => cases redirects <;> rfl

/-- A fetch that ends with its first round. -/
private theorem follow_of_ended {url : RequestUrl} {answer : Answer}
    {records : List LogRecord} (h : reader.ask web url = .ended answer records) (redirects : Nat)
    (log : List LogRecord) : reader.follow web redirects log url = (answer, records ++ log) := by
  rw [follow_eq, h]

/-- A fetch that is sent on when no redirects are left. -/
private theorem follow_zero_of_moved {url target : RequestUrl} {record : LogRecord}
    (h : reader.ask web url = .moved record target) (log : List LogRecord) :
    reader.follow web 0 log url =
      (.failure (.failed "Exceeded maximum allowed redirects."), record :: log) := by
  rw [follow_eq, h]

/-- A fetch that is sent on goes on from there. -/
private theorem follow_succ_of_moved {url target : RequestUrl} {record : LogRecord}
    (h : reader.ask web url = .moved record target) (redirects : Nat) (log : List LogRecord) :
    reader.follow web (redirects + 1) log url =
      reader.follow web redirects (record :: log) target := by
  rw [follow_eq, h]

/-- A round asks for nothing but its URL. -/
private theorem ask_congr {web' : Transport} {url : RequestUrl}
    (h : web' (String.ofList url.toText) = web (String.ofList url.toText)) :
    reader.ask web' url = reader.ask web url := by
  rw [Reader.ask, Reader.ask, h]

/-- The ways in which a round can go: no answer of the web is taken in, or one is, and it is
    recorded and is the answer of the fetch, or the end of it, or sends it on. -/
private theorem ask_cases (reader : Reader ε) (web : Transport) (url : RequestUrl) :
    (∃ answer, reader.ask web url = .ended answer [] ∧ ∀ final r, answer ≠ .response final r) ∨
    ∃ r, web (String.ofList url.toText) = .ok r ∧
      (reader.ask web url = .ended (.response url r) [requestRecord url r] ∨
      (∃ answer, reader.ask web url = .ended answer [requestRecord url r] ∧
        ∀ final r, answer ≠ .response final r) ∨
      ∃ target, reader.ask web url = .moved (requestRecord url r) target) := by
  -- one case for each way out of the round; which answers are responses can be seen there
  unfold Reader.ask
  cases web (String.ofList url.toText) with
  | error e => cases e <;> exact .inl ⟨_, rfl, by simp⟩
  | ok r =>
    dsimp only
    split
    · exact .inl ⟨_, rfl, by simp⟩
    · refine .inr ⟨r, rfl, ?_⟩
      cases r.redirect? with
      | none =>
        dsimp only
        split
        · exact .inl rfl
        · exact .inr (.inl ⟨_, rfl, by simp⟩)
      | some location =>
        dsimp only
        cases reader.url location.toList with
        | error e => exact .inr (.inl ⟨_, rfl, by simp⟩)
        | ok location =>
          dsimp only
          cases reader.redirect url location with
          | error e => exact .inr (.inl ⟨_, rfl, by simp⟩)
          | ok target => exact .inr (.inr ⟨target, rfl⟩)

/-- An answer is that of the web to the URL asked for. -/
private theorem ask_response {url final : RequestUrl} {r : Response}
    {records : List LogRecord} (h : reader.ask web url = .ended (.response final r) records) :
    final = url ∧ web (String.ofList url.toText) = .ok r := by
  rcases ask_cases reader web url with ⟨_, hask, hne⟩ | ⟨_, hweb, hask | ⟨_, hask, hne⟩ | ⟨_, hask⟩⟩
  · rw [hask] at h
    exact absurd (Round.ended.inj h).1 (hne final r)
  · rw [hask] at h
    cases h
    exact ⟨rfl, hweb⟩
  · rw [hask] at h
    exact absurd (Round.ended.inj h).1 (hne final r)
  · rw [hask] at h
    cases h

/-- The records of a round that ends the fetch inform. -/
private theorem level_of_ended {url : RequestUrl} {answer : Answer}
    {records : List LogRecord} (h : reader.ask web url = .ended answer records) :
    ∀ record ∈ records, record.level = .info := by
  -- only the rounds that end are left, with no record or with that of their request
  rcases ask_cases reader web url with ⟨_, hask, -⟩ | ⟨r, -, hask | ⟨_, hask, -⟩ | ⟨_, hask⟩⟩
  all_goals
    rw [hask] at h
    cases h
  · simp
  · simp [requestRecord]
  · simp [requestRecord]

/-- The record of a round that is sent on informs. -/
private theorem level_of_moved {url target : RequestUrl} {record : LogRecord}
    (h : reader.ask web url = .moved record target) : record.level = .info := by
  rcases ask_cases reader web url with ⟨_, hask, -⟩ | ⟨r, -, hask | ⟨_, hask, -⟩ | ⟨_, hask⟩⟩
  all_goals
    rw [hask] at h
    cases h
  rfl

/-! ## All rounds -/

/-- What holds of a fetch by its rounds: when it ends, when it is sent on in vain, and when it
    goes on from another URL. -/
private theorem fetch_induction (reader : Reader ε) (web : Transport)
    {motive : Nat → RequestUrl → Prop}
    (ended : ∀ {url answer records} (redirects : Nat), reader.ask web url = .ended answer records →
      motive redirects url)
    (stopped : ∀ {url record target}, reader.ask web url = .moved record target → motive 0 url)
    (moved : ∀ {redirects url record target}, reader.ask web url = .moved record target →
      motive redirects target → motive (redirects + 1) url)
    (redirects : Nat) (url : RequestUrl) : motive redirects url := by
  -- on the redirects that are left; the URL is another one after each of them
  induction redirects generalizing url with
  | zero =>
    cases h : reader.ask web url with
    | ended => exact ended 0 h
    | moved => exact stopped h
  | succ redirects ih =>
    cases h : reader.ask web url with
    | ended => exact ended (redirects + 1) h
    | moved record target => exact moved h (ih target)

/-- The URLs that are asked for when up to `redirects` redirects are followed. -/
def Reader.requestsFrom (reader : Reader ε) (web : Transport) : Nat → RequestUrl → List String
  | 0, url => [String.ofList url.toText]
  | redirects + 1, url =>
    String.ofList url.toText ::
      match reader.ask web url with
      | .ended _ _ => []
      | .moved _ target => reader.requestsFrom web redirects target

/-- The URLs that are asked for to fetch a URL given by its text. -/
def Reader.requests (reader : Reader ε) (web : Transport) (url : String) : List String :=
  match reader.url url.toList with
  | .error _ => []
  | .ok parsed => reader.requestsFrom web maxRedirects parsed.rooted

/-- A fetch that ends with its first round has asked for one URL. -/
private theorem requestsFrom_of_ended {url : RequestUrl} {answer : Answer}
    {records : List LogRecord} (h : reader.ask web url = .ended answer records) (redirects : Nat) :
    reader.requestsFrom web redirects url = [String.ofList url.toText] := by
  cases redirects with
  | zero => rfl
  | succ redirects => rw [Reader.requestsFrom, h]

/-- A fetch that is sent on has asked for its URL and for those that it asks for from there. -/
private theorem requestsFrom_succ_of_moved {url target : RequestUrl} {record : LogRecord}
    (h : reader.ask web url = .moved record target) (redirects : Nat) :
    reader.requestsFrom web (redirects + 1) url =
      String.ofList url.toText :: reader.requestsFrom web redirects target := by
  rw [Reader.requestsFrom, h]

/-- At least one URL is asked for. -/
private theorem requestsFrom_ne_nil (reader : Reader ε) (web : Transport) (redirects : Nat)
    (url : RequestUrl) :
    reader.requestsFrom web redirects url ≠ [] := by
  cases redirects <;> simp [Reader.requestsFrom]

/-- Webs that answer the requests alike make the same of them. -/
theorem follow_congr {web' : Transport} (redirects : Nat) (url : RequestUrl)
    (h : ∀ u ∈ reader.requestsFrom web redirects url, web' u = web u) (log : List LogRecord) :
    reader.follow web' redirects log url = reader.follow web redirects log url := by
  induction redirects, url using fetch_induction reader web generalizing log with
  | ended redirects hask =>
    -- the URL itself is the first request, so that both webs go through the same first round
    have hask' := hask
    rw [requestsFrom_of_ended hask] at h
    rw [← ask_congr (h _ List.mem_cons_self)] at hask'
    rw [follow_of_ended hask, follow_of_ended hask']
  | stopped hask =>
    have hask' := hask
    rw [← ask_congr (h _ List.mem_cons_self)] at hask'
    rw [follow_zero_of_moved hask, follow_zero_of_moved hask']
  | moved hask ih =>
    have hask' := hask
    rw [requestsFrom_succ_of_moved hask] at h
    rw [← ask_congr (h _ List.mem_cons_self)] at hask'
    rw [follow_succ_of_moved hask, follow_succ_of_moved hask']
    exact ih (fun u hu => h u (List.mem_cons_of_mem _ hu)) _

/-- An answer comes from the last URL asked for. -/
theorem requestsFrom_of_follow (redirects : Nat) (url : RequestUrl)
    {final : RequestUrl} {log log' : List LogRecord} {r : Response}
    (h : reader.follow web redirects log url = (.response final r, log')) :
    (reader.requestsFrom web redirects url).getLast? = some (String.ofList final.toText) ∧
      web (String.ofList final.toText) = .ok r := by
  induction redirects, url using fetch_induction reader web generalizing log with
  | ended redirects hask =>
    rw [follow_of_ended hask] at h
    rw [requestsFrom_of_ended hask]
    obtain ⟨rfl, hweb⟩ := ask_response ((Prod.mk.inj h).1 ▸ hask)
    exact ⟨rfl, hweb⟩
  | stopped hask =>
    rw [follow_zero_of_moved hask] at h
    cases h
  | moved hask ih =>
    rw [follow_succ_of_moved hask] at h
    -- more URLs come behind this one, so that it is not the last
    rw [requestsFrom_succ_of_moved hask, List.getLast?_cons_of_ne_nil
      (requestsFrom_ne_nil reader web _ _)]
    exact ih h

/-- The records of a fetch inform. -/
private theorem level_of_mem_follow (redirects : Nat) (url : RequestUrl)
    {log : List LogRecord} (hlog : ∀ record ∈ log, record.level = .info) :
    ∀ record ∈ (reader.follow web redirects log url).2, record.level = .info := by
  induction redirects, url using fetch_induction reader web generalizing log with
  | ended redirects hask =>
    rw [follow_of_ended hask]
    exact List.forall_mem_append.mpr ⟨level_of_ended hask, hlog⟩
  | stopped hask =>
    rw [follow_zero_of_moved hask]
    exact List.forall_mem_cons.mpr ⟨level_of_moved hask, hlog⟩
  | moved hask ih =>
    rw [follow_succ_of_moved hask]
    exact ih (List.forall_mem_cons.mpr ⟨level_of_moved hask, hlog⟩)

/-! ## Fetches -/

/-- For a text that is no URL nothing is asked for. -/
theorem fetch_of_unreadable {url : String} {e : UrlError}
    (h : reader.url url.toList = .error e) (web : Transport) :
    reader.fetch web url = (.refused e, []) := by
  simp only [Reader.fetch, h]

/-- What comes of the fetch of a URL is what comes of its rounds; the outcome is recorded
besides. -/
theorem fst_fetch {url : String} {parsed : RequestUrl}
    (h : reader.url url.toList = .ok parsed) (web : Transport) :
    (reader.fetch web url).1 = (reader.follow web maxRedirects [] parsed.rooted).1 := by
  simp only [Reader.fetch, h]
  split <;> rfl

/-- What comes of a fetch depends on the web only at its requests. -/
theorem fetch_congr {web' : Transport} {url : String}
    (h : ∀ u ∈ reader.requests web url, web' u = web u) :
    reader.fetch web' url = reader.fetch web url := by
  cases hparsed : reader.url url.toList with
  | error e => rw [fetch_of_unreadable hparsed, fetch_of_unreadable hparsed]
  | ok parsed =>
    simp only [Reader.requests, hparsed] at h
    simp only [Reader.fetch, hparsed, follow_congr _ _ h]

/-- An answer comes from the last URL asked for. -/
theorem requests_of_fetch {url : String} {final : RequestUrl} {r : Response}
    (h : (reader.fetch web url).1 = .response final r) :
    (reader.requests web url).getLast? = some (String.ofList final.toText) ∧
      web (String.ofList final.toText) = .ok r := by
  cases hparsed : reader.url url.toList with
  | error e =>
    rw [fetch_of_unreadable hparsed] at h
    cases h
  | ok parsed =>
    rw [fst_fetch hparsed] at h
    simp only [Reader.requests, hparsed]
    exact requestsFrom_of_follow _ _ (Prod.ext h rfl)

/-- A fetch warns of nothing. -/
theorem level_of_mem_fetch (reader : Reader ε) (web : Transport) (url : String) :
    ∀ record ∈ (reader.fetch web url).2, record.level ≠ .warning := by
  intro record hmem
  cases hparsed : reader.url url.toList with
  | error e =>
    rw [fetch_of_unreadable hparsed] at hmem
    cases hmem
  | ok parsed =>
    have hlevel :
        ∀ record ∈ (reader.follow web maxRedirects [] parsed.rooted).2, record.level = .info :=
      level_of_mem_follow _ _ (by simp)
    simp only [Reader.fetch, hparsed] at hmem
    split at hmem
    · -- an answer has one more record than its rounds
      rw [List.mem_reverse, List.mem_cons] at hmem
      rcases hmem with rfl | hmem
      · simp
      · simp [hlevel record hmem]
    · rw [List.mem_reverse] at hmem
      simp [hlevel record hmem]

end SheetAudit.Web
