import Mathlib.Data.List.Basic
import SheetAudit.Proofs.Requests

/-!
# What is collected from a page

The sheets that a page links are fetched one after the other.  Each link comes to one of three
things: a source, a warning, or an error, because its URL cannot be asked for or the sheet that it
leads to cannot be read.  The last one ends the collection, whatever the other links hold.  All of
this holds with any reader of URLs, answers and pages.

## Key results

- `collectLinks_of_none` / `collectLinks_of_some`: the links of a page
- `collect_accounting`: what is collected, when something is
- `collect_returns_iff`: when something is
-/

namespace SheetAudit.Web

open SheetAudit.Console (LogRecord LogLevel)
open SheetAudit.Url
open Stylesheet (Source)

variable {ε : Type} {reader : Reader ε} {web : Transport}

/-! ## One link -/

namespace Reader

/-- What comes of asking for a linked sheet, and the records of it. -/
def fetchLink (reader : Reader ε) (web : Transport) (page href : String) :
    Answer × List LogRecord :=
  match resolveLink href page with
  | .error e => (.refused e, [])
  | .ok url => reader.fetch web url

/-- Why a link ends the collection, if it does: its URL cannot be asked for, or the sheet that it
    leads to is fetched and cannot be read. -/
def linkError? (reader : Reader ε) (web : Transport) (page href : String) :
    Option (CollectionError ε) :=
  match (reader.fetchLink web page href).1 with
  | .response _ r =>
    match reader.text r with
    | .ok _ => none
    | .error e => some (.content e)
  | .failure _ => none
  | .refused e => some (.url e)

/-- The source that a link gives, if it is fetched and read. -/
def linkSource? (reader : Reader ε) (web : Transport) (page href : String) : Option Source :=
  match (reader.fetchLink web page href).1 with
  | .response _ r => (reader.text r).toOption.map fun content => ⟨href, content⟩
  | _ => none

/-- The warning about a link, if it cannot be fetched. -/
def linkWarning? (reader : Reader ε) (web : Transport) (page href : String) : Option LogRecord :=
  match (reader.fetchLink web page href).1 with
  | .failure f => some (skipRecord href f)
  | _ => none

/-- The records about a link. -/
def linkRecords (reader : Reader ε) (web : Transport) (page href : String) : List LogRecord :=
  (reader.fetchLink web page href).2 ++ (reader.linkWarning? web page href).toList

end Reader

/-- The ways in which a link can go: it gives a source, it gives a warning, or it is an error. -/
private theorem link_cases (reader : Reader ε) (web : Transport) (page href : String) :
    (∃ s, reader.linkError? web page href = none ∧ reader.linkSource? web page href = some s ∧
      reader.linkWarning? web page href = none) ∨
    (∃ w, reader.linkError? web page href = none ∧ reader.linkSource? web page href = none ∧
      reader.linkWarning? web page href = some w) ∨
    ∃ e, reader.linkError? web page href = some e := by
  unfold Reader.linkError? Reader.linkSource? Reader.linkWarning?
  cases (reader.fetchLink web page href).1 with
  | response final r =>
    dsimp only
    cases reader.text r with
    | ok content => exact .inl ⟨_, rfl, rfl, rfl⟩
    | error e => exact .inr (.inr ⟨_, rfl⟩)
  | failure f => exact .inr (.inl ⟨_, rfl, rfl, rfl⟩)
  | refused e => exact .inr (.inr ⟨_, rfl⟩)

/-- The links of a page are taken one after the other, by what comes of each. -/
theorem collectLinks_cons (reader : Reader ε) (web : Transport) (page href : String)
    (sources : List Source) (log : List LogRecord) (rest : List String) :
    reader.collectLinks web page sources log (href :: rest) =
      match reader.fetchLink web page href with
      | (.response _ r, records) =>
        match reader.text r with
        | .ok content =>
          reader.collectLinks web page (⟨href, content⟩ :: sources) (records.reverse ++ log) rest
        | .error e => ⟨.error (.content e), (records.reverse ++ log).reverse⟩
      | (.failure f, records) =>
        reader.collectLinks web page sources (skipRecord href f :: records.reverse ++ log) rest
      | (.refused e, records) => ⟨.error (.url e), (records.reverse ++ log).reverse⟩ := by
  rw [Reader.collectLinks, Reader.fetchLink]
  cases resolveLink href page with
  | error e => rfl
  | ok url => rfl

/-- The error of a link is no failure to fetch the page. -/
private theorem linkError?_ne_fetch {page href : String} {e : CollectionError ε}
    (h : reader.linkError? web page href = some e) : ∀ page f, e ≠ .fetch page f := by
  rintro page' f rfl
  unfold Reader.linkError? at h
  split at h
  · split at h <;> cases h
  · cases h
  · cases h

/-- A link without an error is collected or left out. -/
private theorem collectLinks_cons_of_none {page href : String}
    (h : reader.linkError? web page href = none) (sources : List Source) (log : List LogRecord)
    (rest : List String) :
    reader.collectLinks web page sources log (href :: rest) =
      reader.collectLinks web page ((reader.linkSource? web page href).toList ++ sources)
        ((reader.linkRecords web page href).reverse ++ log) rest := by
  unfold Reader.linkError? at h
  rw [collectLinks_cons, Reader.linkRecords, Reader.linkSource?, Reader.linkWarning?]
  rcases hfetch : reader.fetchLink web page href with ⟨answer, records⟩
  rw [hfetch] at h
  -- the sheet is read, or it could not be fetched; an answer of another kind is an error
  cases answer with
  | response final r =>
    dsimp only at h ⊢
    cases htext : reader.text r with
    | ok content => simp [Except.toOption]
    | error e =>
      rw [htext] at h
      cases h
  | failure f => simp
  | refused e => cases h

/-- A link with an error ends the collection. -/
private theorem collectLinks_cons_of_some {page href : String} {e : CollectionError ε}
    (h : reader.linkError? web page href = some e) (sources : List Source) (log : List LogRecord)
    (rest : List String) :
    reader.collectLinks web page sources log (href :: rest) =
      ⟨.error e, log.reverse ++ (reader.fetchLink web page href).2⟩ := by
  unfold Reader.linkError? at h
  rw [collectLinks_cons]
  rcases hfetch : reader.fetchLink web page href with ⟨answer, records⟩
  rw [hfetch] at h
  -- an answer is an error if it cannot be read, and a refusal always
  cases answer with
  | response final r =>
    dsimp only at h ⊢
    cases htext : reader.text r with
    | ok content =>
      rw [htext] at h
      cases h
    | error e' =>
      rw [htext] at h
      obtain rfl := Option.some.inj h
      simp
  | failure f => cases h
  | refused e' =>
    obtain rfl := Option.some.inj h
    simp

/-! ## All links -/

/-- Links without an error give the sources and the warnings, in order. -/
theorem collectLinks_of_none {page : String} {hrefs : List String}
    (h : ∀ href ∈ hrefs, reader.linkError? web page href = none) (sources : List Source)
    (log : List LogRecord) :
    reader.collectLinks web page sources log hrefs =
      ⟨.ok (sources.reverse ++ hrefs.filterMap (reader.linkSource? web page)),
        log.reverse ++ hrefs.flatMap (reader.linkRecords web page)⟩ := by
  -- on the links that are left; what is collected of those before is carried on
  induction hrefs generalizing sources log with
  | nil => simp [Reader.collectLinks]
  | cons href rest ih =>
    obtain ⟨hhref, hrest⟩ := List.forall_mem_cons.mp h
    rw [collectLinks_cons_of_none hhref, ih hrest]
    cases hsource : reader.linkSource? web page href with
    | none => simp [List.filterMap_cons_none hsource]
    | some source => simp [List.filterMap_cons_some hsource]

/-- The first link with an error decides what comes of all of them. -/
theorem collectLinks_of_some {page href : String} {before : List String} {e : CollectionError ε}
    (hbefore : ∀ href ∈ before, reader.linkError? web page href = none)
    (h : reader.linkError? web page href = some e) (sources : List Source) (log : List LogRecord)
    (rest : List String) :
    reader.collectLinks web page sources log (before ++ href :: rest) =
      ⟨.error e, log.reverse ++ before.flatMap (reader.linkRecords web page) ++
        (reader.fetchLink web page href).2⟩ := by
  -- on the links in front of the one with the error
  induction before generalizing sources log with
  | nil => simp [collectLinks_cons_of_some h]
  | cons href' before ih =>
    obtain ⟨hhref, hrest⟩ := List.forall_mem_cons.mp hbefore
    rw [List.cons_append, collectLinks_cons_of_none hhref, ih hrest]
    simp

/-- No link has an error, or one is the first. -/
private theorem linkErrors_cases (reader : Reader ε) (web : Transport) (page : String)
    (hrefs : List String) :
    (∀ href ∈ hrefs, reader.linkError? web page href = none) ∨
    ∃ before href rest e, hrefs = before ++ href :: rest ∧
      (∀ href ∈ before, reader.linkError? web page href = none) ∧
      reader.linkError? web page href = some e := by
  -- the first link with an error is this one, or the first of the others
  induction hrefs with
  | nil => exact .inl (by simp)
  | cons href rest ih =>
    cases hhref : reader.linkError? web page href with
    | some e => exact .inr ⟨[], href, rest, e, rfl, by simp, hhref⟩
    | none =>
      rcases ih with hrest | ⟨before, href', rest', e, rfl, hbefore, he⟩
      · exact .inl (List.forall_mem_cons.mpr ⟨hhref, hrest⟩)
      · exact .inr ⟨href :: before, href', rest', e, rfl,
          List.forall_mem_cons.mpr ⟨hhref, hbefore⟩, he⟩

/-- Of a link without an error there is a source or a warning, and not both. -/
private theorem length_linkSource?_add {page href : String}
    (h : reader.linkError? web page href = none) :
    (reader.linkSource? web page href).toList.length +
      (reader.linkWarning? web page href).toList.length = 1 := by
  rcases link_cases reader web page href with ⟨s, -, hs, hw⟩ | ⟨w, -, hs, hw⟩ | ⟨e, he⟩
  · rw [hs, hw]
    rfl
  · rw [hs, hw]
    rfl
  · cases h.symm.trans he

/-- Sources and warnings together are as many as the links. -/
private theorem length_sources_add_length_warnings {page : String} {hrefs : List String}
    (h : ∀ href ∈ hrefs, reader.linkError? web page href = none) :
    (hrefs.filterMap (reader.linkSource? web page)).length +
      (hrefs.filterMap (reader.linkWarning? web page)).length = hrefs.length := by
  -- link by link, one source or warning for each
  induction hrefs with
  | nil => rfl
  | cons href rest ih =>
    obtain ⟨hhref, hrest⟩ := List.forall_mem_cons.mp h
    have hone := length_linkSource?_add hhref
    have hall := ih hrest
    simp only [List.filterMap_eq_flatMap_toList, List.flatMap_cons, List.length_append,
      List.length_cons] at hall ⊢
    omega

/-- The warnings among the records of a link. -/
private theorem filter_linkRecords (reader : Reader ε) (web : Transport) (page href : String) :
    (reader.linkRecords web page href).filter (·.level == .warning) =
      (reader.linkWarning? web page href).toList := by
  -- a fetch that gives an answer or fails has no warning of its own
  have hfetch : (reader.fetchLink web page href).2.filter (·.level == .warning) = [] := by
    rw [List.filter_eq_nil_iff]
    intro record hmem
    rw [beq_iff_eq]
    unfold Reader.fetchLink at hmem
    split at hmem
    · cases hmem
    · exact level_of_mem_fetch reader web _ record hmem
  rw [Reader.linkRecords, List.filter_append, hfetch, List.nil_append, List.filter_eq_self]
  intro record hmem
  unfold Reader.linkWarning? at hmem
  split at hmem
  · obtain rfl := List.mem_singleton.mp hmem
    rfl
  · cases hmem

/-- The warnings among the records of all links. -/
private theorem filter_flatMap_linkRecords (reader : Reader ε) (web : Transport) (page : String)
    (hrefs : List String) :
    (hrefs.flatMap (reader.linkRecords web page)).filter (·.level == .warning) =
      hrefs.filterMap (reader.linkWarning? web page) := by
  rw [List.filter_flatMap, List.filterMap_eq_flatMap_toList]
  simp only [filter_linkRecords]

/-! ## The page -/

-- `delta` opens `collect` as the one `match` on the fetch of the page that it is, with the cases of
-- the answer not yet taken apart.

/-- A page that cannot be fetched is reported as such. -/
theorem collect_of_failure {text : String} {f : FetchFailure} {log : List LogRecord}
    (h : reader.fetch web (withScheme text) = (.failure f, log)) :
    reader.collect web text = ⟨.error (.fetch (withScheme text) f), log⟩ := by
  delta Reader.collect
  simp only [h]

/-- A page whose URL cannot be asked for is no failure to fetch. -/
theorem collect_of_refused {text : String} {e : UrlError} {log : List LogRecord}
    (h : reader.fetch web (withScheme text) = (.refused e, log)) :
    reader.collect web text = ⟨.error (.url e), log⟩ := by
  delta Reader.collect
  simp only [h]

section Answered

variable {text : String} {final : RequestUrl} {r : Response} {log : List LogRecord}
  (h : reader.fetch web (withScheme text) = (.response final r, log))
include h

/-- A stylesheet that can be read is collected on its own. -/
theorem collect_of_sheet {content : String}
    (hsheet : isSheetResponse (r.header? "content-type") final = .ok true)
    (htext : reader.text r = .ok content) :
    reader.collect web text = ⟨.ok [⟨withScheme text, content⟩], log⟩ := by
  delta Reader.collect
  simp only [h, hsheet, htext]

/-- A page is collected by its links, with the sheets inside it in front. -/
theorem collect_of_page {tags : List Page.Tag}
    (hsheet : isSheetResponse (r.header? "content-type") final = .ok false)
    (htags : reader.pageTags r = .ok tags) :
    reader.collect web text =
      reader.collectLinks web (String.ofList final.toText) (Page.inlineSheets tags).reverse
        log.reverse (Page.sheetTargets tags) := by
  delta Reader.collect
  simp only [h, hsheet, htags]

/-- The ways in which the collection from a page that was fetched can go: its URL or its text cannot
    be read, it is a stylesheet, it is collected, or a link has an error. -/
theorem collect_cases_of_response :
    (∃ e, isSheetResponse (r.header? "content-type") final = .error e ∧
      (reader.collect web text).outcome = .error (.url e)) ∨
    (isSheetResponse (r.header? "content-type") final = .ok true ∧
      ((∃ e, reader.text r = .error e ∧
        (reader.collect web text).outcome = .error (.content e)) ∨
      ∃ content, reader.text r = .ok content ∧
        reader.collect web text = ⟨.ok [⟨withScheme text, content⟩], log⟩)) ∨
    (isSheetResponse (r.header? "content-type") final = .ok false ∧
      ((∃ e, reader.pageTags r = .error e ∧
        (reader.collect web text).outcome = .error (.content e)) ∨
      ∃ tags, reader.pageTags r = .ok tags ∧
        (((∀ href ∈ Page.sheetTargets tags,
            reader.linkError? web (String.ofList final.toText) href = none) ∧
          reader.collect web text =
            ⟨.ok (Page.inlineSheets tags ++ (Page.sheetTargets tags).filterMap
                (reader.linkSource? web (String.ofList final.toText))),
              log ++ (Page.sheetTargets tags).flatMap
                (reader.linkRecords web (String.ofList final.toText))⟩) ∨
        ∃ href ∈ Page.sheetTargets tags, ∃ e,
          reader.linkError? web (String.ofList final.toText) href = some e ∧
          (∀ page f, e ≠ .fetch page f) ∧ (reader.collect web text).outcome = .error e))) := by
  cases hsheet : isSheetResponse (r.header? "content-type") final with
  | error e =>
    refine .inl ⟨e, rfl, ?_⟩
    delta Reader.collect
    simp only [h, hsheet]
  | ok isSheet =>
    cases isSheet with
    | true =>
      refine .inr (.inl ⟨rfl, ?_⟩)
      cases htext : reader.text r with
      | error e =>
        refine .inl ⟨e, rfl, ?_⟩
        delta Reader.collect
        simp only [h, hsheet, htext]
      | ok content => exact .inr ⟨content, rfl, collect_of_sheet h hsheet htext⟩
    | false =>
      refine .inr (.inr ⟨rfl, ?_⟩)
      cases htags : reader.pageTags r with
      | error e =>
        refine .inl ⟨e, rfl, ?_⟩
        delta Reader.collect
        simp only [h, hsheet, htags]
      | ok tags =>
        refine .inr ⟨tags, rfl, ?_⟩
        rw [collect_of_page h hsheet htags]
        rcases linkErrors_cases reader web (String.ofList final.toText) (Page.sheetTargets tags)
          with hlinks | ⟨before, href, rest, e, hlinks, hbefore, hhref⟩
        · -- sources and records are gathered last one first, and turned around once
          refine .inl ⟨hlinks, ?_⟩
          rw [collectLinks_of_none hlinks, List.reverse_reverse, List.reverse_reverse]
        · refine .inr ⟨href, by simp [hlinks], e, hhref, linkError?_ne_fetch hhref, ?_⟩
          rw [hlinks, collectLinks_of_some hbefore hhref]

end Answered

/-! ## Accounts -/

/-- The warnings in the log of a page that is collected. -/
private theorem filter_log_of_page {url : String} {answer : Answer} {log : List LogRecord}
    (h : reader.fetch web url = (answer, log)) (page : String) (hrefs : List String) :
    (log ++ hrefs.flatMap (reader.linkRecords web page)).filter (·.level == .warning) =
      hrefs.filterMap (reader.linkWarning? web page) := by
  have hlog : log.filter (·.level == .warning) = [] := by
    rw [List.filter_eq_nil_iff]
    intro record hmem
    rw [beq_iff_eq]
    exact level_of_mem_fetch reader web url record (by rw [h]; exact hmem)
  rw [List.filter_append, hlog, filter_flatMap_linkRecords, List.nil_append]

/-- The accounts of a collection.  Its page is what the web has at the last URL asked for.  If that
    is a stylesheet, its text is the only source, under the URL that was given, and nothing else is
    asked for.  Otherwise the sources are the sheets inside the page and then those linked sheets
    that can be fetched, from the URLs to which the links lead from the URL of the page; every other
    link has its warning; and there is no other warning. -/
theorem collect_accounting (reader : Reader ε) (web : Transport) (text : String)
    (sources : List Source) (log : List LogRecord)
    (h : reader.collect web text = ⟨.ok sources, log⟩) :
    ∃ final r pageLog, reader.fetch web (withScheme text) = (.response final r, pageLog) ∧
      (reader.requests web (withScheme text)).getLast? = some (String.ofList final.toText) ∧
      web (String.ofList final.toText) = .ok r ∧
      ((isSheetResponse (r.header? "content-type") final = .ok true ∧
        (∃ content, reader.text r = .ok content ∧ sources = [⟨withScheme text, content⟩]) ∧
        log = pageLog ∧
        ∀ web', (∀ url ∈ reader.requests web (withScheme text), web' url = web url) →
          reader.collect web' text = reader.collect web text) ∨
      (isSheetResponse (r.header? "content-type") final = .ok false ∧
        ∃ tags, reader.pageTags r = .ok tags ∧
          sources = Page.inlineSheets tags ++ (Page.sheetTargets tags).filterMap
            (reader.linkSource? web (String.ofList final.toText)) ∧
          log.filter (·.level == .warning) = (Page.sheetTargets tags).filterMap
            (reader.linkWarning? web (String.ofList final.toText)) ∧
          sources.length + (log.filter (·.level == .warning)).length =
            (Page.inlineSheets tags).length + (Page.sheetTargets tags).length)) := by
  rcases hfetch : reader.fetch web (withScheme text) with ⟨answer, pageLog⟩
  cases answer with
  | failure f =>
    rw [collect_of_failure hfetch] at h
    cases h
  | refused e =>
    rw [collect_of_refused hfetch] at h
    cases h
  | response final r =>
    have hrequests := requests_of_fetch (congrArg Prod.fst hfetch)
    refine ⟨final, r, pageLog, rfl, hrequests.1, hrequests.2, ?_⟩
    have houtcome := congrArg Collection.outcome h
    -- of all ways to collect, only two return sources: a stylesheet, and links without errors
    rcases collect_cases_of_response hfetch with
      ⟨e, -, herror⟩ | ⟨hsheet, ⟨e, -, herror⟩ | ⟨content, htext, hcollect⟩⟩ |
      ⟨hsheet, ⟨e, -, herror⟩ | ⟨tags, htags, ⟨hlinks, hcollect⟩ | ⟨-, -, e, -, -, herror⟩⟩⟩
    · cases herror.symm.trans houtcome
    · cases herror.symm.trans houtcome
    · obtain ⟨rfl, rfl⟩ : sources = _ ∧ log = _ := by simpa using h.symm.trans hcollect
      refine .inl ⟨hsheet, ⟨content, htext, rfl⟩, rfl, fun web' hweb => ?_⟩
      -- the other web gives the same page, and so the same collection
      rw [collect_of_sheet ((fetch_congr hweb).trans hfetch) hsheet htext, hcollect]
    · cases herror.symm.trans houtcome
    · obtain ⟨rfl, rfl⟩ : sources = _ ∧ log = _ := by simpa using h.symm.trans hcollect
      have hwarnings := filter_log_of_page hfetch (String.ofList final.toText)
        (Page.sheetTargets tags)
      refine .inr ⟨hsheet, tags, htags, rfl, hwarnings, ?_⟩
      rw [hwarnings, List.length_append, Nat.add_assoc,
        length_sources_add_length_warnings hlinks]
    · cases herror.symm.trans houtcome

/-- A page behind a redirect, with a sheet inside it and two links, of which one can be fetched. -/
theorem collect_accounting_redirected :
    ∃ web : Transport, ∃ sources log, collect web "http://h/" = ⟨.ok sources, log⟩ ∧
      sources = [⟨"inline-style-1", "a"⟩, ⟨"x", "b"⟩] ∧
      (log.filter (·.level == .warning)).map (·.message) = ["Skipping stylesheet y: HTTP 404"] ∧
      ∃ final r pageLog,
        Reader.builtIn.fetch web (withScheme "http://h/") = (.response final r, pageLog) ∧
        (Reader.builtIn.requests web (withScheme "http://h/")).getLast? =
          some (String.ofList final.toText) := by
  let page := "<style>a</style><link rel=stylesheet href=x><link rel=stylesheet href=y>"
  let web := ofTable [("http://h/", .ok ⟨302, [("location", "/d/p")], .empty⟩),
    ("http://h/d/p", .ok ⟨200, [], page.toUTF8⟩), ("http://h/d/x", .ok ⟨200, [], "b".toUTF8⟩)]
  have hval : (match collect web "http://h/" with
      | ⟨.ok sources, log⟩ => (sources, (log.filter (·.level == .warning)).map (·.message))
      | ⟨.error _, _⟩ => ([], [])) =
        ([⟨"inline-style-1", "a"⟩, ⟨"x", "b"⟩], ["Skipping stylesheet y: HTTP 404"]) := by
    decide +kernel
  -- the collection is computed; the page that it is from follows from the theorem
  split at hval
  · next sources log h =>
    obtain ⟨hsources, hwarnings⟩ := Prod.mk.inj hval
    obtain ⟨final, r, pageLog, hfetch, hlast, -⟩ :=
      collect_accounting .builtIn web "http://h/" sources log h
    exact ⟨web, sources, log, h, hsources, hwarnings, final, r, pageLog, hfetch, hlast⟩
  · cases hval

/-! ## When a page is collected -/

/-- A failure to fetch is reported exactly if the page cannot be fetched. -/
theorem outcome_eq_fetch_error_iff {text page : String} {f : FetchFailure} :
    (reader.collect web text).outcome = .error (.fetch page f) ↔
      page = withScheme text ∧ (reader.fetch web (withScheme text)).1 = .failure f := by
  rcases hfetch : reader.fetch web (withScheme text) with ⟨answer, log⟩
  cases answer with
  | failure f' =>
    rw [collect_of_failure hfetch]
    simp [eq_comm]
  | refused e =>
    rw [collect_of_refused hfetch]
    simp
  | response final r =>
    -- a page that answers has other errors only, and those of its links are no failures of the page
    rcases collect_cases_of_response hfetch with
      ⟨e, -, h⟩ | ⟨-, ⟨e, -, h⟩ | ⟨content, -, h⟩⟩ |
      ⟨-, ⟨e, -, h⟩ | ⟨tags, -, ⟨-, h⟩ | ⟨-, -, e, -, hne, h⟩⟩⟩
    case inr.inr.inr.inr => simp [h, hne]
    all_goals simp [h]

/-- A page is collected exactly if it can be fetched, its URL can be read, and it is a stylesheet
    that can be read, or a page that can be read and of whose links none has an error. -/
theorem exists_outcome_eq_ok_iff {text : String} :
    (∃ sources, (reader.collect web text).outcome = .ok sources) ↔
      ∃ final r, (reader.fetch web (withScheme text)).1 = .response final r ∧
        ((isSheetResponse (r.header? "content-type") final = .ok true ∧
          ∃ content, reader.text r = .ok content) ∨
        isSheetResponse (r.header? "content-type") final = .ok false ∧
          ∃ tags, reader.pageTags r = .ok tags ∧
            ∀ href ∈ Page.sheetTargets tags,
              reader.linkError? web (String.ofList final.toText) href = none) := by
  rcases hfetch : reader.fetch web (withScheme text) with ⟨answer, log⟩
  cases answer with
  | failure f =>
    rw [collect_of_failure hfetch]
    simp
  | refused e =>
    rw [collect_of_refused hfetch]
    simp
  | response final r =>
    -- each way to collect says on which side of the equivalence it is
    rcases collect_cases_of_response hfetch with
      ⟨e, hsheet, h⟩ | ⟨hsheet, ⟨e, htext, h⟩ | ⟨content, htext, h⟩⟩ |
      ⟨hsheet, ⟨e, htags, h⟩ | ⟨tags, htags, ⟨hlinks, h⟩ | ⟨href, hhref, e, herror, -, h⟩⟩⟩
    · simp [h, hsheet]
    · simp [h, hsheet, htext]
    · simp [h, hsheet, htext]
    · simp [h, hsheet, htags]
    · simpa [h, hsheet, htags] using hlinks
    · simpa [h, hsheet, htags] using ⟨href, hhref, by simp [herror]⟩

/-- Each link of a page that is collected is a source or has its warning. -/
theorem source_or_warning_of_mem_sheetTargets {text href : String} {final : RequestUrl}
    {r : Response} {tags : List Page.Tag} {sources : List Source}
    (h : (reader.fetch web (withScheme text)).1 = .response final r)
    (hsheet : isSheetResponse (r.header? "content-type") final = .ok false)
    (htags : reader.pageTags r = .ok tags)
    (hsources : (reader.collect web text).outcome = .ok sources)
    (hhref : href ∈ Page.sheetTargets tags) :
    (∃ s ∈ sources, reader.linkSource? web (String.ofList final.toText) href = some s) ∨
    ∃ w ∈ (reader.collect web text).log,
      reader.linkWarning? web (String.ofList final.toText) href = some w := by
  have hcollect := collect_of_page (Prod.ext h rfl) hsheet htags
  rcases linkErrors_cases reader web (String.ofList final.toText) (Page.sheetTargets tags) with
    hlinks | ⟨before, href', rest, e, hlinks, hbefore, herror⟩
  · rw [collectLinks_of_none hlinks] at hcollect
    rw [hcollect] at hsources ⊢
    obtain rfl := Except.ok.inj hsources
    rcases link_cases reader web (String.ofList final.toText) href with
      ⟨s, -, hs, -⟩ | ⟨w, -, -, hw⟩ | ⟨e, he⟩
    · exact .inl ⟨s, List.mem_append_right _ (List.mem_filterMap.mpr ⟨href, hhref, hs⟩), hs⟩
    · refine .inr ⟨w, List.mem_append_right _ (List.mem_flatMap.mpr ⟨href, hhref, ?_⟩), hw⟩
      rw [Reader.linkRecords, hw]
      exact List.mem_append_right _ List.mem_cons_self
    · cases (hlinks href hhref).symm.trans he
  · -- a link with an error would have ended the collection
    rw [hlinks, collectLinks_of_some hbefore herror] at hcollect
    rw [hcollect] at hsources
    cases hsources

/-- A failure to fetch is reported exactly if the page cannot be fetched.  A page that can be
    fetched is collected exactly if its URL and its text can be read and it is a stylesheet or none
    of its links ends the collection, by a URL that cannot be asked for or by a sheet that is
    fetched and cannot be read; and then each of its links is a source or has its warning. -/
theorem collect_returns_iff (reader : Reader ε) (web : Transport) (text : String) :
    (∀ page f, (reader.collect web text).outcome = .error (.fetch page f) ↔
      page = withScheme text ∧ (reader.fetch web (withScheme text)).1 = .failure f) ∧
    ((∃ sources, (reader.collect web text).outcome = .ok sources) ↔
      ∃ final r, (reader.fetch web (withScheme text)).1 = .response final r ∧
        ((isSheetResponse (r.header? "content-type") final = .ok true ∧
          ∃ content, reader.text r = .ok content) ∨
        isSheetResponse (r.header? "content-type") final = .ok false ∧
          ∃ tags, reader.pageTags r = .ok tags ∧
            ∀ href ∈ Page.sheetTargets tags,
              reader.linkError? web (String.ofList final.toText) href = none)) ∧
    ∀ final r tags sources, (reader.fetch web (withScheme text)).1 = .response final r →
      isSheetResponse (r.header? "content-type") final = .ok false →
      reader.pageTags r = .ok tags → (reader.collect web text).outcome = .ok sources →
      ∀ href ∈ Page.sheetTargets tags,
        (∃ s ∈ sources, reader.linkSource? web (String.ofList final.toText) href = some s) ∨
        ∃ w ∈ (reader.collect web text).log,
          reader.linkWarning? web (String.ofList final.toText) href = some w :=
  ⟨fun _ _ => outcome_eq_fetch_error_iff, exists_outcome_eq_ok_iff,
    fun _ _ _ _ h hsheet htags hsources _ hhref =>
      source_or_warning_of_mem_sheetTargets h hsheet htags hsources hhref⟩

/-- A link whose host has an open bracket ends the collection from a page that was fetched, though
    the page links another sheet that can be fetched. -/
theorem collect_bad_link_aborts :
    ∃ web : Transport, ∃ final r tags,
      (Reader.builtIn.fetch web (withScheme "http://h/")).1 = .response final r ∧
      Reader.builtIn.pageTags r = .ok tags ∧ Page.sheetTargets tags = ["http://[", "x"] ∧
      Reader.builtIn.linkSource? web (String.ofList final.toText) "x" = some ⟨"x", "b"⟩ ∧
      (collect web "http://h/").outcome = .error (.url .misplacedBrackets) := by
  let page := "<link rel=stylesheet href=http://[><link rel=stylesheet href=x>"
  let web := ofTable [("http://h/", .ok ⟨200, [], page.toUTF8⟩),
    ("http://h/x", .ok ⟨200, [], "b".toUTF8⟩)]
  have hpage : (match (Reader.builtIn.fetch web (withScheme "http://h/")).1 with
      | .response final r =>
        (Page.sheetTargets (Page.tags r.text.toList),
          Reader.builtIn.linkSource? web (String.ofList final.toText) "x")
      | _ => ([], none)) = (["http://[", "x"], some ⟨"x", "b"⟩) := by
    decide +kernel
  have hval : (match (collect web "http://h/").outcome with
      | .ok _ => none
      | .error e => some e) = some (.url .misplacedBrackets) := by
    decide +kernel
  -- the page is fetched, and its second link would be a source
  split at hpage
  · next final r h =>
    split at hval
    · cases hval
    · next e hcollect =>
      obtain ⟨hhrefs, hsource⟩ := Prod.mk.inj hpage
      obtain rfl := Option.some.inj hval
      exact ⟨web, final, r, _, h, rfl, hhrefs, hsource, hcollect⟩
  · cases hpage

end SheetAudit.Web
