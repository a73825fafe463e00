import Mathlib
import ReleasePage.Issues.Notes

/-!
# Walking over all pages

The pages of a list form a chain: each good page announces the next one or is the last. A
walk reads the chain from its start. It collects all issues of the milestone if the chain
ends in time, stops at the first page that is not good, and gives up after 100 good pages
that each announce another one.
-/

namespace ReleasePage.Issues

open ReleasePage.Web (Client FetchError Request Response)

/-- What a response announces as the next page: its first header `link` counts. -/
inductive Announces (response : Response) : Option String → Prop where
  /-- The first header `link` names the next page, or does not name any. -/
  | link {before after : List (String × String)} {name value : String}
    (h : response.headers = before ++ (name, value) :: after) (hn : Web.lowered name = "link")
    (hb : ∀ header ∈ before, Web.lowered header.1 ≠ "link") :
    Announces response (Web.nextLink? value)
  /-- There is no header `link`. -/
  | absent (h : ∀ header ∈ response.headers, Web.lowered header.1 ≠ "link") :
    Announces response none

/-- A page that was read. -/
structure Page where
  /-- The address of the page. -/
  url : String
  /-- The issues on the page. -/
  issues : List Issue

/-- The request for a page. -/
def Page.request (page : Page) : Request := .plain page.url

/-- Address and number of issues of a page. -/
def Page.entry (page : Page) : String × Nat := (page.url, page.issues.length)

/-- After earlier requests, the client answers the request for a page with its issues and
announces `next?`. -/
def Good (client : Client) (earlier : List Request) (page : Page) (next? : Option String) :
    Prop :=
  ∃ response, (client earlier page.request).result = .ok response ∧ response.status = 200 ∧
    Issue.parsePage response.body = .ok page.issues ∧ Announces response next?

/-- After earlier requests, the page at an address is not good, for the reason that the error
gives. -/
inductive Fails (client : Client) (earlier : List Request) (url : String) :
    FetchError → Prop where
  /-- There is no response. -/
  | lost {text : String} (h : (client earlier (.plain url)).result = .error text) :
    Fails client earlier url (.transport text)
  /-- The response has another status than 200. -/
  | refused {response : Response} (h : (client earlier (.plain url)).result = .ok response)
    (hs : response.status ≠ 200) : Fails client earlier url (.status response.status url)
  /-- The content of the response is no list of issues. -/
  | malformed {response : Response} {fault : Json.Fault}
    (h : (client earlier (.plain url)).result = .ok response) (hs : response.status = 200)
    (hp : Issue.parsePage response.body = .error fault) :
    Fails client earlier url (.decode url fault)

/-- Good pages, one after the other: the first one is the given page, each one announces
the next, and the last one announces `last?`. Without a page, that is the given one. -/
inductive Chain (client : Client) :
    List Request → Option String → List Page → Option String → Prop where
  | nil {earlier : List Request} {next? : Option String} : Chain client earlier next? [] next?
  | cons {earlier : List Request} {page : Page} {pages : List Page}
    {next? last? : Option String} (hg : Good client earlier page next?)
    (hc : Chain client (earlier ++ [page.request]) next? pages last?) :
    Chain client earlier (some page.url) (page :: pages) last?

/-- The issues of a milestone on pages. -/
def issuesOf (milestone : String) (pages : List Page) : List Issue :=
  pages.flatMap fun page =>
    page.issues.filter fun issue => issue.milestone.map (·.title) = some milestone

/-- Each request asks for the page that the response to the request before announces. -/
def Linked (client : Client) (earlier made : List Request) : Prop :=
  ∀ before request next after, made = before ++ request :: next :: after →
    ∃ response url, (client (earlier ++ before) request).result = .ok response ∧
      Announces response (some url) ∧ next = .plain url

/-- What a response announces is the next page in its first link header. -/
theorem announces_iff {response : Response} {next? : Option String} :
    Announces response next? ↔ (response.header? "link").bind Web.nextLink? = next? := by
  have hlink : Web.lowered "link" = "link" := by decide
  constructor
  · intro h
    cases h with
    | @link before after name value h hn hb =>
      have hfind : response.headers.find? (fun header =>
          Web.lowered header.1 == Web.lowered "link") = some (name, value) := by
        rw [hlink, List.find?_eq_some_iff_append]
        refine ⟨beq_iff_eq.mpr hn, before, after, h, fun header hm => ?_⟩
        rw [Bool.not_eq_true', beq_eq_false_iff_ne]
        exact hb header hm
      rw [Response.header?, hfind]
      rfl
    | absent h =>
      rw [Response.header?, List.find?_eq_none.mpr]
      · rfl
      · intro header hm
        rw [hlink, beq_iff_eq]
        exact h header hm
  · rintro rfl
    rw [Response.header?, hlink]
    cases hf : response.headers.find? fun header => Web.lowered header.1 == "link" with
    | none =>
      refine .absent fun header hm => ?_
      have hnone := List.find?_eq_none.mp hf header hm
      rwa [beq_iff_eq] at hnone
    | some header =>
      obtain ⟨hn, before, after, h, hb⟩ := List.find?_eq_some_iff_append.mp hf
      refine .link h (beq_iff_eq.mp hn) fun other hm => ?_
      have hother := hb other hm
      rwa [Bool.not_eq_true', beq_eq_false_iff_ne] at hother

/-- Titles of milestones are compared exactly. -/
theorem inMilestone_eq (title : String) (issue : Issue) :
    issue.inMilestone title = decide (issue.milestone.map (·.title) = some title) := by
  rw [Issue.inMilestone]
  cases issue.milestone with
  | none => rfl
  | some milestone => simp [beq_eq_decide]

section Step

variable {client : Client} {earlier : List Request} {url milestone : String}

/-- A good page is one that can be read. -/
theorem readPage_eq_ok {issues : List Issue} {next? : Option String} :
    readPage url (client earlier (.plain url)).result = .ok (issues, next?) ↔
      Good client earlier ⟨url, issues⟩ next? := by
  rw [readPage.eq_def, Good, Page.request]
  cases (client earlier (.plain url)).result with
  | error text => simp
  | ok response =>
    by_cases hs : response.status = 200
    · cases hp : Issue.parsePage response.body with
      | error fault => simp [hs, hp]
      | ok found => simp [hs, hp, announces_iff]
    · simp [hs]

/-- A page that cannot be read is not good, for the same reason. -/
theorem readPage_eq_error {error : FetchError} :
    readPage url (client earlier (.plain url)).result = .error error ↔
      Fails client earlier url error := by
  rw [readPage.eq_def]
  constructor
  · intro h
    cases hr : (client earlier (.plain url)).result with
    | error text =>
      rw [hr] at h
      cases h
      exact .lost hr
    | ok response =>
      rw [hr] at h
      by_cases hs : response.status = 200
      · cases hp : Issue.parsePage response.body with
        | error fault =>
          simp only [if_pos hs, hp] at h
          cases h
          exact .malformed hr hs hp
        | ok issues =>
          simp only [if_pos hs, hp] at h
          cases h
      · simp only [if_neg hs] at h
        cases h
        exact .refused hr hs
  · rintro (h | ⟨h, hs⟩ | ⟨h, hs, hp⟩)
    · rw [h]
    · simp only [h, if_neg hs]
    · simp only [h, if_pos hs, hp]

/-- Goes on with a walk at the next page, if there is one. -/
def goOn (client : Client) (milestone : String) (left : Nat) :
    Option String → List Issue → List Request → List (String × Nat) → Walk
  | none, found, requests, pages => ⟨.ok found, requests, pages⟩
  | some url, found, requests, pages =>
    walkFrom client milestone left url found requests pages

/-- A walk takes up the issues of a good page and goes on at the next one. -/
theorem walkFrom_of_good {page : Page} {next? : Option String}
    (h : Good client earlier page next?) (left : Nat) (found : List Issue)
    (pages : List (String × Nat)) :
    walkFrom client milestone (left + 1) page.url found earlier pages =
      goOn client milestone left next? (found ++ issuesOf milestone [page])
        (earlier ++ [page.request]) (pages ++ [page.entry]) := by
  have hread := readPage_eq_ok.mpr h
  have hissues : issuesOf milestone [page] = page.issues.filter (·.inMilestone milestone) := by
    simp only [issuesOf, List.flatMap_singleton, inMilestone_eq]
  rw [walkFrom, hissues]
  simp only [hread]
  cases next? with
  | none => rfl
  | some next => rfl

/-- A walk stops at a page that is not good. -/
theorem walkFrom_of_fails {error : FetchError} (h : Fails client earlier url error) (left : Nat)
    (found : List Issue) (pages : List (String × Nat)) :
    walkFrom client milestone (left + 1) url found earlier pages =
      ⟨.error error, earlier ++ [.plain url], pages⟩ := by
  have hread := readPage_eq_error.mpr h
  rw [walkFrom]
  simp only [hread]

end Step

section Run

variable {client : Client} {earlier : List Request} {url milestone : String}
  {next? last? : Option String} {pages : List Page}

/-- A walk with enough pages left follows a chain to its end and takes up all its issues. -/
theorem goOn_of_chain (hc : Chain client earlier next? pages last?) (left : Nat)
    (found : List Issue) (entries : List (String × Nat)) :
    goOn client milestone (pages.length + left) next? found earlier entries =
      goOn client milestone left last? (found ++ issuesOf milestone pages)
        (earlier ++ pages.map Page.request) (entries ++ pages.map Page.entry) := by
  induction hc generalizing found entries with
  | nil => simp [issuesOf]
  | @cons earlier page pages next? last? hg hc ih =>
    have hcount : (page :: pages).length + left = (pages.length + left) + 1 := by
      rw [List.length_cons]
      omega
    have hissues : issuesOf milestone (page :: pages) =
        issuesOf milestone [page] ++ issuesOf milestone pages := by
      simp [issuesOf]
    rw [hcount, goOn, walkFrom_of_good hg, ih, hissues]
    simp only [List.append_assoc, List.singleton_append, List.map_cons]

/-- How a walk of at most `limit` pages can end. -/
inductive Ends (client : Client) (milestone : String) (limit : Nat) (earlier : List Request)
    (url : String) : Walk → Prop where
  /-- The chain ends. -/
  | complete {pages : List Page} (hc : Chain client earlier (some url) pages none)
    (hl : pages.length ≤ limit) : Ends client milestone limit earlier url
      ⟨.ok (issuesOf milestone pages), earlier ++ pages.map Page.request,
        pages.map Page.entry⟩
  /-- A page of the chain is not good. -/
  | failed {pages : List Page} {bad : String} {error : FetchError}
    (hc : Chain client earlier (some url) pages (some bad)) (hl : pages.length < limit)
    (hf : Fails client (earlier ++ pages.map Page.request) bad error) :
    Ends client milestone limit earlier url
      ⟨.error error, earlier ++ pages.map Page.request ++ [.plain bad], pages.map Page.entry⟩
  /-- The chain goes on beyond the limit. -/
  | endless {pages : List Page} {next : String}
    (hc : Chain client earlier (some url) pages (some next)) (hl : pages.length = limit) :
    Ends client milestone limit earlier url
      ⟨.error (.tooManyPages maxPages), earlier ++ pages.map Page.request,
        pages.map Page.entry⟩

/-- A walk is determined by how it ends. -/
theorem Ends.eq_walkFrom {limit : Nat} {walk : Walk}
    (h : Ends client milestone limit earlier url walk) :
    walkFrom client milestone limit url [] earlier [] = walk := by
  change goOn client milestone limit (some url) [] earlier [] = walk
  cases h with
  | @complete pages hc hl =>
    obtain ⟨left, rfl⟩ := Nat.exists_eq_add_of_le hl
    rw [goOn_of_chain hc, goOn, List.nil_append, List.nil_append]
  | @failed pages bad error hc hl hf =>
    obtain ⟨left, rfl⟩ := Nat.exists_eq_add_of_lt hl
    rw [Nat.add_assoc, goOn_of_chain hc, goOn, walkFrom_of_fails hf, List.nil_append]
  | @endless pages next hc hl =>
    subst hl
    rw [← Nat.add_zero pages.length, goOn_of_chain hc, goOn, walkFrom, List.nil_append]

/-- From every address on, a chain ends in time, or has a page that is not good, or goes on
beyond the limit. -/
theorem exists_ends (client : Client) (milestone : String) (limit : Nat)
    (earlier : List Request) (url : String) :
    ∃ walk, Ends client milestone limit earlier url walk := by
  induction limit generalizing earlier url with
  | zero => exact ⟨_, .endless .nil rfl⟩
  | succ limit ih =>
    cases hr : readPage url (client earlier (.plain url)).result with
    | error error =>
      have hf := readPage_eq_error.mp hr
      rw [← List.append_nil earlier] at hf
      exact ⟨_, .failed .nil (Nat.succ_pos limit) hf⟩
    | ok read =>
      obtain ⟨issues, next?⟩ := read
      have hg := readPage_eq_ok.mp hr
      cases next? with
      | none => exact ⟨_, .complete (.cons hg .nil) (Nat.succ_le_succ (Nat.zero_le limit))⟩
      | some next =>
        obtain ⟨walk, hw⟩ := ih (earlier ++ [.plain url]) next
        cases hw with
        | complete hc hl => exact ⟨_, .complete (.cons hg hc) (Nat.succ_le_succ hl)⟩
        | failed hc hl hf =>
          rw [List.append_assoc] at hf
          exact ⟨_, .failed (.cons hg hc) (Nat.succ_lt_succ hl) hf⟩
        | endless hc hl => exact ⟨_, .endless (.cons hg hc) (congrArg (· + 1) hl)⟩

/-- A walk ends in one of these ways, and in no other. -/
theorem walkFrom_eq_iff {limit : Nat} {walk : Walk} :
    walkFrom client milestone limit url [] earlier [] = walk ↔
      Ends client milestone limit earlier url walk := by
  refine ⟨?_, Ends.eq_walkFrom⟩
  rintro rfl
  obtain ⟨walk, hw⟩ := exists_ends client milestone limit earlier url
  rw [hw.eq_walkFrom]
  exact hw

/-- The first request on a chain is the one for its start. -/
theorem head?_requests (hc : Chain client earlier next? pages last?) :
    (pages.map Page.request ++ (last?.map Request.plain).toList).head? =
      next?.map Request.plain := by
  cases hc with
  | nil => cases next? <;> rfl
  | cons => rfl

/-- The requests on a chain are linked, together with the one for the page announced last. -/
theorem linked_of_chain (hc : Chain client earlier next? pages last?) :
    Linked client earlier (pages.map Page.request ++ (last?.map Request.plain).toList) := by
  induction hc with
  | @nil earlier next? =>
    intro before request next after h
    have hlength := congrArg List.length h
    have hone : (next?.map Request.plain).toList.length ≤ 1 := Option.length_toList_le
    simp only [List.map_nil, List.nil_append, List.length_append, List.length_cons] at hlength
    omega
  | cons hg hc ih =>
    rintro (_ | ⟨first, before⟩) request next after h
    · obtain ⟨rfl, hrest⟩ := List.cons_eq_cons.mp h
      rw [List.append_eq] at hrest
      have hhead := head?_requests hc
      rw [hrest, List.head?_cons] at hhead
      obtain ⟨url, rfl, rfl⟩ := Option.map_eq_some_iff.mp hhead.symm
      obtain ⟨response, hr, -, -, ha⟩ := hg
      rw [List.append_nil]
      exact ⟨response, url, hr, ha, rfl⟩
    · obtain ⟨rfl, hrest⟩ := List.cons_eq_cons.mp h
      obtain ⟨response, url, hr, ha, hn⟩ := ih before request next after hrest
      rw [List.append_assoc] at hr
      exact ⟨response, url, hr, ha, hn⟩

/-- Requests stay linked without the last ones. -/
theorem Linked.of_append {made more : List Request} (h : Linked client earlier (made ++ more)) :
    Linked client earlier made := by
  rintro before request next after rfl
  exact h before request next (after ++ more) (by simp)

/-- The requests of a walk are linked and start at its address, and there are not too many. -/
theorem Ends.exists_requests {limit : Nat} {walk : Walk} (hlimit : 0 < limit)
    (h : Ends client milestone limit earlier url walk) :
    ∃ made, walk.requests = earlier ++ made ∧ made.length ≤ limit ∧
      made.head? = some (.plain url) ∧ Linked client earlier made := by
  cases h with
  | @complete pages hc hl =>
    have hhead := head?_requests hc
    have hlinked := linked_of_chain hc
    rw [Option.map_none, Option.toList_none, List.append_nil] at hhead hlinked
    exact ⟨_, rfl, by rwa [List.length_map], hhead, hlinked⟩
  | @failed pages bad error hc hl hf =>
    refine ⟨_, List.append_assoc _ _ _, ?_, head?_requests hc, linked_of_chain hc⟩
    rw [List.length_append, List.length_map, List.length_singleton]
    exact hl
  | @endless pages next hc hl =>
    have hhead := head?_requests hc
    have hlinked := (linked_of_chain hc).of_append
    have hne : pages.map Page.request ≠ [] := by
      rw [← List.length_pos_iff, List.length_map, hl]
      exact hlimit
    rw [List.head?_append_of_ne_nil _ hne] at hhead
    exact ⟨_, rfl, by rw [List.length_map, hl], hhead, hlinked⟩

end Run

/-- A walk of at most `limit` pages from an address on misses nothing, and it ends at the
first obstacle. -/
structure Thorough (client : Client) (earlier : List Request) (url milestone : String)
    (limit : Nat) (walk : Walk) : Prop where
  /-- The requests start at the address, and each asks for the page announced before. -/
  requests : ∃ made, walk.requests = earlier ++ made ∧ made.length ≤ limit ∧
    made.head? = some (.plain url) ∧ Linked client earlier made
  /-- The walk succeeds exactly if the chain of good pages ends in time, and it finds all
  issues of the milestone in their order. -/
  found : ∀ issues, walk.result = .ok issues ↔
    ∃ pages, Chain client earlier (some url) pages none ∧ pages.length ≤ limit ∧
      issues = issuesOf milestone pages
  /-- Otherwise it fails at the first page that is not good, without a further request, or
  because the chain is too long. -/
  failed : ∀ error, walk.result = .error error ↔
    (∃ pages bad, Chain client earlier (some url) pages (some bad) ∧ pages.length < limit ∧
      Fails client (earlier ++ pages.map Page.request) bad error ∧
      walk.requests = earlier ++ pages.map Page.request ++ [.plain bad]) ∨
    error = .tooManyPages limit ∧ ∃ pages next,
      Chain client earlier (some url) pages (some next) ∧ pages.length = limit
  /-- The chain is too long exactly if as many good pages as allowed announce a next one. -/
  endless : walk.result = .error (.tooManyPages limit) ↔
    ∃ pages next, Chain client earlier (some url) pages (some next) ∧ pages.length = limit

section Walk

variable {client : Client} {earlier : List Request} {url milestone : String}

/-- A walk reads at most 100 pages. -/
theorem walk_eq_iff {other : Walk} :
    walk client earlier url milestone = other ↔
      Ends client milestone maxPages earlier url other :=
  walkFrom_eq_iff

/-- A walk succeeds exactly if the chain of good pages ends in time. -/
theorem result_walk_eq_ok {issues : List Issue} :
    (walk client earlier url milestone).result = .ok issues ↔
      ∃ pages, Chain client earlier (some url) pages none ∧ pages.length ≤ maxPages ∧
        issues = issuesOf milestone pages := by
  constructor
  · have hends := walk_eq_iff.mp (Eq.refl (walk client earlier url milestone))
    generalize walk client earlier url milestone = walk at hends
    intro h
    cases hends with
    | complete hc hl =>
      cases h
      exact ⟨_, hc, hl, rfl⟩
    | failed => cases h
    | endless => cases h
  · rintro ⟨pages, hc, hl, rfl⟩
    rw [walk_eq_iff.mpr (.complete hc hl)]

/-- A walk fails exactly if a page in time is not good or the chain is too long. -/
theorem result_walk_eq_error {error : FetchError} :
    (walk client earlier url milestone).result = .error error ↔
      (∃ pages bad, Chain client earlier (some url) pages (some bad) ∧
        pages.length < maxPages ∧ Fails client (earlier ++ pages.map Page.request) bad error ∧
        (walk client earlier url milestone).requests =
          earlier ++ pages.map Page.request ++ [.plain bad]) ∨
      error = .tooManyPages maxPages ∧ ∃ pages next,
        Chain client earlier (some url) pages (some next) ∧ pages.length = maxPages := by
  constructor
  · have hends := walk_eq_iff.mp (Eq.refl (walk client earlier url milestone))
    generalize walk client earlier url milestone = walk at hends
    intro h
    cases hends with
    | complete => cases h
    | failed hc hl hf =>
      cases h
      exact .inl ⟨_, _, hc, hl, hf, rfl⟩
    | endless hc hl =>
      cases h
      exact .inr ⟨rfl, _, _, hc, hl⟩
  · rintro (⟨pages, bad, hc, hl, hf, -⟩ | ⟨rfl, pages, next, hc, hl⟩)
    · rw [walk_eq_iff.mpr (.failed hc hl hf)]
    · rw [walk_eq_iff.mpr (.endless hc hl)]

/-- Every walk is thorough. -/
theorem thorough_walk :
    Thorough client earlier url milestone maxPages (walk client earlier url milestone) where
  requests := (walk_eq_iff.mp rfl).exists_requests (by decide)
  found _ := result_walk_eq_ok
  failed _ := result_walk_eq_error
  endless := by
    rw [result_walk_eq_error]
    constructor
    · rintro (⟨pages, bad, -, -, hf, -⟩ | ⟨-, h⟩)
      · cases hf
      · exact h
    · exact fun h => .inr ⟨rfl, h⟩

/-- A walk adds no more than 100 requests to those made before it. -/
theorem length_requests_walk (client : Client) (earlier : List Request) (url milestone : String) :
    (walk client earlier url milestone).requests.length ≤ earlier.length + maxPages := by
  have hwalk : Thorough client earlier url milestone maxPages
      (walk client earlier url milestone) := thorough_walk
  obtain ⟨made, hmade, hlength, -, -⟩ := hwalk.requests
  rw [hmade, List.length_append]
  exact Nat.add_le_add_left hlength earlier.length

end Walk

section Collect

variable {client : Client} {repository : Repository} {milestone : String}

/-- Release notes are those of two walks, and both have to succeed. -/
theorem result_collect_eq_ok {notes : Notes} :
    (collect client repository milestone).result = .ok notes ↔
      (walk client [] (repository.issuesUrl enhancementLabel) milestone).result =
          .ok notes.enhancements ∧
        (walk client (walk client [] (repository.issuesUrl enhancementLabel) milestone).requests
          (repository.issuesUrl bugLabel) milestone).result = .ok notes.bugfixes := by
  rw [collect]
  generalize walk client [] (repository.issuesUrl enhancementLabel) milestone = first
  cases first.result with
  | error error => simp
  | ok enhancements =>
    dsimp only
    cases (walk client first.requests (repository.issuesUrl bugLabel) milestone).result with
    | error error => simp [Except.map]
    | ok bugfixes =>
      cases notes
      simp [Except.map]

/-- If the first walk fails, there is no second one. -/
theorem collect_of_error {error : FetchError}
    (h : (walk client [] (repository.issuesUrl enhancementLabel) milestone).result =
      .error error) :
    (collect client repository milestone).result = .error error ∧
      (collect client repository milestone).requests =
        (walk client [] (repository.issuesUrl enhancementLabel) milestone).requests := by
  simp only [collect, h, and_self]

/-- The requests for release notes are those of two walks at most. -/
theorem length_requests_collect :
    (collect client repository milestone).requests.length ≤ maxPages + maxPages := by
  have hfirst :=
    length_requests_walk client [] (repository.issuesUrl enhancementLabel) milestone
  rw [List.length_nil, Nat.zero_add] at hfirst
  rw [collect]
  generalize walk client [] (repository.issuesUrl enhancementLabel) milestone = first at hfirst
  cases first.result with
  | error error => exact Nat.le_add_right_of_le hfirst
  | ok enhancements =>
    have hsecond :=
      length_requests_walk client first.requests (repository.issuesUrl bugLabel) milestone
    exact hsecond.trans (Nat.add_le_add_right hfirst maxPages)

end Collect

/-- Walking over pages is complete and bounded. At most 100 requests are made, for the
first page and then for each page that the one before announces. All issues of the milestone
are found if the chain of good pages ends by then, and otherwise the walk fails at the first
page that is not good or for want of an end. Release notes take two such walks, and the
second one is made only if the first one succeeds. -/
theorem paging_is_complete_and_bounded (client : Client) :
    (∀ earlier url milestone,
      Thorough client earlier url milestone 100 (walk client earlier url milestone)) ∧
    ∀ (repository : Repository) (milestone : String) (first second : Walk),
      walk client [] (repository.issuesUrl "enhancement") milestone = first →
      walk client first.requests (repository.issuesUrl "bug") milestone = second →
      (∀ notes, (collect client repository milestone).result = .ok notes ↔
        first.result = .ok notes.enhancements ∧ second.result = .ok notes.bugfixes) ∧
      (∀ error, first.result = .error error →
        (collect client repository milestone).result = .error error ∧
          (collect client repository milestone).requests = first.requests) ∧
      (collect client repository milestone).requests.length ≤ 200 := by
  refine ⟨fun earlier url milestone => thorough_walk, ?_⟩
  rintro repository milestone _ _ rfl rfl
  exact ⟨fun notes => result_collect_eq_ok, fun error h => collect_of_error h,
    length_requests_collect⟩

/-- An issue of a milestone. -/
def sampleIssue : Issue := ⟨7, "Add", some ⟨"1.4"⟩⟩

/-- A page with that issue. -/
def samplePage : Page := ⟨"p", [sampleIssue]⟩

/-- A response with that issue. -/
def sampleResponse : Response where
  status := 200
  headers := []
  body := Text.bytes
    "[\x7b\"number\":7,\"title\":\"Add\",\"milestone\":\x7b\"title\":\"1.4\"\x7d\x7d]"

/-- A server whose pages all have that issue. It announces a next page until it has answered
`count` requests. -/
def listingClient (count : Nat) : Client := fun earlier _ =>
  ⟨⟨0⟩, .ok (if earlier.length + 1 < count then
    sampleResponse.withHeader "Link" "<p>; rel=\"next\"" else sampleResponse)⟩

/-- Each page of the server is good. -/
theorem good_listingClient (count : Nat) (earlier : List Request) :
    Good (listingClient count) earlier samplePage
      (if earlier.length + 1 < count then some "p" else none) := by
  have hp : Issue.parsePage sampleResponse.body = .ok [sampleIssue] := by decide +kernel
  rw [Good, listingClient]
  split
  · refine ⟨_, rfl, rfl, hp, announces_iff.mpr ?_⟩
    decide +kernel
  · exact ⟨_, rfl, rfl, hp, announces_iff.mpr (by decide +kernel)⟩

/-- The pages of the server form a chain. -/
theorem chain_listingClient {count : Nat} (length : Nat) {earlier : List Request}
    (h : earlier.length + length < count) :
    Chain (listingClient count) earlier (some "p") (List.replicate (length + 1) samplePage)
      (if earlier.length + length + 1 < count then some "p" else none) := by
  induction length generalizing earlier with
  | zero => exact .cons (good_listingClient count earlier) .nil
  | succ length ih =>
    have hgood := good_listingClient count earlier
    rw [if_pos (by omega)] at hgood
    have hrest := @ih (earlier ++ [samplePage.request]) (by simp; omega)
    rw [List.length_append, List.length_singleton] at hrest
    rw [show earlier.length + (length + 1) = earlier.length + 1 + length by omega]
    exact .cons hgood hrest

/-- A server that never answers. -/
def silentClient : Client := fun _ _ => ⟨⟨0⟩, .error "lost"⟩

/-- A list of exactly 100 pages is read to its end, and one more page is too many. If there
is no answer about enhancements, bugs are not asked for. -/
theorem paging_is_complete_and_bounded_sample :
    (walk (listingClient 100) [] "p" "1.4").result = .ok (List.replicate 100 sampleIssue) ∧
      (walk (listingClient 101) [] "p" "1.4").result = .error (.tooManyPages 100) ∧
      (collect silentClient ⟨"b", "o", "n"⟩ "1.4").result = .error (.transport "lost") ∧
      (collect silentClient ⟨"b", "o", "n"⟩ "1.4").requests =
        [.plain "b/repos/o/n/issues?state=closed&direction=asc&labels=enhancement"] := by
  have hpage : issuesOf "1.4" (List.replicate 100 samplePage) =
      List.replicate 100 sampleIssue := by decide +kernel
  have hlost := ((paging_is_complete_and_bounded silentClient).2 ⟨"b", "o", "n"⟩ "1.4"
    _ _ rfl rfl).2.1 (.transport "lost") rfl
  refine ⟨?_, ?_, hlost.1, ?_⟩
  · rw [((paging_is_complete_and_bounded (listingClient 100)).1 [] "p" "1.4").found]
    exact ⟨_, chain_listingClient 99 (by decide), by rw [List.length_replicate], hpage.symm⟩
  · rw [((paging_is_complete_and_bounded (listingClient 101)).1 [] "p" "1.4").endless]
    exact ⟨_, _, chain_listingClient 99 (by decide), by rw [List.length_replicate]⟩
  · rw [hlost.2]
    decide +kernel

end ReleasePage.Issues
