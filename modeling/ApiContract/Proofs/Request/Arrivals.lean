import ApiContract.Request.Basic

/-!
# What arrives first

A request begins with its target, and query strings, pairs of the query, headers and bodies
are added to it one after the other.  Under a key of the query or the name of a header it
then has what arrived first.  The headers of cookies are joined to one text and taken apart
again, and the cookie of a name is the first one in the order in which the headers arrived.
-/

namespace ApiContract

/-! ## Names, marks and lists of pairs -/

theorem Ascii.equalIgnoringCase_iff {a b : String} :
    equalIgnoringCase a b = true ↔ lowercase a = lowercase b := by
  simp [equalIgnoringCase]

/-- A text is split where the mark first stands. -/
theorem splitFirst_append {mark : Char} {before after : List Char} (h : mark ∉ before) :
    splitFirst mark (before ++ mark :: after) = (before, after) := by
  have hbefore : ∀ c ∈ before, decide (c ≠ mark) = true := by
    intro c hc
    simpa using ne_of_mem_of_not_mem hc h
  rw [splitFirst, List.takeWhile_append_of_pos hbefore, List.dropWhile_append_of_pos hbefore]
  simp

/-- Joined lists are searched one after the other. -/
theorem lookup_flatMap {α : Type} (xs : List α) (entries : α → List (String × String))
    (name : String) :
    (xs.flatMap entries).lookup name = xs.findSome? fun x => (entries x).lookup name := by
  induction xs with
  | nil => rfl
  | cons x xs ih =>
      rw [List.flatMap_cons, List.lookup_append, ih, List.findSome?_cons]
      cases (entries x).lookup name <;> rfl

/-! ## Arrivals -/

/-- Something that is added to a request. -/
inductive Arrival where
  | query (text : String)
  | queryParameter (key value : String)
  | header (name value : String)
  | body (bytes : List UInt8)

namespace Arrival

/-- The pairs of the query that arrive. -/
def pairs : Arrival → List (String × String)
  | query text => Form.pairs text
  | queryParameter key value => [(key, value)]
  | header _ _ | body _ => []

/-- The value that arrives for a header, in whatever case its name is written. -/
def header? (name : String) : Arrival → Option String
  | header other value => if Ascii.equalIgnoringCase other name then some value else none
  | query _ | queryParameter _ _ | body _ => none

end Arrival

namespace Request

variable {request : Request} {name : String}

/-- Adds what arrives. -/
def add (request : Request) : Arrival → Request
  | .query text => request.withQuery text
  | .queryParameter key value => request.withQueryParameter key value
  | .header name value => request.withHeader name value
  | .body bytes => request.withBody bytes

/-- Adds what arrives, one after the other. -/
def addAll (request : Request) (arrivals : List Arrival) : Request :=
  arrivals.foldl add request

/-! ## The query -/

theorem lookup_putFirst (key value name : String) (map : List (String × String)) :
    (putFirst key value map).lookup name = (map.lookup name).or ([(key, value)].lookup name) := by
  by_cases hknown : (map.lookup key).isSome = true
  · rw [putFirst, if_pos hknown]
    by_cases hname : name = key
    · obtain ⟨old, hold⟩ := Option.isSome_iff_exists.mp hknown
      simp [hname, hold]
    · simp [List.lookup_cons, beq_false_of_ne hname]
  · rw [putFirst, if_neg hknown, List.lookup_append]

theorem queryParameter?_withQueryParameter (request : Request) (key value name : String) :
    (request.withQueryParameter key value).queryParameter? name =
      (request.queryParameter? name).or ([(key, value)].lookup name) :=
  lookup_putFirst key value name request.query

/-- Of the pairs that are added to the query, those count whose keys it did not have. -/
theorem foldl_withQueryParameter (request : Request) (pairs : List (String × String)) :
    let added := pairs.foldl (fun request p => request.withQueryParameter p.1 p.2) request
    added.headers = request.headers ∧
      ∀ name, added.queryParameter? name =
        (request.queryParameter? name).or (pairs.lookup name) := by
  induction pairs generalizing request with
  | nil => simp
  | cons p pairs ih =>
      obtain ⟨hheaders, hlookup⟩ := ih (request.withQueryParameter p.1 p.2)
      refine ⟨hheaders, fun name => ?_⟩
      rw [List.foldl_cons, hlookup, queryParameter?_withQueryParameter, Option.or_assoc,
        ← List.lookup_append, List.singleton_append]

theorem queryParameter?_add (request : Request) (arrival : Arrival) (name : String) :
    (request.add arrival).queryParameter? name =
      (request.queryParameter? name).or (arrival.pairs.lookup name) := by
  cases arrival with
  | query text => exact (request.foldl_withQueryParameter _).2 name
  | queryParameter key value => exact request.queryParameter?_withQueryParameter key value name
  | header other value =>
      have hquery : (request.withHeader other value).query = request.query := by
        rw [withHeader]
        split <;> rfl
      simp [add, queryParameter?, hquery, Arrival.pairs]
  | body bytes => simp [add, queryParameter?, withBody, Arrival.pairs]

/-- Under a key of the query stands what was there, or else what arrives first. -/
theorem queryParameter?_addAll (request : Request) (arrivals : List Arrival) (name : String) :
    (request.addAll arrivals).queryParameter? name =
      (request.queryParameter? name).or ((arrivals.flatMap Arrival.pairs).lookup name) := by
  induction arrivals generalizing request with
  | nil => simp [addAll]
  | cons arrival arrivals ih =>
      refine (ih (request.add arrival)).trans ?_
      rw [queryParameter?_add, Option.or_assoc, ← List.lookup_append, List.flatMap_cons]

/-! ## Headers -/

theorem lowercase_cookie : Ascii.lowercase "cookie" = "cookie" := by decide

theorem lookup_joinValue (key value name : String) (map : List (String × String)) :
    (joinValue key value map).lookup name =
      if name = key then
        Option.merge (fun old new => old ++ "; " ++ new) (map.lookup name) (some value)
      else map.lookup name := by
  induction map with
  | nil =>
      by_cases hname : name = key
      · simp [joinValue, hname, Option.merge]
      · simp [joinValue, hname, List.lookup_cons, beq_false_of_ne hname]
  | cons entry map ih =>
      obtain ⟨other, old⟩ := entry
      by_cases hother : other = key
      · by_cases hname : name = key
        · simp [joinValue, hother, hname, Option.merge]
        · simp [joinValue, hother, hname, List.lookup_cons, beq_false_of_ne hname]
      · rw [joinValue, if_neg hother, List.lookup_cons, List.lookup_cons]
        by_cases hname : name = other
        · simp [hname, hother]
        · simpa [beq_false_of_ne hname] using ih

/-- Only a header changes the headers. -/
theorem headers_add {arrival : Arrival} (h : ∀ other value, arrival ≠ .header other value)
    (request : Request) : (request.add arrival).headers = request.headers := by
  cases arrival with
  | query text => exact (request.foldl_withQueryParameter _).1
  | queryParameter key value => rfl
  | header other value => exact absurd rfl (h other value)
  | body bytes => rfl

theorem header?_withHeader_cookie {other : String} (hother : Ascii.lowercase other = "cookie")
    (request : Request) (value name : String) :
    (request.withHeader other value).header? name =
      if Ascii.lowercase name = "cookie" then
        Option.merge (fun old new => old ++ "; " ++ new) (request.header? name) (some value)
      else request.header? name := by
  rw [withHeader, if_pos hother, header?, lookup_joinValue, hother]
  rfl

theorem header?_withHeader {other : String} (hother : Ascii.lowercase other ≠ "cookie")
    (request : Request) (value name : String) :
    (request.withHeader other value).header? name =
      (request.header? name).or ((Arrival.header other value).header? name) := by
  have hsame : [(Ascii.lowercase other, value)].lookup (Ascii.lowercase name) =
      (Arrival.header other value).header? name := by
    by_cases hname : Ascii.lowercase name = Ascii.lowercase other
    · simp [Arrival.header?, Ascii.equalIgnoringCase_iff, hname]
    · simp [Arrival.header?, Ascii.equalIgnoringCase_iff, Ne.symm hname, List.lookup_cons,
        beq_false_of_ne hname]
  rw [withHeader, if_neg hother, header?, lookup_putFirst, hsame]
  rfl

/-- A header other than that of cookies keeps its first value. -/
theorem header?_add (hname : Ascii.equalIgnoringCase name "cookie" = false)
    (request : Request) (arrival : Arrival) :
    (request.add arrival).header? name = (request.header? name).or (arrival.header? name) := by
  have hcookie : Ascii.lowercase name ≠ "cookie" := by
    rw [ne_eq, ← lowercase_cookie, ← Ascii.equalIgnoringCase_iff, hname]
    exact Bool.false_ne_true
  cases arrival with
  | header other value =>
      by_cases hother : Ascii.lowercase other = "cookie"
      · have hdiffers : Ascii.equalIgnoringCase other name = false := by
          rw [← Bool.not_eq_true, Ascii.equalIgnoringCase_iff, hother]
          exact Ne.symm hcookie
        rw [add, header?_withHeader_cookie hother, if_neg hcookie, Arrival.header?, hdiffers]
        simp
      · exact header?_withHeader hother request value name
  | query _ | queryParameter _ _ | body _ =>
      rw [header?, headers_add (by simp), Arrival.header?, Option.or_none]
      rfl

theorem header?_addAll (hname : Ascii.equalIgnoringCase name "cookie" = false)
    (request : Request) (arrivals : List Arrival) :
    (request.addAll arrivals).header? name =
      (request.header? name).or (arrivals.findSome? (·.header? name)) := by
  induction arrivals generalizing request with
  | nil => simp [addAll]
  | cons arrival arrivals ih =>
      refine (ih (request.add arrival)).trans ?_
      rw [header?_add hname, Option.or_assoc, List.findSome?_cons]
      cases arrival.header? name <;> rfl

/-- Another header of cookies is joined to what is there. -/
theorem header?_cookie_add (request : Request) (arrival : Arrival) :
    (request.add arrival).header? "cookie" =
      Option.merge (fun old new => old ++ "; " ++ new) (request.header? "cookie")
        (arrival.header? "cookie") := by
  have hnone {arrival : Arrival} (h : ∀ other value, arrival ≠ .header other value) :
      (request.add arrival).header? "cookie" =
        Option.merge (fun old new => old ++ "; " ++ new) (request.header? "cookie") none := by
    rw [header?, headers_add h, Option.merge_none_right]
    rfl
  cases arrival with
  | header other value =>
      by_cases hother : Ascii.lowercase other = "cookie"
      · have hsame : Ascii.equalIgnoringCase other "cookie" = true := by
          rw [Ascii.equalIgnoringCase_iff, hother, lowercase_cookie]
        rw [add, header?_withHeader_cookie hother, if_pos lowercase_cookie, Arrival.header?,
          if_pos hsame]
      · have hdiffers : ¬Ascii.equalIgnoringCase other "cookie" = true := by
          rwa [Ascii.equalIgnoringCase_iff, lowercase_cookie]
        rw [add, header?_withHeader hother, Arrival.header?, if_neg hdiffers,
          Option.or_none, Option.merge_none_right]
  | query _ | queryParameter _ _ | body _ => exact hnone (by simp)

/-! ## Cookies -/

/-- The cookies of a request. -/
def cookies (request : Request) : List (String × String) :=
  (request.header? "cookie").elim [] cookiePairs

theorem cookie?_eq_lookup (request : Request) (name : String) :
    request.cookie? name = request.cookies.lookup name := by
  rw [cookie?, cookies]
  cases request.header? "cookie" <;> rfl

theorem cookiePair?_space (text : List Char) : cookiePair? (' ' :: text) = cookiePair? text := by
  have htrim : Blank.trim (' ' :: text) = Blank.trim text := rfl
  rw [cookiePair?, htrim]
  rfl

/-- Joined headers are taken apart as the headers are. -/
theorem cookiePairs_join (old new : String) :
    cookiePairs (old ++ "; " ++ new) = cookiePairs old ++ cookiePairs new := by
  have hjoined : (old ++ "; " ++ new).toList = old.toList ++ ';' :: ' ' :: new.toList := by
    simp
  -- the blank after the semicolon is part of the next piece, and is trimmed
  have hblank : ((' ' :: new.toList).splitOn ';').filterMap cookiePair? =
      (new.toList.splitOn ';').filterMap cookiePair? := by
    rw [List.splitOn, List.splitOnP_cons_eq_if_modifyHead, if_neg (by decide)]
    cases hpieces : new.toList.splitOnP (· == ';') with
    | nil => exact absurd hpieces (List.splitOnP_ne_nil _ _)
    | cons first rest =>
        rw [List.modifyHead_cons, List.splitOn, hpieces, List.filterMap_cons,
          List.filterMap_cons, cookiePair?_space]
  rw [cookiePairs, hjoined, List.splitOn, List.splitOnP_append_cons _ _ (by decide),
    List.filterMap_append]
  exact congrArg _ hblank

theorem cookies_add (request : Request) (arrival : Arrival) :
    (request.add arrival).cookies =
      request.cookies ++ (arrival.header? "cookie").elim [] cookiePairs := by
  rw [cookies, header?_cookie_add, cookies]
  cases request.header? "cookie" with
  | none => cases arrival.header? "cookie" <;> rfl
  | some old =>
      cases arrival.header? "cookie" with
      | none => simp
      | some new => exact cookiePairs_join old new

/-- The cookies of a request are those of all headers of cookies, in the order in which
they arrive. -/
theorem cookies_addAll (request : Request) (arrivals : List Arrival) :
    (request.addAll arrivals).cookies =
      request.cookies ++ (arrivals.filterMap (·.header? "cookie")).flatMap cookiePairs := by
  induction arrivals generalizing request with
  | nil => simp [addAll]
  | cons arrival arrivals ih =>
      refine (ih (request.add arrival)).trans ?_
      rw [cookies_add, List.append_assoc, List.filterMap_cons]
      cases arrival.header? "cookie" with
      | none => rfl
      | some value => rw [List.flatMap_cons]; rfl

/-! ## One cookie -/

/-- A text is a cookie if it is a name, an equals sign and a value, but for blanks at its
ends.  The name has no equals sign. -/
def IsCookie (text : List Char) (name value : String) : Prop :=
  Blank.trim text = name.toList ++ '=' :: value.toList ∧ '=' ∉ name.toList

theorem cookiePair?_eq_some_iff {text : List Char} {name value : String} :
    cookiePair? text = some (name, value) ↔ IsCookie text name value := by
  constructor
  · intro h
    simp only [cookiePair?] at h
    split at h
    · next hmark =>
      obtain ⟨before, after, htext, hbefore⟩ :=
        List.eq_append_cons_of_mem (List.contains_iff_mem.mp hmark)
      rw [htext, splitFirst_append hbefore] at h
      obtain ⟨rfl, rfl⟩ := Prod.mk.inj (Option.some.inj h)
      simpa [IsCookie] using ⟨htext, hbefore⟩
    · cases h
  · rintro ⟨htext, hname⟩
    have hmark : (name.toList ++ '=' :: value.toList).contains '=' = true := by simp
    simp only [cookiePair?, htext, hmark, if_true, splitFirst_append hname,
      String.ofList_toList]

/-- The value that a text has for the cookie of a name. -/
def cookieValue? (name : String) (text : List Char) : Option String :=
  (cookiePair? text).bind fun cookie => if name = cookie.1 then some cookie.2 else none

theorem cookieValue?_eq_some_iff {text : List Char} {name value : String} :
    cookieValue? name text = some value ↔ IsCookie text name value := by
  rw [← cookiePair?_eq_some_iff, cookieValue?]
  cases cookiePair? text with
  | none => simp
  | some cookie =>
      obtain ⟨other, found⟩ := cookie
      simp [eq_comm]

theorem lookup_filterMap_cookiePair? (pieces : List (List Char)) (name : String) :
    (pieces.filterMap cookiePair?).lookup name = pieces.findSome? (cookieValue? name) := by
  induction pieces with
  | nil => rfl
  | cons piece pieces ih =>
      rw [List.filterMap_cons, List.findSome?_cons, cookieValue?]
      cases cookiePair? piece with
      | none => exact ih
      | some cookie =>
          obtain ⟨other, value⟩ := cookie
          by_cases hname : name = other
          · simp [hname]
          · simpa [List.lookup_cons, beq_false_of_ne hname, hname] using ih

/-- The value of a cookie is that of the first text that is a cookie of its name. -/
theorem lookup_cookiePair?_eq_some_iff {pieces : List (List Char)} {name value : String} :
    (pieces.filterMap cookiePair?).lookup name = some value ↔
      ∃ before piece after, pieces = before ++ piece :: after ∧
        (∀ earlier ∈ before, ∀ other, ¬IsCookie earlier name other) ∧
          IsCookie piece name value := by
  have hnone (text : List Char) : cookieValue? name text = none ↔
      ∀ other, ¬IsCookie text name other := by
    rw [Option.eq_none_iff_forall_ne_some]
    simp only [ne_eq, cookieValue?_eq_some_iff]
  rw [lookup_filterMap_cookiePair?, List.findSome?_eq_some_iff]
  simp only [cookieValue?_eq_some_iff, hnone, and_comm]

/-! ## Requests from their target on -/

/-- The pairs of the query in a target: those after its first question mark, if it has
one. -/
def targetPairs (target : String) : List (String × String) :=
  Form.pairs (String.ofList (splitFirst '?' target.toList).2)

theorem queryParameter?_ofTarget (method target name : String) :
    (ofTarget method target).queryParameter? name = (targetPairs target).lookup name := by
  have hempty : Form.pairs "" = [] := by decide
  rw [ofTarget, targetPairs, splitFirst]
  split
  · next htarget =>
    rw [htarget, List.drop_nil, String.ofList_nil, hempty]
    rfl
  · next query htarget =>
    rw [htarget, List.drop_one, List.tail_cons]
    exact (foldl_withQueryParameter _ _).2 name

theorem headers_ofTarget (method target : String) : (ofTarget method target).headers = [] := by
  rw [ofTarget]
  split
  · rfl
  · exact (foldl_withQueryParameter _ _).1

/-- What is looked up in a request is what arrived first.  A key of the query leads to the
first of its values in the target and in all that is added to the query later, and the name
of a header, in any case, to the value that was added first.  The value of a cookie is the
first one that the headers of cookies give it, in the order of the headers and within each
header from the left, as if each of them were the only one and they were searched in turn. -/
theorem lookups_first_arrival (method target : String) (arrivals : List Arrival) :
    let request := (ofTarget method target).addAll arrivals
    let cookieHeaders := arrivals.filterMap (·.header? "cookie")
    (∀ key, request.queryParameter? key =
        (targetPairs target ++ arrivals.flatMap Arrival.pairs).lookup key) ∧
      (∀ name, Ascii.equalIgnoringCase name "cookie" = false →
        request.header? name = arrivals.findSome? (·.header? name)) ∧
      (∀ name value, request.cookie? name = some value ↔
        ∃ before piece after,
          cookieHeaders.flatMap (·.toList.splitOn ';') = before ++ piece :: after ∧
            (∀ earlier ∈ before, ∀ other, ¬IsCookie earlier name other) ∧
              IsCookie piece name value) ∧
      ∀ name, request.cookie? name = cookieHeaders.findSome? fun header =>
        ((ofTarget method target).withHeader "cookie" header).cookie? name := by
  intro request cookieHeaders
  have hheaders (name : String) : (ofTarget method target).header? name = none := by
    rw [header?, headers_ofTarget, List.lookup_nil]
  have hcookies : (ofTarget method target).cookies = [] := by
    rw [cookies, hheaders]
    rfl
  have hall : request.cookies = cookieHeaders.flatMap cookiePairs := by
    rw [cookies_addAll, hcookies, List.nil_append]
  refine ⟨?_, ?_, ?_, ?_⟩
  · intro key
    rw [queryParameter?_addAll, queryParameter?_ofTarget, List.lookup_append]
  · intro name hname
    rw [header?_addAll hname, hheaders, Option.none_or]
  · intro name value
    have hpieces : cookieHeaders.flatMap cookiePairs =
        (cookieHeaders.flatMap (·.toList.splitOn ';')).filterMap cookiePair? :=
      List.filterMap_flatMap.symm
    rw [cookie?_eq_lookup, hall, hpieces, lookup_cookiePair?_eq_some_iff]
  · intro name
    have halone (header : String) :
        ((ofTarget method target).withHeader "cookie" header).cookie? name =
          (cookiePairs header).lookup name := by
      rw [cookie?_eq_lookup]
      have hadded := cookies_add (ofTarget method target) (.header "cookie" header)
      rw [hcookies, List.nil_append] at hadded
      exact congrArg (List.lookup name) hadded
    simp only [halone]
    rw [cookie?_eq_lookup, hall, lookup_flatMap]

/-! ### Pets by tag -/

/-- Headers and pairs of the query, some of them more than once. -/
def tagArrivals : List Arrival :=
  [.header "Content-Type" "text/plain", .header "Cookie" "session=abc; theme=dark",
    .query "tag=d&sort=name", .header "CONTENT-TYPE" "text/html", .body [123, 125],
    .header "cookie" "theme=light; lang=fr;lang", .queryParameter "sort" "age"]

/-- The first values count, also where headers of cookies meet. -/
theorem lookups_first_arrival_tagArrivals :
    Ascii.equalIgnoringCase "content-TYPE" "cookie" = false ∧
      ∃ request, request = (ofTarget "GET" "/pets?tag=a+b&tag=c").addAll tagArrivals ∧
        request.queryParameter? "tag" = some "a b" ∧
          request.queryParameter? "sort" = some "name" ∧
            request.header? "content-TYPE" = some "text/plain" ∧
              request.cookie? "theme" = some "dark" ∧ request.cookie? "lang" = some "fr" := by
  have hname : Ascii.equalIgnoringCase "content-TYPE" "cookie" = false := by decide
  obtain ⟨hquery, hheader, hcookie, hinTurn⟩ :=
    lookups_first_arrival "GET" "/pets?tag=a+b&tag=c" tagArrivals
  refine ⟨hname, _, rfl, ?_, ?_, ?_, ?_, ?_⟩
  · rw [hquery]
    decide +kernel
  · rw [hquery]
    decide +kernel
  · rw [hheader _ hname]
    decide
  · have hother (value : String) : ¬IsCookie "session=abc".toList "theme" value := by
      have hsession : cookiePair? "session=abc".toList = some ("session", "abc") := by decide
      rw [← cookiePair?_eq_some_iff, hsession]
      simp
    exact (hcookie _ _).mpr ⟨["session=abc".toList], " theme=dark".toList,
      ["theme=light".toList, " lang=fr".toList, "lang".toList], by decide,
      by simpa using hother, by decide, by decide⟩
  · rw [hinTurn]
    decide

end Request
end ApiContract
