import ContactHistory.Proofs.Exchanges

namespace ContactHistory

theorem Text.Decimal.ofNat_inj {m n : Nat} (h : ofNat m = ofNat n) : m = n := by
  have hdigits : digits m = digits n := String.ofList_injective h
  have hvalue : Nat.ofDigitChars 10 (digits m) 0 = m := Nat.ofDigitChars_ten_toDigits
  rw [hdigits] at hvalue
  exact hvalue.symm.trans Nat.ofDigitChars_ten_toDigits

namespace Metrics

theorem requestLabels_inj {service method method' route route' : String} {status status' : Nat}
    (h : requestLabels service method route status = requestLabels service method' route' status') :
    method = method' ∧ route = route' ∧ status = status' := by
  simp only [requestLabels, List.cons.injEq, and_true, true_and] at h
  exact ⟨h.2.1, h.1, Text.Decimal.ofNat_inj h.2.2⟩

/-- Both series of requests tell how often each tuple was counted. -/
structure RequestsCount (s : Series Nat × Series Histogram) (past : List (List String)) : Prop where
  requests : s.1.Counts id past
  seconds : s.2.Counts Histogram.count past

namespace RequestsCount

variable {s : Series Nat × Series Histogram} {past : List (List String)}

theorem record (h : RequestsCount s past) {mark : List String × Nat}
    (hapart : Apart (past ++ [mark.1])) :
    RequestsCount (Metrics.record s mark) (past ++ [mark.1]) where
  requests := h.requests.update hapart rfl fun _ => rfl
  seconds := h.seconds.update hapart rfl fun _ => rfl

theorem foldl (h : RequestsCount s past) {marks : List (List String × Nat)}
    (hapart : Apart (past ++ marks.map Prod.fst)) :
    RequestsCount (marks.foldl Metrics.record s) (past ++ marks.map Prod.fst) := by
  induction marks generalizing s past with
  | nil => simpa using h
  | cons mark marks ih =>
    have happend : past ++ (mark :: marks).map Prod.fst =
        (past ++ [mark.1]) ++ marks.map Prod.fst := by simp
    rw [happend] at hapart ⊢
    exact ih (h.record (hapart.of_subset (List.subset_append_left _ _))) hapart

end RequestsCount
end Metrics

namespace Http

open Metrics

/-- The route of a request, as metrics name it; there may be none. -/
def Route.label : Option Route → String
  | some route => route.template
  | none => unmatched

theorem routeLabel_eq (path : String) : routeLabel path = Route.label (Route.ofPath? path) := by
  unfold routeLabel
  cases Route.ofPath? path <;> rfl

theorem Route.label_inj {r s : Option Route} (h : label r = label s) : r = s := by
  have hread (r : Option Route) : all.find? (fun t => t.template = label r) = r := by
    rcases r with - | r
    · decide
    · cases r <;> decide
  have hr := hread r
  rw [h, hread s] at hr
  exact hr.symm

namespace Exchange

/-- The response has a status, and is to a request of a method for a route. -/
def isOf (route : Option Route) (method : String) (status : Nat) (x : Exchange) : Bool :=
  Route.ofPath? x.arrival.request.path = route && x.arrival.request.method = method &&
    x.status? = some status

theorem labels?_eq_some_iff {x : Exchange} {route : Option Route} {method : String} {status : Nat} :
    x.labels? = some (requestLabels serviceName method (Route.label route) status) ↔
      x.isOf route method status = true := by
  simp only [labels?, isOf, Option.map_eq_some_iff, Bool.and_eq_true, decide_eq_true_eq,
    routeLabel_eq]
  constructor
  · rintro ⟨status', hstatus, h⟩
    obtain ⟨hmethod, hroute, rfl⟩ := requestLabels_inj h
    exact ⟨⟨Route.label_inj hroute, hmethod⟩, hstatus⟩
  · rintro ⟨⟨rfl, rfl⟩, hstatus⟩
    exact ⟨status, hstatus, rfl⟩

end Exchange

namespace Front

variable (front : Front)

theorem map_fst_mark? (x : Exchange) :
    (front.mark? x).map Prod.fst = if front.counts x.arrival then x.labels? else none := by
  unfold mark? Exchange.mark?
  split <;> simp [Function.comp_def]

/-- The marks with the labels of a route, a method and a status are as many as the counted
responses of that kind. -/
theorem count_marks (xs : List Exchange) (route : Option Route) (method : String) (status : Nat) :
    ((xs.filterMap front.mark?).map Prod.fst).count
        (requestLabels serviceName method (Route.label route) status) =
      xs.countP fun x => front.counts x.arrival && x.isOf route method status := by
  rw [List.map_filterMap, List.count_eq_countP, List.countP_filterMap]
  refine List.countP_congr fun x _ => ?_
  rw [map_fst_mark?, Bool.and_eq_true, ← Exchange.labels?_eq_some_iff]
  cases front.counts x.arrival <;> cases x.labels? <;> simp

/-- After arrivals at a service that had counted none, the metrics count the marks. -/
theorem requestsCount_serve (arrivals : List Arrival) (m : Metrics)
    (hrequests : m.requests = .empty) (hseconds : m.requestSeconds = .empty)
    (hapart : Apart ((front.serve arrivals m).1.filterMap Exchange.labels?)) :
    RequestsCount (front.serve arrivals m).2.http
      (((front.serve arrivals m).1.filterMap front.mark?).map Prod.fst) := by
  have hstart : RequestsCount m.http [] := by
    rw [http, hrequests, hseconds]
    exact ⟨Series.counts_empty, Series.counts_empty⟩
  rw [http_serve]
  refine hstart.foldl (hapart.of_subset ?_)
  rw [List.nil_append, List.map_filterMap]
  intro labels hlabels
  obtain ⟨x, hx, hmark⟩ := List.mem_filterMap.mp hlabels
  rw [map_fst_mark?] at hmark
  split at hmark
  · exact List.mem_filterMap.mpr ⟨x, hx, hmark⟩
  · cases hmark

end Front

theorem status?_answerDeployed_ne_none (a : Arrival) (m : Metrics) :
    (answerDeployed a m).status? ≠ none := by
  cases h : a.announcesTooMuch with
  | true => simp [(answerDeployed_of_announcesTooMuch h m).1]
  | false =>
    cases h' : a.timesOut with
    | true => simp [(answerDeployed_of_timesOut h' m).1]
    | false =>
      rw [(answerDeployed_of_inTime h h' m).1, Ne, Arrival.answered, Answer.status?,
        Option.map_eq_none_iff, (Service.answer_spec a.service a.clocks a.limit a.request m).1]
      rw [Arrival.timesOut, h, Bool.not_false, Bool.true_and, Bool.or_eq_false_iff] at h'
      simp [h'.1]

/-- Every arrival at the deployed service gets a response. Afterwards the series of a route, a
method and a status tell how many responses of that kind came from the service, where no two tuples
of label values count as one. The other responses are those to requests that announce too large a
body, with status 413, and to requests that are not answered in time, with status 408. -/
theorem responses_counted (arrivals : List Arrival) (m : Metrics)
    (hrequests : m.requests = .empty) (hseconds : m.requestSeconds = .empty)
    (hapart : Apart ((Front.deployed.serve arrivals m).1.filterMap Exchange.labels?)) :
    let exchanges := (Front.deployed.serve arrivals m).1
    let after := (Front.deployed.serve arrivals m).2
    exchanges.map Exchange.arrival = arrivals ∧
    (∀ x ∈ exchanges, x.status? ≠ none ∧
      (x.arrival.announcesTooMuch = true → x.status? = some 413) ∧
      (x.arrival.timesOut = true → x.status? = some 408) ∧
      (x.arrival.announcesTooMuch = false → x.arrival.timesOut = false →
        ∃ before, x.status? = (x.arrival.answered before).status?)) ∧
    (∀ route method status,
      let labels := requestLabels serviceName method (Route.label route) status
      let n := exchanges.countP fun x =>
        !(x.arrival.announcesTooMuch || x.arrival.timesOut) && x.isOf route method status
      after.requests.entries.lookup labels = tally n ∧
        (after.requestSeconds.entries.lookup labels).map Histogram.count = tally n) ∧
    (after.requests.entries.map Prod.fst).Nodup ∧
    (after.requestSeconds.entries.map Prod.fst).Nodup := by
  intro exchanges after
  have hcounts := Front.deployed.requestsCount_serve arrivals m hrequests hseconds hapart
  refine ⟨Front.deployed.map_arrival_serve arrivals m,
    Front.deployed.forall_mem_serve arrivals m fun a m => ?_, fun route method status => ?_,
    hcounts.requests.nodup, hcounts.seconds.nodup⟩
  · exact ⟨status?_answerDeployed_ne_none a m, fun h => (answerDeployed_of_announcesTooMuch h m).1,
      fun h => (answerDeployed_of_timesOut h m).1,
      fun h h' => ⟨m, (answerDeployed_of_inTime h h' m).1⟩⟩
  · have hmarks := Front.deployed.count_marks exchanges route method status
    let labels := requestLabels serviceName method (Route.label route) status
    have hvalue := hcounts.requests.value labels
    have hvalue' := hcounts.seconds.value labels
    rw [hmarks] at hvalue hvalue'
    rw [Option.map_id] at hvalue
    exact ⟨hvalue, hvalue'⟩

/-- The request that announces one byte too many in its body. -/
def announcing : Request :=
  ⟨"POST", "/v1/contacts/aggregate", none,
    [("content-type", "application/json"), ("content-length", "2097153")],
    List.replicate (bodyLimit + 1) 97⟩

def Arrival.ofRequest (r : Request) : Arrival :=
  ⟨⟨⟨.empty, fun _ => pure (.ok .empty)⟩, .all, .ok ()⟩, .still .epoch, "fresh", r⟩

/-- Requests for two subjects count together, and apart from a blank one, from one without a route,
from one that is not let through, and from one over databases that takes 45 seconds. -/
theorem responses_counted_mixed :
    let get (path : String) : Request := ⟨"GET", path, none, [], []⟩
    let databases : Databases := ⟨⟨fun _ _ _ => .ok [], fun _ => .ok [], .ok ()⟩, none⟩
    let slow : Arrival :=
      ⟨⟨databases.aggregator, .all, databases.ready⟩, ⟨.epoch, 1000, fun _ => 2000, 45000000000⟩,
        "slow", get "/v1/subjects/0xabc/contacts"⟩
    let arrivals := slow :: [get "/v1/subjects/0xabc/contacts", get "/v1/subjects/0xdef/contacts",
      get "/v1/subjects/%20/contacts", get "/v1/subjects/", announcing].map Arrival.ofRequest
    let exchanges := (Front.deployed.serve arrivals .empty).1
    let requests := (Front.deployed.serve arrivals .empty).2.requests
    let labels (route : Option Route) (method : String) (status : Nat) :=
      requestLabels serviceName method (Route.label route) status
    Apart (exchanges.filterMap Exchange.labels?) ∧
      exchanges.map Exchange.status? =
        [some 408, some 200, some 200, some 400, some 404, some 413] ∧
      requests.entries.lookup (labels (some .contacts) "GET" 408) = none ∧
      requests.entries.lookup (labels (some .contacts) "GET" 200) = some 2 ∧
      requests.entries.lookup (labels (some .contacts) "GET" 400) = some 1 ∧
      requests.entries.lookup (labels none "GET" 404) = some 1 ∧
      requests.entries.lookup (labels (some .aggregate) "POST" 413) = none := by
  intro get databases slow arrivals exchanges requests labels
  have hapart : Apart (exchanges.filterMap Exchange.labels?) := by decide +kernel
  have hcounted := (responses_counted arrivals .empty rfl rfl hapart).2.2.1
  refine ⟨hapart, by decide +kernel, ?_, ?_, ?_, ?_, ?_⟩
  · exact (hcounted (some .contacts) "GET" 408).1.trans (by decide +kernel)
  · exact (hcounted (some .contacts) "GET" 200).1.trans (by decide +kernel)
  · exact (hcounted (some .contacts) "GET" 400).1.trans (by decide +kernel)
  · exact (hcounted none "GET" 404).1.trans (by decide +kernel)
  · exact (hcounted (some .aggregate) "POST" 413).1.trans (by decide +kernel)

/-- A request that announces too large a body is answered, but it is not counted. -/
theorem announced_response_not_counted :
    let exchanges := (Front.deployed.serve [.ofRequest announcing] .empty).1
    let after := (Front.deployed.serve [.ofRequest announcing] .empty).2
    let labels := requestLabels serviceName "POST" (Route.label (some .aggregate)) 413
    Apart (exchanges.filterMap Exchange.labels?) ∧
      exchanges.countP (·.isOf (some .aggregate) "POST" 413) = 1 ∧
      after.requests.entries.lookup labels ≠ tally 1 ∧
      (after.requestSeconds.entries.lookup labels).map Histogram.count ≠ tally 1 := by
  decide +kernel

end Http
end ContactHistory
