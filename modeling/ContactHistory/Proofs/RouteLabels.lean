import ContactHistory.Proofs.RequestCounts
import Mathlib.Data.List.Forall2

namespace ContactHistory

namespace Metrics

namespace Series

variable {α : Type} {start : α} {g : Nat → α → α}

/-- A series that updates leave behind was there before, or began with one of them. -/
theorem mem_foldl_update {marks : List (List String × Nat)} {s : Series α} {labels : List String}
    (h : labels ∈
      (marks.foldl (fun s mark => s.update mark.1 start (g mark.2)) s).entries.map Prod.fst) :
    labels ∈ s.entries.map Prod.fst ∨ labels ∈ marks.map Prod.fst := by
  induction marks generalizing s with
  | nil => exact .inl h
  | cons mark marks ih =>
    rw [List.map_cons, List.mem_cons]
    rcases ih h with hbefore | hlater
    · exact (mem_change hbefore).imp_right .inl
    · exact .inr (.inr hlater)

end Series

theorem foldl_record (marks : List (List String × Nat)) (s : Series Nat × Series Histogram) :
    marks.foldl record s =
      (marks.foldl (fun s mark => s.update mark.1 0 (· + 1)) s.1,
        marks.foldl (fun s mark => s.update mark.1 (.empty requestBounds)
          (.observe requestBounds mark.2)) s.2) := by
  induction marks generalizing s with
  | nil => rfl
  | cons mark marks ih => exact ih _

end Metrics

namespace Http

open Metrics

/-- Two exchanges have the same method, the same route or none, and the same status. -/
structure Exchange.Agree (x y : Exchange) : Prop where
  method : x.arrival.request.method = y.arrival.request.method
  route : Route.ofPath? x.arrival.request.path = Route.ofPath? y.arrival.request.path
  status : x.status? = y.status?

theorem Exchange.Agree.labels? {x y : Exchange} (h : x.Agree y) : x.labels? = y.labels? := by
  rw [Exchange.labels?, Exchange.labels?, routeLabel_eq, routeLabel_eq, h.method, h.route, h.status]

theorem filterMap_labels?_eq {xs ys : List Exchange} (h : List.Forall₂ Exchange.Agree xs ys) :
    xs.filterMap Exchange.labels? = ys.filterMap Exchange.labels? := by
  induction h with
  | nil => rfl
  | cons hxy _ ih => rw [List.filterMap_cons, List.filterMap_cons, hxy.labels?, ih]

theorem routeLabel_mem (path : String) :
    routeLabel path ∈ unmatched :: Route.all.map Route.template := by
  rw [routeLabel_eq]
  cases Route.ofPath? path with
  | none => exact List.mem_cons_self
  | some route =>
    have hroute : route ∈ Route.all := by cases route <;> decide
    exact List.mem_cons_of_mem _ (List.mem_map_of_mem hroute)

theorem Exchange.exists_of_labels? {x : Exchange} {labels : List String}
    (h : x.labels? = some labels) :
    ∃ route ∈ unmatched :: Route.all.map Route.template, ∃ status, x.status? = some status ∧
      labels = requestLabels serviceName x.arrival.request.method route status := by
  obtain ⟨status, hstatus, hlabels⟩ := Option.map_eq_some_iff.mp h
  exact ⟨_, routeLabel_mem x.arrival.request.path, status, hstatus, hlabels.symm⟩

namespace Front

variable {limit : Nat}

theorem map_fst_marks_counted (xs : List Exchange) :
    (xs.filterMap (counted limit).mark?).map Prod.fst = xs.filterMap Exchange.labels? := by
  have hlabels (x : Exchange) : ((counted limit).mark? x).map Prod.fst = x.labels? := by
    rw [map_fst_mark?]
    exact if_pos rfl
  rw [List.map_filterMap]
  exact List.filterMap_congr fun x _ => hlabels x

/-- What the service counts depends on the labels of the responses alone. -/
theorem requests_serve_counted (arrivals : List Arrival) (m : Metrics) :
    ((counted limit).serve arrivals m).2.requests =
      (((counted limit).serve arrivals m).1.filterMap Exchange.labels?).foldl
        (fun s labels => s.update labels 0 (· + 1)) m.requests := by
  have hhttp := congrArg Prod.fst ((counted limit).http_serve arrivals m)
  rw [foldl_record] at hhttp
  rw [← map_fst_marks_counted, List.foldl_map]
  exact hhttp

/-- A series of requests that the service leaves behind was there before, or has the labels of a
response. -/
theorem mem_serve_counted {arrivals : List Arrival} {m : Metrics} {labels : List String}
    (h : labels ∈ ((counted limit).serve arrivals m).2.requests.entries.map Prod.fst ∨
      labels ∈ ((counted limit).serve arrivals m).2.requestSeconds.entries.map Prod.fst) :
    labels ∈ m.requests.entries.map Prod.fst ∨ labels ∈ m.requestSeconds.entries.map Prod.fst ∨
      ∃ x ∈ ((counted limit).serve arrivals m).1, x.labels? = some labels := by
  have hhttp := (counted limit).http_serve arrivals m
  rw [foldl_record] at hhttp
  have hrequests : ((counted limit).serve arrivals m).2.requests = _ := congrArg Prod.fst hhttp
  have hseconds : ((counted limit).serve arrivals m).2.requestSeconds = _ := congrArg Prod.snd hhttp
  rw [hrequests, hseconds] at h
  rw [← List.mem_filterMap, ← map_fst_marks_counted]
  rcases h with h | h
  · exact (Series.mem_foldl_update (g := fun _ n => n + 1) h).imp_right .inr
  · exact .inr (Series.mem_foldl_update h)

end Front

/-- A series of requests is labelled by the template of a route, or as unmatched. Exchanges that
agree in their methods, routes and statuses leave the same series behind, whatever texts stand in
the paths, and whatever else the requests hold. -/
theorem requests_eq_of_agree (limit : Nat) (first second : List Arrival) (m : Metrics) :
    let served (arrivals : List Arrival) := (Front.counted limit).serve arrivals m
    (∀ arrivals labels, labels ∈ (served arrivals).2.requests.entries.map Prod.fst ∨
        labels ∈ (served arrivals).2.requestSeconds.entries.map Prod.fst →
      labels ∈ m.requests.entries.map Prod.fst ∨ labels ∈ m.requestSeconds.entries.map Prod.fst ∨
      ∃ x ∈ (served arrivals).1, ∃ route ∈ unmatched :: Route.all.map Route.template, ∃ status,
        x.status? = some status ∧
          labels = requestLabels serviceName x.arrival.request.method route status) ∧
    (List.Forall₂ Exchange.Agree (served first).1 (served second).1 →
      (served first).2.requests = (served second).2.requests) := by
  intro served
  refine ⟨fun arrivals labels h => ?_, fun h => ?_⟩
  · refine (Front.mem_serve_counted h).imp_right (Or.imp_right ?_)
    rintro ⟨x, hx, hlabels⟩
    exact ⟨x, hx, Exchange.exists_of_labels? hlabels⟩
  · rw [Front.requests_serve_counted, Front.requests_serve_counted, filterMap_labels?_eq h]

/-- Two contacts that are not found, two paths without a route and two refused bodies leave the same
three series behind, none of which holds an address. -/
theorem requests_eq_of_agree_addresses :
    let first := [
      Arrival.ofRequest ⟨"GET", "/v1/subjects/0xabc/contacts/alice", none, [], []⟩,
      .ofRequest ⟨"GET", "/v1/subjects/0xabc", none, [], []⟩,
      .ofRequest ⟨"POST", "/v1/contacts/aggregate", none, [], [123, 125]⟩]
    let second := [
      Arrival.ofRequest
        ⟨"GET", "/v1/subjects/%20b/contacts/%2F", some "sources=x", [("a", "b")], []⟩,
      .ofRequest ⟨"GET", "/v1/subjects/0xabc/contacts/bob/", some "0xabc", [], [120]⟩,
      .ofRequest ⟨"POST", "/v1/contacts/aggregate", none, [("content-type", "text/html")], []⟩]
    let served (arrivals : List Arrival) := (Front.counted bodyLimit).serve arrivals .empty
    List.Forall₂ Exchange.Agree (served first).1 (served second).1 ∧
      (served first).2.requests = (served second).2.requests ∧
      (served first).2.requests.entries =
        [(["cb-contacts", "/v1/subjects/:subject/contacts/:counterparty", "GET", "404"], 1),
          (["cb-contacts", "unmatched", "GET", "404"], 1),
          (["cb-contacts", "/v1/contacts/aggregate", "POST", "415"], 1)] := by
  intro first second served
  have hagree : List.Forall₂ Exchange.Agree (served first).1 (served second).1 := by
    refine .cons ⟨rfl, ?_, ?_⟩ (.cons ⟨rfl, ?_, ?_⟩ (.cons ⟨rfl, ?_, ?_⟩ .nil)) <;> decide +kernel
  exact ⟨hagree, (requests_eq_of_agree bodyLimit first second .empty).2 hagree, by decide +kernel⟩

end Http
end ContactHistory
