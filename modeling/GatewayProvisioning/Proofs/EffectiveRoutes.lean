import GatewayProvisioning.Proofs.EntryByEntry

/-!
# Effective routes, key by key

Configured routes are extended by a list of additional ones. Under each key the configured route stays
what it is, and only where there is none an additional one counts. A list with a malformed entry, like
no list at all, changes nothing.
-/

namespace GatewayProvisioning

namespace RouteList

/-- What a list adds to configured routes: the routes of its entries, and nothing if there is no list
or if one of its entries is malformed. -/
def added : Option String → Routes
  | none => .empty
  | some list =>
    match read list with
    | .ok m => m
    | .error _ => .empty

theorem added_of_ok {list : String} {m : Routes} (h : read list = .ok m) : added (some list) = m := by
  simp only [added, h]

theorem added_of_error {list : String} {failure : Failure} (h : read list = .error failure) :
    added (some list) = .empty := by
  simp only [added, h]

/-- One malformed entry makes a list add nothing. -/
theorem added_of_malformed {list entry : String} (hentry : entry ∈ Text.commaItems list)
    (h : ∀ route, readEntry entry ≠ .ok route) : added (some list) = .empty := by
  rcases hread : read list with failure | m
  · exact added_of_error hread
  · obtain ⟨routes, hroutes, -⟩ := read_eq_ok_iff.mp hread
    obtain ⟨route, hroute⟩ := exists_of_mapM_eq_ok (mapM_eq_ok_iff.mpr hroutes) entry hentry
    exact absurd hroute (h route)

/-- A list whose entries all name a route adds, under each key, the first route of that name. -/
theorem get?_added {list : String} {routes : List Route}
    (h : List.Forall₂ (fun entry route => readEntry entry = .ok route) (Text.commaItems list) routes)
    (key : String) : (added (some list)).get? key = routes.find? fun route => route.name == key := by
  have hread : read list = .ok (NameMap.empty.insertAllNew (byName routes)) :=
    read_eq_ok_iff.mpr ⟨routes, h, get?_byName routes⟩
  rw [added_of_ok hread, get?_byName]

end RouteList

namespace Routes

theorem effective_eq (configured : Routes) (list : Option String) :
    configured.effective list = configured.union (RouteList.added list) := by
  rcases list with _ | list
  · rfl
  · unfold effective
    rcases hread : RouteList.read list with failure | m
    · rw [Option.map_some, hread, RouteList.added_of_error hread]
    · rw [Option.map_some, hread, RouteList.added_of_ok hread]

/-- Under every key there is the configured route or, if there is none, what the list adds: the first
route of that name, if all entries of the list name a route. A list with a malformed entry, and no list,
leave the configured routes as they are. The union of routes by which
both are put together is associative, the map without routes is its unit, and where nothing is copied
it gives what adding the routes one after the other gives. -/
theorem effective_key_by_key :
    (∀ (configured : Routes) (list : Option String) (key : String),
      (configured.effective list).get? key =
        (configured.get? key).or ((RouteList.added list).get? key)) ∧
    (∀ (configured : Routes) (list : String) (routes : List Route),
      List.Forall₂ (fun entry route => RouteList.readEntry entry = .ok route) (Text.commaItems list)
          routes →
        ∀ key, (configured.effective (some list)).get? key =
          (configured.get? key).or (routes.find? fun route => route.name == key)) ∧
    (∀ (configured : Routes) (list entry : String), entry ∈ Text.commaItems list →
      (∀ route, RouteList.readEntry entry ≠ .ok route) →
        RouteList.added (some list) = .empty ∧ configured.effective (some list) = configured) ∧
    (∀ configured : Routes, configured.effective none = configured) ∧
    (∀ a b c : Routes, (a.union b).union c = a.union (b.union c)) ∧
    (∀ a : Routes, a.union .empty = a ∧ NameMap.empty.union a = a) ∧
    ∀ a b : Routes, a.union b = a.insertAllNew b.entries := by
  refine ⟨fun configured list key => ?_, fun configured list routes hroutes key => ?_,
    fun configured list entry hentry hmalformed => ?_, fun configured => rfl, NameMap.union_assoc,
    fun a => ⟨NameMap.union_empty a, NameMap.empty_union a⟩, NameMap.union_eq_insertAllNew⟩
  · rw [effective_eq, NameMap.get?_union]
  · rw [effective_eq, NameMap.get?_union, RouteList.get?_added hroutes]
  · have hadded := RouteList.added_of_malformed hentry hmalformed
    rw [effective_eq, hadded]
    exact ⟨rfl, NameMap.union_empty configured⟩

/-- Two entries of one name add the first one, beside what is configured. When the last entry has no
address, the first one adds nothing either. -/
theorem effective_beside_malformed :
    (∀ configured : Routes, (configured.effective (some "b.tcp://two:2,b.tcp://three:3")).get? "b" =
      (configured.get? "b").or (some ⟨"b", "tcp", "two", 2⟩)) ∧
    "broken" ∈ Text.commaItems "b.tcp://two:2,broken" ∧
    (∀ route, RouteList.readEntry "broken" ≠ .ok route) ∧
    RouteList.added (some "b.tcp://two:2,broken") = .empty ∧
    ∀ configured : Routes, configured.effective (some "b.tcp://two:2,broken") = configured := by
  have hroutes : List.Forall₂ (fun entry route => RouteList.readEntry entry = .ok route)
      (Text.commaItems "b.tcp://two:2,b.tcp://three:3")
      [⟨"b", "tcp", "two", 2⟩, ⟨"b", "tcp", "three", 3⟩] := by
    rw [show Text.commaItems "b.tcp://two:2,b.tcp://three:3" = ["b.tcp://two:2", "b.tcp://three:3"]
      by decide]
    exact .cons (ok_of_toOption (by decide)) (.cons (ok_of_toOption (by decide)) .nil)
  have hentry : "broken" ∈ Text.commaItems "b.tcp://two:2,broken" := by decide
  have hmalformed : ∀ route, RouteList.readEntry "broken" ≠ .ok route := by
    intro route h
    have hfails : (RouteList.readEntry "broken").isOk = false := by decide
    rw [h] at hfails
    cases hfails
  have hall := fun configured =>
    effective_key_by_key.2.2.1 configured "b.tcp://two:2,broken" "broken" hentry hmalformed
  refine ⟨fun configured => ?_, hentry, hmalformed, (hall .empty).1, fun configured =>
    (hall configured).2⟩
  exact effective_key_by_key.2.1 configured "b.tcp://two:2,b.tcp://three:3" _ hroutes "b"

end Routes

end GatewayProvisioning
