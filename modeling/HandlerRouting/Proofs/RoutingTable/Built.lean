import HandlerRouting.MediaType.Obtainable
import HandlerRouting.RoutingTable.Claims

/-!
What a built table holds: on every claimed route the first claim of it. So each of its routes pairs
an exception class with a media type that was read from a text, or with all of them.
-/

namespace HandlerRouting
variable {h : Hierarchy}

namespace RoutingTable

theorem find_none_iff (t : RoutingTable) (route : Route) :
    t.find? route = none ↔ t.routes.any (· == route) = false := by
  simp only [find?, routes, List.any_map, List.any_eq_false, List.lookup_eq_none_iff,
    Function.comp_apply, bne, Bool.not_eq_true', Bool.not_eq_true]
  constructor
  · intro absent entry member
    exact BEq.symm_false (absent entry member)
  · intro absent entry member
    exact BEq.symm_false (absent entry member)

section FirstClaims

theorem first_claims_congr {taken others : List Route} (claims : List (Route × Handler))
    (alike : ∀ route, taken.any (· == route) = others.any (· == route)) :
    firstClaims taken claims = firstClaims others claims := by
  induction claims generalizing taken others with
  | nil => rfl
  | cons first rest ih =>
    obtain ⟨route, a⟩ := first
    have further : ∀ other,
        (route :: taken).any (· == other) = (route :: others).any (· == other) :=
      fun other => by simp only [List.any_cons, alike other]
    simp only [firstClaims, alike route, ih alike, ih further]

theorem first_claims_append (taken : List Route) (front back : List (Route × Handler)) :
    firstClaims taken (front ++ back) = firstClaims taken front ++
      firstClaims (taken ++ (firstClaims taken front).map Prod.fst) back := by
  induction front generalizing taken with
  | nil => simp [firstClaims]
  | cons first rest ih =>
    obtain ⟨route, a⟩ := first
    by_cases met : taken.any (· == route) = true
    · simp only [List.cons_append, firstClaims, if_pos met, ih taken]
    · simp only [List.cons_append, firstClaims, if_neg met, ih (route :: taken), List.map_cons]
      refine congrArg _ (congrArg _ (first_claims_congr back fun other => ?_))
      simp only [List.any_cons, List.any_append]
      ac_rfl

end FirstClaims

theorem claim_entries {t next : RoutingTable} {a : Handler} {route : Route}
    (claimed : t.claim a route = .ok next) :
    next.entries = t.entries ++ firstClaims t.routes [(route, a)] := by
  unfold claim at claimed
  split at claimed
  · rename_i absent
    cases claimed
    simp [firstClaims, (find_none_iff t route).mp absent]
  · rename_i existing found
    split at claimed
    · cases claimed
      have taken : t.routes.any (· == route) = true := by
        apply eq_true_of_ne_false
        intro free
        rw [← find_none_iff, found] at free
        cases free
      simp [firstClaims, taken]
    · cases claimed

theorem entries_after {t middle next : RoutingTable} {front back : List (Route × Handler)}
    (first : middle.entries = t.entries ++ firstClaims t.routes front)
    (second : next.entries = middle.entries ++ firstClaims middle.routes back) :
    next.entries = t.entries ++ firstClaims t.routes (front ++ back) := by
  have routes : middle.routes = t.routes ++ (firstClaims t.routes front).map Prod.fst := by
    simp [RoutingTable.routes, first]
  rw [second, first, routes, first_claims_append, List.append_assoc]

theorem claim_routes_entries {t next : RoutingTable} {a : Handler} {routes : List Route}
    (claimed : t.claimRoutes a routes = (next, none)) :
    next.entries = t.entries ++ firstClaims t.routes (routes.map fun route => (route, a)) := by
  induction routes generalizing t with
  | nil =>
    cases claimed
    simp [firstClaims]
  | cons route rest ih =>
    simp only [claimRoutes] at claimed
    split at claimed
    · rename_i middle first
      exact entries_after (claim_entries first) (ih claimed)
    · cases claimed

theorem claim_all_entries {t next : RoutingTable} {handlers : List Handler}
    (claimed : claimAll h t handlers = (next, none)) :
    next.entries = t.entries ++ firstClaims t.routes (claimsOf h handlers) := by
  induction handlers generalizing t with
  | nil =>
    cases claimed
    simp [claimsOf, firstClaims]
  | cons a rest ih =>
    simp only [claimAll] at claimed
    split at claimed
    · cases claimed
    · rename_i routes known
      have own : a.claims h = routes.map fun route => (route, a) := by simp [Handler.claims, known]
      split at claimed
      · rename_i middle first
        have later := entries_after (claim_routes_entries first) (ih claimed)
        simpa only [claimsOf, List.flatMap_cons, own] using later
      · rename_i stopped notDone
        exact absurd claimed (notDone next)

/-- A built table holds the first claims, in their order. -/
theorem build_entries {t : RoutingTable} {handlers : List Handler}
    (built : build h handlers = .ok t) : t.entries = firstClaims [] (claimsOf h handlers) := by
  unfold build at built
  split at built
  · rename_i next claimed
    cases built
    simpa [empty, routes] using claim_all_entries claimed
  · cases built

theorem exists_of_check (h : Hierarchy) (handlers : List Handler) (check : RoutingTable → Bool)
    (checked : (build h handlers).toOption.any check = true) :
    ∃ t, build h handlers = .ok t ∧ check t = true := by
  cases built : build h handlers with
  | error failure => simp [built, Except.toOption] at checked
  | ok t => exact ⟨t, rfl, by simpa [built, Except.toOption] using checked⟩

end RoutingTable

namespace Handler

theorem exception_classes_valid {a : Handler} {classes : List ClassId} {c : ClassId}
    (known : a.exceptionClasses h = .ok classes) (member : c ∈ classes) :
    h.isExceptionClass c = true := by
  have valid : ∀ types : List TypeExpr,
      c ∈ distinct (types.filterMap (TypeExpr.exceptionClass? h)) →
        h.isExceptionClass c = true := by
    intro types kept
    obtain ⟨type, _, found⟩ := List.mem_filterMap.mp ((distinct_sublist _).mem kept)
    unfold TypeExpr.exceptionClass? at found
    split at found
    · split at found
      · rename_i exceptional
        cases found
        exact exceptional
      · cases found
    · cases found
  simp only [exceptionClasses] at known
  repeat' split at known
  all_goals cases known
  · exact valid _ member
  · exact valid _ member

theorem all_obtainable : MediaType.all.Obtainable :=
  @MediaType.Obtainable.parsed "*/*" _ (by rfl)

theorem read_media_types_obtainable {name : String} {given : List Datum} {media : List MediaType}
    (known : readMediaTypes name given = .ok media) : ∀ m ∈ media, m.Obtainable := by
  induction given generalizing media with
  | nil =>
    cases known
    simp
  | cons first rest ih =>
    simp only [readMediaTypes] at known
    split at known
    · cases known
    · rename_i m read
      split at known
      · cases known
      · rename_i others later
        cases known
        have obtained : m.Obtainable := by
          unfold readMediaType at read
          repeat' split at read
          all_goals cases read
          rename_i parsed
          exact .parsed parsed
        simpa [obtained] using ih later

theorem covered_media_types_obtainable {a : Handler} {media : List MediaType} {m : MediaType}
    (known : a.coveredMediaTypes = .ok media) (member : m ∈ media) : m.Obtainable := by
  unfold coveredMediaTypes at known
  split at known
  · cases read : readMediaTypes a.name a.mediaTypes with
    | error failure => simp [read, Except.map] at known
    | ok given =>
      simp only [read, Except.map, Except.ok.injEq] at known
      subst known
      exact read_media_types_obtainable read m ((distinct_sublist given).mem member)
  · cases known
    obtain rfl := List.mem_singleton.mp member
    exact all_obtainable

end Handler

structure Route.Sound (h : Hierarchy) (route : Route) : Prop where
  exception : h.isExceptionClass route.exception = true
  media : route.media.Obtainable

theorem Handler.claims_sound {a : Handler} {claim : Route × Handler} (member : claim ∈ a.claims h) :
    claim.1.Sound h := by
  unfold claims at member
  split at member
  · rename_i claimed known
    obtain ⟨route, listed, rfl⟩ := List.mem_map.mp member
    unfold routes at known
    split at known
    · cases known
    · rename_i classes valid
      cases covered : a.coveredMediaTypes with
      | error failure => simp [covered, Except.map] at known
      | ok media =>
        simp only [covered, Except.map, Except.ok.injEq] at known
        subst known
        simp only [pairRoutes, List.mem_flatMap, List.mem_map] at listed
        obtain ⟨c, ofClasses, m, ofMedia, rfl⟩ := listed
        exact ⟨exception_classes_valid valid ofClasses,
          covered_media_types_obtainable covered ofMedia⟩
  · cases member

theorem RoutingTable.build_sound {t : RoutingTable} {handlers : List Handler}
    (built : build h handlers = .ok t) : ∀ route ∈ t.routes, route.Sound h := by
  intro route member
  obtain ⟨entry, listed, rfl⟩ := List.mem_map.mp member
  rw [build_entries built] at listed
  obtain ⟨a, _, claimed⟩ := List.mem_flatMap.mp ((first_claims_sublist _ _).mem listed)
  exact Handler.claims_sound claimed

end HandlerRouting
