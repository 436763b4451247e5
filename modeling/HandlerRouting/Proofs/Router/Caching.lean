import HandlerRouting.Proofs.RecencyCache.Steps
import HandlerRouting.Router.Run

/-!
The cache of a router is invisible. It keeps only what the table gives for its keys, and that
depends on a key up to the equality of keys. So lookups, hits and misses alike, come to what they
would come to with an empty cache.
-/

namespace HandlerRouting

namespace RecencyCache
variable {Key Value : Type} {value : Key → Value} {c : RecencyCache Key Value}

def Faithful (value : Key → Value) (c : RecencyCache Key Value) : Prop :=
  ∀ entry ∈ c.entries, entry.2 = value entry.1

theorem faithful_empty (capacity : Nat) :
    Faithful value ({ capacity } : RecencyCache Key Value) := by
  intro entry member
  cases member

variable [BEq Key]

theorem Faithful.others (faithful : c.Faithful value) (key : Key) :
    ∀ entry ∈ others key c.entries, entry.2 = value entry.1 :=
  fun entry member => faithful entry (List.mem_filter.mp member).1

theorem Faithful.hit (faithful : c.Faithful value)
    (alike : ∀ a b, (a == b) = true → value a = value b) {key : Key} {kept : Value}
    {next : RecencyCache Key Value} (found : c.hit? key = some (kept, next)) :
    kept = value key ∧ next.Faithful value := by
  simp only [hit?, Option.map_eq_some_iff, Prod.mk.injEq] at found
  obtain ⟨entry, present, rfl, rfl⟩ := found
  have own := faithful entry (List.mem_of_find?_eq_some present)
  refine ⟨own.trans (alike _ _ (entry_key present)), ?_⟩
  intro other member
  rcases List.mem_append.mp member with older | last
  · exact faithful.others key other older
  · obtain rfl := List.mem_singleton.mp last
    exact own

theorem Faithful.store (faithful : c.Faithful value)
    (alike : ∀ a b, (a == b) = true → value a = value b) (key : Key) :
    (c.store key (value key)).Faithful value := by
  intro entry member
  rcases List.mem_append.mp (List.mem_of_mem_drop member) with older | last
  · exact faithful.others key entry older
  · obtain rfl := List.mem_singleton.mp last
    simp only
    split
    · rename_i known present
      exact (alike _ _ (entry_key present)).symm
    · rfl

end RecencyCache

namespace RoutingTable

theorem candidates_congr (t : RoutingTable) (h : Hierarchy) {a b : Route}
    (same : (a == b) = true) : t.candidates h a = t.candidates h b := by
  obtain ⟨exception, media⟩ := (Route.beq_iff a b).mp same
  obtain ⟨type, subtype, _⟩ := (MediaType.beq_iff a.media b.media).mp media
  simp only [candidates, MediaType.overlaps, MediaType.hasWildcardType, exception, type, subtype]

theorem best_handler_congr (t : RoutingTable) (h : Hierarchy) (a b : Route)
    (same : (a == b) = true) : t.bestHandler h a = t.bestHandler h b := by
  obtain ⟨exception, _⟩ := (Route.beq_iff a b).mp same
  simp only [bestHandler, bestRoute, candidates_congr t h same, exception]

end RoutingTable

namespace Router

def given (r : Router) (asked : Route) : Option Handler := r.table.bestHandler r.hierarchy asked

/-- A router in later use: the same but for its cache, which keeps what the table gives. -/
structure Follows (r later : Router) : Prop where
  same : later.fresh = r.fresh
  faithful : later.cache.Faithful r.given

theorem Follows.given {r later : Router} (follows : r.Follows later) : later.given = r.given := by
  have same := follows.same
  simp only [fresh, mk.injEq] at same
  funext asked
  simp only [Router.given, same]

theorem Follows.settings {r later : Router} (follows : r.Follows later) :
    later.settings = r.settings := by
  obtain ⟨_, _, settings, _⟩ := (mk.injEq ..).mp follows.same
  exact settings

theorem requested_follows {r later : Router} (follows : r.Follows later) (media : MediaRequest) :
    later.requested media = r.requested media := by
  cases media <;> simp [requested, follows.settings]

theorem make_follows (h : Hierarchy) (name : String) (settings : Settings) (table : RoutingTable) :
    (make h name settings table).Follows (make h name settings table) :=
  ⟨rfl, RecencyCache.faithful_empty _⟩

theorem look_up_follows {r later : Router} (follows : r.Follows later) (asked : Route) :
    (later.lookUp asked).outcome = r.given asked ∧ r.Follows (later.lookUp asked).router := by
  have alike := r.table.best_handler_congr r.hierarchy
  unfold lookUp
  split
  · rename_i kept next found
    obtain ⟨own, faithful⟩ := follows.faithful.hit alike found
    have same : next.capacity = later.cache.capacity := by
      simp only [RecencyCache.hit?, Option.map_eq_some_iff, Prod.mk.injEq] at found
      obtain ⟨entry, _, _, rfl⟩ := found
      rfl
    refine ⟨own, ?_, faithful⟩
    rw [← follows.same]
    simp [fresh, RecencyCache.clear, same]
  · have answer : later.table.bestHandler later.hierarchy asked = r.given asked :=
      congrFun follows.given asked
    refine ⟨answer, follows.same, ?_⟩
    simp only [answer]
    exact RecencyCache.Faithful.store (c := later.cache.countMiss) follows.faithful alike asked

theorem walk_follows {r later : Router} (follows : r.Follows later) (g : Raisings) (m : MediaType)
    (chain : List Nat) :
    (walk g m later chain).outcome = chain.findSome? (fun x => r.given ⟨g.classOf x, m⟩) ∧
      r.Follows (walk g m later chain).router := by
  induction chain generalizing later with
  | nil => exact ⟨rfl, follows⟩
  | cons x rest ih =>
    obtain ⟨answer, next⟩ := look_up_follows follows ⟨g.classOf x, m⟩
    simp only [walk, List.findSome?_cons, ← answer]
    cases found : (later.lookUp ⟨g.classOf x, m⟩).outcome with
    | some a => exact ⟨rfl, next⟩
    | none => exact ih next

/-- What a query comes to by the table alone. -/
def verdict (r : Router) : Query → Except LookupRefusal (Option Handler)
  | .exceptionClass wanted media =>
    match wanted.exceptionClass? r.hierarchy with
    | none => .error (.notExceptionClass (wanted.shown r.hierarchy))
    | some c =>
      match r.requested media with
      | .error refusal => .error (.media refusal)
      | .ok m => .ok (r.given ⟨c, m⟩)
  | .raised g start media =>
    match r.requested media with
    | .error refusal => .error (.media refusal)
    | .ok m =>
      .ok ((g.chain r.settings.followContext start).findSome? fun x => r.given ⟨g.classOf x, m⟩)
  | .value value => .error (.notException (value.shown r.hierarchy))

theorem answer_follows {r later : Router} (follows : r.Follows later) (query : Query) :
    (later.answer query).outcome = r.verdict query ∧ r.Follows (later.answer query).router := by
  obtain ⟨hierarchy, _⟩ := (mk.injEq ..).mp follows.same
  have settings := follows.settings
  have requested := requested_follows follows
  cases query with
  | exceptionClass wanted media =>
    simp only [answer, resolveClass, verdict, hierarchy, requested]
    cases wanted.exceptionClass? r.hierarchy with
    | none => exact ⟨rfl, follows⟩
    | some c =>
      cases r.requested media with
      | error refusal => exact ⟨rfl, follows⟩
      | ok m =>
        obtain ⟨found, next⟩ := look_up_follows follows ⟨c, m⟩
        exact ⟨congrArg _ found, next⟩
  | raised g start media =>
    simp only [answer, resolveRaised, verdict, settings, requested]
    cases r.requested media with
    | error refusal => exact ⟨rfl, follows⟩
    | ok m =>
      obtain ⟨found, next⟩ := walk_follows follows g m (g.chain r.settings.followContext start)
      exact ⟨congrArg _ found, next⟩
  | value value => exact ⟨by simp [answer, refuseValue, verdict, hierarchy], follows⟩

theorem resolve_class_follows {r later : Router} (follows : r.Follows later) {c : ClassId}
    (exceptional : r.hierarchy.isExceptionClass c = true) {media : MediaRequest} {m : MediaType}
    (read : r.requested media = .ok m) :
    (later.resolveClass (.cls c) media).outcome = .ok (r.given ⟨c, m⟩) := by
  have found := (answer_follows follows (.exceptionClass (.cls c) media)).1
  simpa [answer, verdict, TypeExpr.exceptionClass?, exceptional, read] using found

theorem after_follows {r later : Router} (follows : r.Follows later) (queries : List Query) :
    r.Follows (later.after queries) := by
  induction queries generalizing later with
  | nil => exact follows
  | cons query rest ih => exact ih (answer_follows follows query).2

/-- A lookup for a raised exception, at any time in a router's life, is answered from the table. -/
theorem resolve_raised_after (h : Hierarchy) (name : String) (settings : Settings)
    (table : RoutingTable) (earlier : List Query) (g : Raisings) (start : Nat)
    (media : MediaRequest) :
    (((make h name settings table).after earlier).resolveRaised g start media).outcome =
      (make h name settings table).verdict (.raised g start media) :=
  (answer_follows (after_follows (make_follows h name settings table) earlier)
    (.raised g start media)).1

theorem outcomes_follow {r later : Router} (follows : r.Follows later) (queries : List Query) :
    later.outcomes queries = queries.map r.verdict := by
  induction queries generalizing later with
  | nil => rfl
  | cons query rest ih =>
    obtain ⟨found, next⟩ := answer_follows follows query
    simp only [outcomes, List.map_cons, found, ih next]

theorem answer_refused (r : Router) (query : Query) {refusal : LookupRefusal}
    (refused : (r.answer query).outcome = .error refusal) : (r.answer query).router = r := by
  cases query with
  | exceptionClass wanted media =>
    simp only [answer, resolveClass] at refused ⊢
    split at refused
    · rfl
    · split at refused
      · rfl
      · cases refused
  | raised g start media =>
    simp only [answer, resolveRaised] at refused ⊢
    split at refused
    · rfl
    · cases refused
  | value value => rfl

/-- Every query of a run comes to what it comes to with an empty cache, and those that are refused
leave the cache alone. -/
theorem outcomes_of_run (h : Hierarchy) (name : String) (settings : Settings)
    (table : RoutingTable) (queries : List Query) :
    let r := make h name settings table
    r.outcomes queries = queries.map (fun query => (r.answer query).outcome) ∧
      ∀ query refusal, ((r.after queries).answer query).outcome = .error refusal →
        ((r.after queries).answer query).router.cache = (r.after queries).cache := by
  intro r
  have follows := make_follows h name settings table
  constructor
  · rw [outcomes_follow follows]
    exact List.map_congr_left fun query _ => (answer_follows follows query).1.symm
  · intro query refusal refused
    rw [answer_refused _ query refused]

end Router

end HandlerRouting
