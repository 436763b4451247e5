import HandlerRouting.Proofs.RoutingTable.Built
import HandlerRouting.Proofs.RoutingTable.Fitness

/-!
Tables as they are declared. After some handlers a table holds their first claims; the next handler
either adds its own or is stopped, and it is stopped exactly where the list would no longer be
valid with it.
-/

namespace HandlerRouting
variable {h : Hierarchy}

namespace RoutingTable
variable {t : RoutingTable} {a : Handler}

section Contests

theorem lookup_first_claims {taken : List Route} (claims : List (Route × Handler)) {route : Route}
    (free : taken.any (· == route) = false) :
    (firstClaims taken claims).lookup route = claims.lookup route := by
  induction claims generalizing taken with
  | nil => rfl
  | cons first rest ih =>
    obtain ⟨other, a⟩ := first
    simp only [firstClaims]
    cases same : route == other with
    | true =>
      have unmet : ¬ taken.any (· == other) = true := by
        intro met
        obtain ⟨earlier, member, equal⟩ := List.any_eq_true.mp met
        exact List.any_eq_false.mp free earlier member (BEq.trans equal (BEq.symm same))
      simp only [if_neg unmet, List.lookup_cons, same]
    | false =>
      have stillFree : (other :: taken).any (· == route) = false := by
        rw [List.any_cons, BEq.symm_false same, free]
        rfl
      split
      · simp only [ih free, List.lookup_cons, same]
      · simp only [List.lookup_cons, same, ih stillFree]

theorem find_of_first_claims {claims : List (Route × Handler)}
    (held : t.entries = firstClaims [] claims) (route : Route) :
    t.find? route = claims.lookup route := by
  rw [find?, held]
  exact lookup_first_claims claims rfl

theorem claim_error_iff (t : RoutingTable) (a : Handler) (route : Route) (defect : Defect) :
    t.claim a route = .error defect ↔ ∃ existing, t.find? route = some existing ∧
      existing.function ≠ a.function ∧ defect = .ambiguous route existing.name a.name := by
  unfold claim
  cases held : t.find? route with
  | none => simp
  | some existing =>
    by_cases same : existing.sameFunction a = true
    · have equal := (Handler.same_function_iff existing a).mp same
      simp [same, equal]
    · have differ := mt (Handler.same_function_iff existing a).mpr same
      simp only [if_neg same, Except.error.injEq, Option.some.injEq]
      constructor
      · rintro rfl
        exact ⟨existing, rfl, differ, rfl⟩
      · rintro ⟨_, rfl, _, rfl⟩
        rfl

theorem free_of_claim {next : RoutingTable} {route : Route}
    (claimed : t.claim a route = .ok next) :
    ∀ existing, t.find? route = some existing → existing.function = a.function := by
  intro existing taken
  apply Decidable.byContradiction
  intro differ
  rw [(claim_error_iff t a route _).mpr ⟨existing, taken, differ, rfl⟩] at claimed
  cases claimed

/-- A claim changes nothing about the routes of other functions. -/
theorem find_claim_iff {next : RoutingTable} {route : Route}
    (claimed : t.claim a route = .ok next) (other : Route) {b : Handler}
    (differ : b.function ≠ a.function) :
    next.find? other = some b ↔ t.find? other = some b := by
  unfold claim at claimed
  split at claimed
  · cases claimed
    have elsewhere : a ≠ b := fun same => differ (congrArg Handler.function same.symm)
    simp only [find?, List.lookup_append, List.lookup_cons, List.lookup_nil]
    cases other == route <;> cases t.entries.lookup other <;> simp [elsewhere]
  · split at claimed
    · cases claimed
      rfl
    · cases claimed

theorem contested_congr {held others : Route → Option Handler} {routes : List Route}
    {defect : Defect}
    (alike : ∀ route b, b.function ≠ a.function → (held route = some b ↔ others route = some b))
    (contest : a.Contested held routes defect) : a.Contested others routes defect := by
  induction contest with
  | here taken differ => exact .here ((alike _ _ differ).mp taken) differ
  | later free _ ih =>
    refine .later ?_ ih
    intro existing taken
    apply Decidable.byContradiction
    intro differ
    exact differ (free existing ((alike _ _ differ).mpr taken))

theorem claim_routes_stopped_iff (t : RoutingTable) (a : Handler) (routes : List Route)
    (failure : BuildFailure) :
    (t.claimRoutes a routes).2 = some failure ↔
      ∃ defect, failure = .defect defect ∧ a.Contested t.find? routes defect := by
  induction routes generalizing t with
  | nil =>
    constructor
    · intro stopped
      cases stopped
    · rintro ⟨_, _, contest⟩
      cases contest
  | cons route rest ih =>
    cases claimed : t.claim a route with
    | ok next =>
      have free := free_of_claim claimed
      simp only [claimRoutes, claimed, ih]
      constructor
      · rintro ⟨defect, rfl, contest⟩
        have behind := contested_congr (fun _ _ => find_claim_iff claimed _) contest
        exact ⟨defect, rfl, .later free behind⟩
      · rintro ⟨defect, rfl, contest⟩
        cases contest with
        | here taken differ => exact absurd (free _ taken) differ
        | later _ behind =>
          have kept := fun other b differ => (find_claim_iff claimed other (b := b) differ).symm
          exact ⟨defect, rfl, contested_congr kept behind⟩
    | error defect =>
      obtain ⟨existing, taken, differ, rfl⟩ := (claim_error_iff ..).mp claimed
      simp only [claimRoutes, claimed]
      constructor
      · intro stopped
        cases stopped
        exact ⟨_, rfl, .here taken differ⟩
      · rintro ⟨defect, rfl, contest⟩
        cases contest with
        | here found _ =>
          rw [taken] at found
          cases found
          rfl
        | later free _ => exact absurd (free existing taken) differ

theorem find_of_longer {next : RoutingTable} {route : Route} {b : Handler}
    (longer : t.entries <+: next.entries) (found : t.find? route = some b) :
    next.find? route = some b := by
  obtain ⟨more, parts⟩ := longer
  rw [find?] at found ⊢
  rw [← parts, List.lookup_append, found]
  rfl

theorem find_of_claim {next : RoutingTable} {route : Route}
    (claimed : t.claim a route = .ok next) :
    ∃ b, next.find? route = some b ∧ b.function = a.function := by
  cases held : t.find? route with
  | none =>
    simp only [claim, held] at claimed
    cases claimed
    have last : (t.entries ++ [(route, a)]).lookup route = some a := by
      rw [find?] at held
      simp [List.lookup_append, held]
    exact ⟨a, last, rfl⟩
  | some b =>
    exact ⟨b, find_of_longer (claim_extends claimed) held, free_of_claim claimed b held⟩

/-- Routes that are held for a function already can be left out of its claims. -/
theorem claim_routes_firsts (t : RoutingTable) (a : Handler) (seen routes : List Route)
    (settled : ∀ route ∈ seen, ∃ b, t.find? route = some b ∧ b.function = a.function) :
    t.claimRoutes a (firstsAfter seen routes) = t.claimRoutes a routes := by
  induction routes generalizing t seen with
  | nil => rfl
  | cons route rest ih =>
    by_cases met : seen.any (· == route) = true
    · obtain ⟨earlier, member, same⟩ := List.any_eq_true.mp met
      obtain ⟨b, found, own⟩ := settled earlier member
      have held : t.find? route = some b := (Entries.lookup_congr same t.entries).symm.trans found
      have claimed : t.claim a route = .ok t := by
        simp [claim, held, (Handler.same_function_iff b a).mpr own]
      simp only [firstsAfter, if_pos met, claimRoutes, claimed]
      exact ih t seen settled
    · simp only [firstsAfter, if_neg met, claimRoutes]
      cases claimed : t.claim a route with
      | error defect => rfl
      | ok next =>
        refine ih next (route :: seen) ?_
        intro other member
        rcases List.mem_cons.mp member with rfl | before
        · exact find_of_claim claimed
        · obtain ⟨b, found, own⟩ := settled other before
          exact ⟨b, find_of_longer (claim_extends claimed) found, own⟩

theorem claim_routes_distinct (t : RoutingTable) (a : Handler) (routes : List Route) :
    t.claimRoutes a (distinct routes) = t.claimRoutes a routes := by
  exact claim_routes_firsts t a [] routes (by simp)

end Contests

section Declarations
variable {earlier : List (Route × Handler)}

theorem agree_append_iff (agree : Agree earlier) (a : Handler) (routes : List Route) :
    Agree (earlier ++ routes.map fun route => (route, a)) ↔
      ∀ route ∈ routes, ∀ b, earlier.lookup route = some b → b.function = a.function := by
  constructor
  · intro whole route listed b found
    obtain ⟨claim, member, same, rfl⟩ := Entries.exists_mem_of_lookup found
    exact whole claim (by simp [member]) (route, a) (by simp [listed]) (BEq.symm same)
  · intro free
    -- Against an earlier claim the first one on the same route decides.
    have across : ∀ claim ∈ earlier, ∀ route ∈ routes, (claim.1 == route) = true →
        claim.2.function = a.function := by
      intro claim member route listed same
      obtain ⟨b, found⟩ := Entries.exists_lookup_of_mem member (BEq.symm same)
      obtain ⟨first, among, equal, rfl⟩ := Entries.exists_mem_of_lookup found
      have near := agree claim member first among (BEq.trans same equal)
      exact near.trans (free route listed _ found)
    intro x ofX y ofY same
    rcases List.mem_append.mp ofX with before | own
    · rcases List.mem_append.mp ofY with beforeToo | own
      · exact agree x before y beforeToo same
      · obtain ⟨route, listed, rfl⟩ := List.mem_map.mp own
        exact across x before route listed same
    · obtain ⟨route, listed, rfl⟩ := List.mem_map.mp own
      rcases List.mem_append.mp ofY with before | ownToo
      · exact (across y before route listed (BEq.symm same)).symm
      · obtain ⟨other, _, rfl⟩ := List.mem_map.mp ownToo
        rfl

theorem not_contested_iff (held : Route → Option Handler) (a : Handler) (routes : List Route) :
    (∀ defect, ¬ a.Contested held routes defect) ↔
      ∀ route ∈ routes, ∀ b, held route = some b → b.function = a.function := by
  induction routes with
  | nil =>
    constructor
    · intro _ route listed
      cases listed
    · intro _ defect contest
      cases contest
  | cons first rest ih =>
    constructor
    · intro free
      have head : ∀ b, held first = some b → b.function = a.function := by
        intro b taken
        apply Decidable.byContradiction
        intro differ
        exact free _ (.here taken differ)
      have tail := ih.mp fun defect contest => free defect (.later head contest)
      intro route listed
      rcases List.mem_cons.mp listed with rfl | later
      · exact head
      · exact tail route later
    · intro free defect contest
      cases contest with
      | here taken differ => exact differ (free first (by simp) _ taken)
      | later _ behind =>
        exact ih.mpr (fun route later => free route (by simp [later])) defect behind

theorem declared_by_snoc (h : Hierarchy) (handlers : List Handler) (a : Handler) :
    declaredBy h (handlers ++ [a]) = declaredBy h handlers ++ a.declared h := by
  simp [declaredBy]

theorem Valid.front {front rest : List Handler} (valid : Valid h (front ++ rest)) :
    Valid h front := by
  refine ⟨fun a member => valid.known a (by simp [member]),
    fun a member => valid.readable a (by simp [member]), ?_⟩
  intro x ofX y ofY
  have agree := valid.agree
  rw [declaredBy, List.flatMap_append] at agree
  exact agree x (List.mem_append_left _ ofX) y (List.mem_append_left _ ofY)

theorem valid_snoc_iff {handlers : List Handler} (valid : Valid h handlers) (a : Handler) :
    Valid h (handlers ++ [a]) ↔ ∀ failure, ¬ a.StoppedBy h (declaredBy h handlers) failure := by
  have contests := (agree_append_iff valid.agree a (a.declaredRoutes h)).trans
    (not_contested_iff (fun route => (declaredBy h handlers).lookup route) a _).symm
  constructor
  · intro whole failure stopped
    cases stopped with
    | unfit fault =>
      have refused := Handler.routes_of_unfit fault
      rw [Handler.routes_of_fit (whole.known a (by simp)) (whole.readable a (by simp))] at refused
      cases refused
    | contested _ _ contest =>
      have agree := whole.agree
      rw [declared_by_snoc] at agree
      exact contests.mp agree _ contest
  · intro free
    rcases Handler.fit_or_unfit h a with ⟨known, readable⟩ | ⟨failure, fault⟩
    · refine ⟨List.forall_mem_append.mpr ⟨valid.known, by simpa using known⟩,
        List.forall_mem_append.mpr ⟨valid.readable, by simpa using readable⟩, ?_⟩
      rw [declared_by_snoc]
      exact contests.mpr fun defect contest => free _ (.contested known readable contest)
    · exact absurd (.unfit fault) (free failure)

end Declarations

section Building
variable {earlier : List Handler}

def receive (h : Hierarchy) (t : RoutingTable) (a : Handler) : Progress :=
  match a.routes h with
  | .error failure => (t, some failure)
  | .ok routes => t.claimRoutes a routes

theorem claim_all_cons (h : Hierarchy) (t : RoutingTable) (a : Handler) (rest : List Handler) :
    claimAll h t (a :: rest) =
      match t.receive h a with
      | (next, none) => claimAll h next rest
      | stopped => stopped := by
  simp only [claimAll, receive]
  cases a.routes h <;> rfl

theorem receive_stopped_iff (held : t.entries = firstClaims [] (declaredBy h earlier))
    (a : Handler) (failure : BuildFailure) :
    (t.receive h a).2 = some failure ↔ a.StoppedBy h (declaredBy h earlier) failure := by
  have find : t.find? = fun route => (declaredBy h earlier).lookup route :=
    funext (find_of_first_claims held)
  unfold receive
  cases covered : a.routes h with
  | error fault =>
    have unfit := (Handler.routes_error_iff a fault).mp covered
    simp only [Option.some.injEq]
    constructor
    · rintro rfl
      exact .unfit unfit
    · intro stopped
      cases stopped with
      | unfit other =>
        rw [Handler.routes_of_unfit other] at covered
        cases covered
        rfl
      | contested known readable _ =>
        rw [Handler.routes_of_fit known readable] at covered
        cases covered
  | ok routes =>
    obtain ⟨known, readable, rfl⟩ := (Handler.routes_ok_iff a routes).mp covered
    simp only [claim_routes_distinct, claim_routes_stopped_iff, find]
    constructor
    · rintro ⟨defect, rfl, contest⟩
      exact .contested known readable contest
    · intro stopped
      cases stopped with
      | unfit fault =>
        rw [Handler.routes_of_unfit fault] at covered
        cases covered
      | contested _ _ contest => exact ⟨_, rfl, contest⟩

theorem receive_entries (held : t.entries = firstClaims [] (declaredBy h earlier))
    (passes : (t.receive h a).2 = none) :
    (t.receive h a).1.entries = firstClaims [] (declaredBy h (earlier ++ [a])) := by
  unfold receive at passes ⊢
  split at passes
  · cases passes
  · rename_i routes covered
    obtain ⟨_, _, rfl⟩ := (Handler.routes_ok_iff a routes).mp covered
    rw [claim_routes_distinct] at passes ⊢
    have own : t.claimRoutes a (a.declaredRoutes h) =
        ((t.claimRoutes a (a.declaredRoutes h)).1, none) := Prod.ext rfl passes
    rw [declared_by_snoc]
    exact entries_after (t := empty) held (claim_routes_entries own)

theorem claim_all_stopped_iff (valid : Valid h earlier)
    (held : t.entries = firstClaims [] (declaredBy h earlier)) (handlers : List Handler)
    (failure : BuildFailure) :
    (claimAll h t handlers).2 = some failure ↔
      ∃ front a rest, handlers = front ++ a :: rest ∧ Valid h (earlier ++ front) ∧
        a.StoppedBy h (declaredBy h (earlier ++ front)) failure := by
  induction handlers generalizing t earlier with
  | nil => simp [claimAll]
  | cons a rest ih =>
    have stops := receive_stopped_iff held a
    have entries := receive_entries held (a := a)
    rw [claim_all_cons]
    generalize t.receive h a = received at stops entries
    obtain ⟨next, outcome⟩ := received
    cases outcome with
    | none =>
      have free : ∀ failure, ¬ a.StoppedBy h (declaredBy h earlier) failure := by
        intro failure stopped
        cases (stops failure).mpr stopped
      have longer := (valid_snoc_iff valid a).mpr free
      simp only [ih longer (entries rfl)]
      constructor
      · rintro ⟨front, b, others, rfl, fine, stopped⟩
        refine ⟨a :: front, b, others, rfl, ?_, ?_⟩
        · simpa using fine
        · simpa using stopped
      · rintro ⟨front, b, others, parts, fine, stopped⟩
        rcases List.cons_eq_append_iff.mp parts with ⟨rfl, same⟩ | ⟨behind, rfl, rfl⟩
        · cases same
          exact absurd (by simpa using stopped) (free failure)
        · exact ⟨behind, b, others, rfl, by simpa using fine, by simpa using stopped⟩
    | some found =>
      simp only [stops failure]
      constructor
      · intro stopped
        exact ⟨[], a, rest, rfl, by simpa using valid, by simpa using stopped⟩
      · rintro ⟨front, b, others, parts, fine, stopped⟩
        rcases List.cons_eq_append_iff.mp parts with ⟨rfl, same⟩ | ⟨behind, rfl, rfl⟩
        · cases same
          simpa using stopped
        · have longer : Valid h (earlier ++ [a]) := by
            rw [List.append_cons] at fine
            exact fine.front
          exact absurd ((stops found).mp rfl) ((valid_snoc_iff valid a).mp longer found)

theorem claim_all_passes (valid : Valid h earlier)
    (held : t.entries = firstClaims [] (declaredBy h earlier)) {handlers : List Handler}
    (passes : (claimAll h t handlers).2 = none) :
    Valid h (earlier ++ handlers) ∧
      (claimAll h t handlers).1.entries = firstClaims [] (declaredBy h (earlier ++ handlers)) := by
  induction handlers generalizing t earlier with
  | nil => simpa [claimAll] using ⟨valid, held⟩
  | cons a rest ih =>
    have stops := receive_stopped_iff held a
    have entries := receive_entries held (a := a)
    rw [claim_all_cons] at passes ⊢
    generalize t.receive h a = received at stops entries passes
    obtain ⟨next, outcome⟩ := received
    cases outcome with
    | some failure => cases passes
    | none =>
      have free : ∀ failure, ¬ a.StoppedBy h (declaredBy h earlier) failure := by
        intro failure stopped
        cases (stops failure).mpr stopped
      have later := ih ((valid_snoc_iff valid a).mpr free) (entries rfl) passes
      simpa using later

theorem valid_nil (h : Hierarchy) : Valid h [] := by
  refine ⟨by simp, by simp, agree_nil⟩

theorem build_error_iff (h : Hierarchy) (handlers : List Handler) (failure : BuildFailure) :
    build h handlers = .error failure ↔
      ∃ front a rest, handlers = front ++ a :: rest ∧ Valid h front ∧
        a.StoppedBy h (declaredBy h front) failure := by
  have stops := claim_all_stopped_iff (t := empty) (valid_nil h) rfl handlers failure
  simp only [List.nil_append] at stops
  rw [← stops, build]
  split <;> simp_all

theorem build_declared {handlers : List Handler} (built : build h handlers = .ok t) :
    Valid h handlers ∧ t.entries = firstClaims [] (declaredBy h handlers) := by
  have passes : claimAll h empty handlers = (t, none) := by
    unfold build at built
    split at built
    · rename_i claimed
      cases built
      exact claimed
    · cases built
  have whole := claim_all_passes (t := empty) (valid_nil h) rfl (congrArg Prod.snd passes)
  simpa [passes] using whole

theorem build_ok_iff (h : Hierarchy) (handlers : List Handler) (t : RoutingTable) :
    build h handlers = .ok t ↔
      Valid h handlers ∧ t.entries = firstClaims [] (declaredBy h handlers) := by
  constructor
  · exact build_declared
  · rintro ⟨valid, held⟩
    cases built : build h handlers with
    | ok u =>
      obtain ⟨entries⟩ := t
      obtain ⟨others⟩ := u
      have same : others = entries := (build_declared built).2.trans held.symm
      rw [same]
    | error failure =>
      -- A valid list is valid up to and with the handler that would have been stopped.
      obtain ⟨front, a, rest, rfl, fine, stopped⟩ := (build_error_iff ..).mp built
      rw [List.append_cons] at valid
      exact absurd stopped ((valid_snoc_iff fine a).mp valid.front failure)

/-- A list of handlers makes a table exactly when it is valid, and the table holds what is declared,
on every route its first claim. Otherwise the first handler that cannot follow the ones before it
stops the building. -/
theorem build_of_declarations (h : Hierarchy) (handlers : List Handler) :
    (∀ t, build h handlers = .ok t ↔
      Valid h handlers ∧ t.entries = firstClaims [] (declaredBy h handlers)) ∧
    (∀ t, build h handlers = .ok t → ∀ route,
      t.find? route = (declaredBy h handlers).lookup route) ∧
    ∀ failure, build h handlers = .error failure ↔
      ∃ front a rest, handlers = front ++ a :: rest ∧ Valid h front ∧
        a.StoppedBy h (declaredBy h front) failure := by
  refine ⟨build_ok_iff h handlers, ?_, build_error_iff h handlers⟩
  intro t built
  exact find_of_first_claims (build_declared built).2

/-- Several exceptions with several media types, each of them once more, and a second name of the
same function for some of them. -/
def crossedHandlers : List Handler :=
  let keys := TypeExpr.cls (Hierarchy.builtinPlace "KeyError")
  let values := TypeExpr.cls (Hierarchy.builtinPlace "ValueError")
  [{ function := ⟨"show", none⟩, exceptions := [keys, values, keys], name := "show"
     mediaTypes := [.text "text/html", .text "image/png", .text "TEXT/HTML"] },
    { function := ⟨"show", none⟩, parameterTypes := [values], name := "again"
      mediaTypes := [.text "text/xml", .text "image/png"] }]

theorem crossed_handlers_built : ∃ t, build Hierarchy.builtin crossedHandlers = .ok t ∧
    t.entries.map (fun (route, a) => (route.text Hierarchy.builtin, a.name)) =
      [("KeyError @ text/html", "show"), ("KeyError @ image/png", "show"),
        ("ValueError @ text/html", "show"), ("ValueError @ image/png", "show"),
        ("ValueError @ text/xml", "again")] := by
  obtain ⟨t, built, _⟩ := exists_of_check Hierarchy.builtin crossedHandlers (fun _ => true)
    (by decide +kernel)
  obtain ⟨_, entries⟩ := ((build_of_declarations Hierarchy.builtin crossedHandlers).1 t).mp built
  refine ⟨t, built, ?_⟩
  rw [entries]
  decide +kernel

end Building

end RoutingTable

end HandlerRouting
