import HandlerRouting.RoutingTable.Declared

/-!
What a handler covers. Its routes are the pairs of its declared classes and media types, without
repetitions, exactly when nothing is wrong with it by itself; otherwise its first fault comes out.
-/

namespace HandlerRouting
variable {h : Hierarchy}

section Repetitions

theorem any_pair_routes (classes : List ClassId) (media : List MediaType) (c : ClassId)
    (m : MediaType) :
    (Handler.pairRoutes classes media).any (· == ⟨c, m⟩) =
      (classes.any (· == c) && media.any (· == m)) := by
  rw [Bool.eq_iff_iff]
  simp only [Handler.pairRoutes, List.any_eq_true, List.mem_flatMap, List.mem_map, Bool.and_eq_true]
  constructor
  · rintro ⟨_, ⟨c', ofClasses, m', ofMedia, rfl⟩, same⟩
    obtain ⟨sameClass, sameMedia⟩ := (Route.beq_iff ..).mp same
    exact ⟨⟨c', ofClasses, beq_iff_eq.mpr sameClass⟩, m', ofMedia, sameMedia⟩
  · rintro ⟨⟨c', ofClasses, sameClass⟩, m', ofMedia, sameMedia⟩
    exact ⟨⟨c', m'⟩, ⟨c', ofClasses, m', ofMedia, rfl⟩,
      (Route.beq_iff ..).mpr ⟨beq_iff_eq.mp sameClass, sameMedia⟩⟩

theorem firsts_of_row {seen : List ClassId} {c : ClassId} (media : List MediaType)
    (fresh : seen.any (· == c) = false) :
    firstsAfter (Handler.pairRoutes seen media) (media.map (Route.mk c)) =
      (distinct media).map (Route.mk c) := by
  apply firsts_after_map
  · intro x y
    rw [Bool.eq_iff_iff]
    simp [Route.beq_iff]
  · intro m
    rw [any_pair_routes, fresh]
    simp

theorem firsts_of_rows (seen classes : List ClassId) (media : List MediaType) :
    firstsAfter (Handler.pairRoutes seen media) (Handler.pairRoutes classes media) =
      Handler.pairRoutes (firstsAfter seen classes) (distinct media) := by
  induction classes generalizing seen with
  | nil => rfl
  | cons c rest ih =>
    have row : Handler.pairRoutes (c :: rest) media =
        media.map (Route.mk c) ++ Handler.pairRoutes rest media := by
      simp [Handler.pairRoutes]
    have further : firstsAfter (Handler.pairRoutes seen media ++ media.map (Route.mk c))
        (Handler.pairRoutes rest media) =
          Handler.pairRoutes (firstsAfter (c :: seen) rest) (distinct media) := by
      rw [← ih]
      refine firsts_after_congr _ fun route => ?_
      simp only [Handler.pairRoutes, List.flatMap_cons, List.any_append]
      exact Bool.or_comm _ _
    rw [row, firsts_after_append, further]
    by_cases met : seen.any (· == c) = true
    · have none : firstsAfter (Handler.pairRoutes seen media) (media.map (Route.mk c)) = [] := by
        apply firsts_after_of_seen
        intro route member
        obtain ⟨m, listed, rfl⟩ := List.mem_map.mp member
        rw [any_pair_routes, met, Bool.true_and]
        exact List.any_eq_true.mpr ⟨m, listed, BEq.rfl⟩
      have same : firstsAfter (c :: seen) rest = firstsAfter seen rest := by
        refine firsts_after_congr _ fun b => ?_
        rw [List.any_cons]
        cases equal : c == b with
        | false => simp
        | true => simp [← beq_iff_eq.mp equal, met]
      rw [none, same, firstsAfter, if_pos met]
      rfl
    · rw [firsts_of_row media (Bool.eq_false_iff.mpr met), firstsAfter, if_neg met]
      simp [Handler.pairRoutes]

theorem distinct_pair_routes (classes : List ClassId) (media : List MediaType) :
    distinct (Handler.pairRoutes classes media) =
      Handler.pairRoutes (distinct classes) (distinct media) := firsts_of_rows [] classes media

end Repetitions

namespace Handler
variable {a : Handler}

section Fitness

theorem exception_classes_of_known (known : a.KnowsExceptions h) :
    a.exceptionClasses h = .ok (distinct (a.declaredClasses h)) := by
  rcases known with ⟨declares, valid⟩ | ⟨silent, t, listed, found⟩
  · have others : a.exceptions.filter (fun t => (t.exceptionClass? h).isNone) = [] := by
      apply List.filter_eq_nil_iff.mpr
      intro t listed
      simp [Option.isSome_iff_ne_none.mp (valid t listed)]
    simp [exceptionClasses, declaresExceptions, declares, others, declaredClasses, coverage]
  · have some : a.parameterTypes.filterMap (TypeExpr.exceptionClass? h) ≠ [] := by
      obtain ⟨c, is⟩ := Option.isSome_iff_exists.mp found
      exact List.ne_nil_of_mem (List.mem_filterMap.mpr ⟨t, listed, is⟩)
    have kept := mt (distinct_eq_nil_iff _).mp some
    simp [exceptionClasses, declaresExceptions, silent, kept, declaredClasses, coverage]

theorem exception_classes_of_others {others : List TypeExpr}
    (listed : a.exceptions.filter (fun t => (t.exceptionClass? h).isNone) = others)
    (found : others ≠ []) :
    a.exceptionClasses h = .error (.noExceptionTypes a.name (some
      ("not exception classes: " ++ ", ".intercalate (others.map (TypeExpr.shown h))))) := by
  have declares : a.exceptions ≠ [] := by
    intro silent
    rw [silent] at listed
    exact found listed.symm
  subst listed
  simp [exceptionClasses, declaresExceptions, declares, List.isEmpty_eq_false_iff.mpr found]

theorem exception_classes_of_none (silent : a.exceptions = [])
    (none : ∀ t ∈ a.parameterTypes, (t.exceptionClass? h).isNone = true) :
    a.exceptionClasses h = .error (.noExceptionTypes a.name .none) := by
  have nothing : a.parameterTypes.filterMap (TypeExpr.exceptionClass? h) = [] := by
    simpa using none
  simp [exceptionClasses, declaresExceptions, silent, nothing, distinct, firstsAfter]

theorem exceptions_known_or (h : Hierarchy) (a : Handler) :
    a.KnowsExceptions h ∨
      a.exceptions.filter (fun t => (t.exceptionClass? h).isNone) ≠ [] ∨
      a.exceptions = [] ∧ ∀ t ∈ a.parameterTypes, (t.exceptionClass? h).isNone = true := by
  by_cases silent : a.exceptions = []
  · by_cases some : ∃ t ∈ a.parameterTypes, (t.exceptionClass? h).isSome = true
    · exact Or.inl (Or.inr ⟨silent, some⟩)
    · refine Or.inr (Or.inr ⟨silent, ?_⟩)
      simpa using some
  · by_cases others : a.exceptions.filter (fun t => (t.exceptionClass? h).isNone) = []
    · refine Or.inl (Or.inl ⟨silent, ?_⟩)
      simpa [List.filter_eq_nil_iff, Option.isSome_iff_ne_none] using others
    · exact Or.inr (Or.inl others)

theorem read_media_type_iff (name : String) (given : Datum) (m : MediaType) :
    readMediaType name given = .ok m ↔ spelledMedia? given = some m := by
  cases given with
  | text s =>
    simp only [readMediaType, spelledMedia?]
    cases read : MediaType.parse s with
    | ok n => simp [Except.toOption]
    | error refusal => cases refusal <;> simp [Except.toOption]
  | _ => simp [readMediaType, spelledMedia?]

theorem knows_media_types_iff (a : Handler) :
    a.KnowsMediaTypes ↔ ∀ given ∈ a.mediaTypes, (spelledMedia? given).isSome = true := by
  have spelled : ∀ given : Datum, (spelledMedia? given).isSome = true ↔
      ∃ s m, given = .text s ∧ MediaType.parse s = .ok m := by
    intro given
    cases given with
    | text s => cases read : MediaType.parse s <;> simp [spelledMedia?, read, Except.toOption]
    | _ => simp [spelledMedia?]
  simp only [KnowsMediaTypes, spelled]

theorem read_media_types_of_spelled (name : String) {given : List Datum}
    (spelled : ∀ datum ∈ given, (spelledMedia? datum).isSome = true) :
    readMediaTypes name given = .ok (given.filterMap spelledMedia?) := by
  induction given with
  | nil => rfl
  | cons datum rest ih =>
    obtain ⟨m, is⟩ := Option.isSome_iff_exists.mp (spelled datum (by simp))
    have later := ih fun other member => spelled other (by simp [member])
    simp [readMediaTypes, (read_media_type_iff name datum m).mpr is, later, is]

theorem read_media_types_of_unreadable {name : String} {given : List Datum}
    {failure : BuildFailure} (unreadable : Unreadable name given failure) :
    readMediaTypes name given = .error failure := by
  induction unreadable with
  | here refused => simp [readMediaTypes, refused]
  | @later datum rest failure read _ ih =>
    obtain ⟨m, is⟩ := Option.isSome_iff_exists.mp read
    simp [readMediaTypes, (read_media_type_iff name datum m).mpr is, ih]

theorem spelled_or_unreadable (name : String) (given : List Datum) :
    (∀ datum ∈ given, (spelledMedia? datum).isSome = true) ∨
      ∃ failure, Unreadable name given failure := by
  induction given with
  | nil => simp
  | cons datum rest ih =>
    cases read : readMediaType name datum with
    | error failure => exact Or.inr ⟨failure, .here read⟩
    | ok m =>
      have spelled : (spelledMedia? datum).isSome = true := by
        simp [(read_media_type_iff name datum m).mp read]
      rcases ih with others | ⟨failure, unreadable⟩
      · exact Or.inl (by simpa [spelled] using others)
      · exact Or.inr ⟨failure, .later spelled unreadable⟩

theorem declared_routes_paired (h : Hierarchy) (a : Handler) :
    a.declaredRoutes h = pairRoutes (a.declaredClasses h) a.declaredMedia := by
  rw [declaredRoutes, pairRoutes]
  induction a.declaredClasses h with
  | nil => rfl
  | cons c rest ih => simp [List.product_cons, ih]

theorem routes_of_fit (known : a.KnowsExceptions h) (readable : a.KnowsMediaTypes) :
    a.routes h = .ok (distinct (a.declaredRoutes h)) := by
  have media : a.coveredMediaTypes = .ok (distinct a.declaredMedia) := by
    by_cases silent : a.mediaTypes = []
    · simp [coveredMediaTypes, declaresMediaTypes, declaredMedia, silent, distinct, firstsAfter]
    · have read := read_media_types_of_spelled a.name ((knows_media_types_iff a).mp readable)
      simp [coveredMediaTypes, declaresMediaTypes, declaredMedia, silent, read, Except.map]
  simp only [routes, exception_classes_of_known known, media, Except.map, declared_routes_paired,
    distinct_pair_routes]

theorem routes_of_unfit {failure : BuildFailure} (fault : a.Unfit h failure) :
    a.routes h = .error failure := by
  cases fault with
  | otherTypes listed found => simp only [routes, exception_classes_of_others listed found]
  | noTypes silent none => simp only [routes, exception_classes_of_none silent none]
  | mediaType known unreadable =>
    have declares : a.mediaTypes ≠ [] := by
      intro silent
      rw [silent] at unreadable
      cases unreadable
    simp [routes, exception_classes_of_known known, coveredMediaTypes, declaresMediaTypes, declares,
      read_media_types_of_unreadable unreadable, Except.map]

theorem fit_or_unfit (h : Hierarchy) (a : Handler) :
    a.KnowsExceptions h ∧ a.KnowsMediaTypes ∨ ∃ failure, a.Unfit h failure := by
  rcases exceptions_known_or h a with known | others | ⟨silent, none⟩
  · rcases spelled_or_unreadable a.name a.mediaTypes with spelled | ⟨failure, unreadable⟩
    · exact Or.inl ⟨known, (knows_media_types_iff a).mpr spelled⟩
    · exact Or.inr ⟨failure, .mediaType known unreadable⟩
  · exact Or.inr ⟨_, .otherTypes rfl others⟩
  · exact Or.inr ⟨_, .noTypes silent none⟩

theorem routes_ok_iff (a : Handler) (routes : List Route) :
    a.routes h = .ok routes ↔
      a.KnowsExceptions h ∧ a.KnowsMediaTypes ∧ routes = distinct (a.declaredRoutes h) := by
  constructor
  · intro covered
    rcases fit_or_unfit h a with ⟨known, readable⟩ | ⟨failure, fault⟩
    · rw [routes_of_fit known readable] at covered
      cases covered
      exact ⟨known, readable, rfl⟩
    · rw [routes_of_unfit fault] at covered
      cases covered
  · rintro ⟨known, readable, rfl⟩
    exact routes_of_fit known readable

theorem routes_error_iff (a : Handler) (failure : BuildFailure) :
    a.routes h = .error failure ↔ a.Unfit h failure := by
  constructor
  · intro refused
    rcases fit_or_unfit h a with ⟨known, readable⟩ | ⟨_, fault⟩
    · rw [routes_of_fit known readable] at refused
      cases refused
    · rw [routes_of_unfit fault] at refused
      cases refused
      exact fault
  · exact routes_of_unfit

end Fitness
end Handler

end HandlerRouting
