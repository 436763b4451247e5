import HandlerRouting.Proofs.Container.Inherited
import HandlerRouting.Proofs.RoutingTable.Reordered

/-!
Tables of classes that define handlers anew. Under each name the lower class declares what the upper
one does, so the tables differ only by what the functions show of themselves: by the classes among
their parameters, and by whether two names are still those of one function.
-/

namespace HandlerRouting.Library
variable {l : Library}

section Coverage
variable {h : Hierarchy} {a b : Handler}

theorem knows_exceptions_of_silent (silent : a.exceptions = []) :
    a.KnowsExceptions h ↔ ∃ c, c ∈ a.declaredClasses h := by
  simp only [Handler.KnowsExceptions, Handler.declaredClasses, Handler.coverage, silent,
    List.mem_filterMap, Option.isSome_iff_exists]
  constructor
  · rintro (⟨listed, _⟩ | ⟨_, t, shown, c, found⟩)
    · cases listed rfl
    · exact ⟨c, t, shown, found⟩
  · rintro ⟨c, t, shown, found⟩
    exact Or.inr ⟨trivial, t, shown, c, found⟩

theorem classes_alike (exceptions : b.exceptions = a.exceptions)
    (shown : a.exceptions = [] → ∀ c, c ∈ b.declaredClasses h ↔ c ∈ a.declaredClasses h)
    (c : ClassId) : c ∈ b.declaredClasses h ↔ c ∈ a.declaredClasses h := by
  by_cases silent : a.exceptions = []
  · exact shown silent c
  · have listed : b.coverage = a.coverage := by
      simp [Handler.coverage, exceptions, silent]
    rw [Handler.declaredClasses, Handler.declaredClasses, listed]

theorem known_alike (exceptions : b.exceptions = a.exceptions)
    (classes : ∀ c, c ∈ b.declaredClasses h ↔ c ∈ a.declaredClasses h)
    (known : a.KnowsExceptions h) : b.KnowsExceptions h := by
  by_cases silent : a.exceptions = []
  · obtain ⟨c, shown⟩ := (knows_exceptions_of_silent silent).mp known
    exact (knows_exceptions_of_silent (exceptions.trans silent)).mpr ⟨c, (classes c).mpr shown⟩
  · rcases known with ⟨_, listed⟩ | ⟨nothing, _⟩
    · exact Or.inl ⟨exceptions ▸ silent, exceptions ▸ listed⟩
    · exact absurd nothing silent

theorem mem_declared_routes {route : Route} :
    route ∈ a.declaredRoutes h ↔
      route.exception ∈ a.declaredClasses h ∧ route.media ∈ a.declaredMedia := by
  simp only [Handler.declaredRoutes, List.mem_map, Prod.exists, List.mem_product]
  constructor
  · rintro ⟨c, m, ⟨covered, media⟩, rfl⟩
    exact ⟨covered, media⟩
  · rintro ⟨covered, media⟩
    exact ⟨route.exception, route.media, ⟨covered, media⟩, rfl⟩

theorem routes_alike (media : b.mediaTypes = a.mediaTypes)
    (classes : ∀ c, c ∈ b.declaredClasses h ↔ c ∈ a.declaredClasses h) (route : Route) :
    route ∈ b.declaredRoutes h ↔ route ∈ a.declaredRoutes h := by
  have same : b.declaredMedia = a.declaredMedia := by
    rw [Handler.declaredMedia, Handler.declaredMedia, media]
  rw [mem_declared_routes, mem_declared_routes, classes, same]

end Coverage

section Succession
variable {base derived : ClassId} {a b : Handler}

theorem mem_successions : (a, b) ∈ l.successions base derived ↔
    ∃ name, (name, a) ∈ l.namedHandlers base ∧ (name, b) ∈ l.namedHandlers derived := by
  simp only [successions, List.mem_flatMap, List.mem_map, List.mem_filter, decide_eq_true_eq,
    Prod.mk.injEq]
  constructor
  · rintro ⟨⟨name, _⟩, upper, ⟨_, _⟩, ⟨lower, rfl⟩, rfl, rfl⟩
    exact ⟨_, upper, lower⟩
  · rintro ⟨name, upper, lower⟩
    exact ⟨(name, a), upper, (name, b), ⟨lower, rfl⟩, rfl, rfl⟩

theorem upper_of_succession (pair : (a, b) ∈ l.successions base derived) :
    a ∈ l.handlers base none := by
  obtain ⟨name, upper, _⟩ := mem_successions.mp pair
  exact mem_handlers_iff.mpr ⟨name, upper⟩

theorem lower_of_succession (pair : (a, b) ∈ l.successions base derived) :
    b ∈ l.handlers derived none := by
  obtain ⟨name, _, lower⟩ := mem_successions.mp pair
  exact mem_handlers_iff.mpr ⟨name, lower⟩

variable (built : l.hierarchy.Built) (rootLast : l.RootLast derived)
  (overrides : l.Overrides base derived) (nothingElse : l.NothingElse base derived)
include built rootLast overrides nothingElse

theorem declared_of_succession : ∀ pair ∈ l.successions base derived,
    pair.2.exceptions = pair.1.exceptions ∧ pair.2.mediaTypes = pair.1.mediaTypes := by
  rintro ⟨a, b⟩ member
  have rootLastToo := rootLast.of_descends built overrides.descends
  obtain ⟨name, upper, lower⟩ := mem_successions.mp member
  obtain ⟨own, found, declared, exceptions, media⟩ := declared_of_named rootLastToo upper
  obtain ⟨other, foundToo, declaredToo, exceptionsToo, mediaToo⟩ :=
    declared_of_named rootLast lower
  obtain ⟨_, marked, _⟩ := (exists_declared_iff rootLastToo).mp ⟨found, declared⟩
  obtain ⟨_, markedToo, _⟩ := (exists_declared_iff rootLast).mp ⟨foundToo, declaredToo⟩
  rw [mark_inherited built overrides nothingElse, markedToo] at marked
  cases marked
  exact ⟨exceptionsToo.trans exceptions.symm, mediaToo.trans media.symm⟩

theorem exists_successor (member : a ∈ l.handlers base none) :
    ∃ b, (a, b) ∈ l.successions base derived := by
  obtain ⟨name, upper⟩ := mem_handlers_iff.mp member
  obtain ⟨mark, found, declared, _⟩ :=
    declared_of_named (rootLast.of_descends built overrides.descends) upper
  obtain ⟨foundToo, declaredToo⟩ :=
    (declares_override_iff built rootLast overrides nothingElse mark).mp ⟨found, declared⟩
  obtain ⟨b, lower⟩ := exists_named rootLast declaredToo
  exact ⟨b, mem_successions.mpr ⟨name, upper, lower⟩⟩

theorem exists_predecessor (member : b ∈ l.handlers derived none) :
    ∃ a, (a, b) ∈ l.successions base derived := by
  obtain ⟨name, lower⟩ := mem_handlers_iff.mp member
  obtain ⟨mark, found, declared, _⟩ := declared_of_named rootLast lower
  obtain ⟨foundToo, declaredToo⟩ :=
    (declares_override_iff built rootLast overrides nothingElse mark).mpr ⟨found, declared⟩
  obtain ⟨a, upper⟩ := exists_named (rootLast.of_descends built overrides.descends) declaredToo
  exact ⟨a, mem_successions.mpr ⟨name, upper, lower⟩⟩

section Shown
variable (shownAlike : l.ShownAlike base derived)
include shownAlike

theorem routes_of_succession : ∀ pair ∈ l.successions base derived, ∀ route,
    route ∈ pair.2.declaredRoutes l.hierarchy ↔ route ∈ pair.1.declaredRoutes l.hierarchy := by
  intro pair member
  obtain ⟨exceptions, media⟩ :=
    declared_of_succession built rootLast overrides nothingElse pair member
  exact routes_alike media (classes_alike exceptions (shownAlike pair member))

theorem shared_of_valid (valid : RoutingTable.Valid l.hierarchy (l.handlers derived none)) :
    l.SharedTogether base derived := by
  rintro ⟨a, b⟩ first ⟨c, d⟩ second ⟨route, own, other, ownToo, same⟩
  have routes := routes_of_succession built rootLast overrides nothingElse shownAlike
  apply valid.agree (route, b) ?_ (other, d) ?_ same
  · exact RoutingTable.mem_declared_by.mpr
      ⟨lower_of_succession first, (routes _ first route).mpr own⟩
  · exact RoutingTable.mem_declared_by.mpr
      ⟨lower_of_succession second, (routes _ second other).mpr ownToo⟩

/-- The lower class's handlers are fit where the upper one's are, and they agree where names that
share a route stay together. -/
theorem valid_of_shared (valid : RoutingTable.Valid l.hierarchy (l.handlers base none))
    (shared : l.SharedTogether base derived) :
    RoutingTable.Valid l.hierarchy (l.handlers derived none) := by
  have declared := declared_of_succession built rootLast overrides nothingElse
  have routes := routes_of_succession built rootLast overrides nothingElse shownAlike
  refine ⟨?_, ?_, ?_⟩
  · intro b lower
    obtain ⟨a, pair⟩ := exists_predecessor built rootLast overrides nothingElse lower
    obtain ⟨exceptions, _⟩ := declared _ pair
    exact known_alike exceptions (classes_alike exceptions (shownAlike (a, b) pair))
      (valid.known a (upper_of_succession pair))
  · intro b lower
    obtain ⟨a, pair⟩ := exists_predecessor built rootLast overrides nothingElse lower
    have readable := valid.readable a (upper_of_succession pair)
    rwa [Handler.KnowsMediaTypes, ← (declared _ pair).2] at readable
  · rintro ⟨route, b⟩ claim ⟨other, d⟩ claimToo same
    obtain ⟨lower, own⟩ := RoutingTable.mem_declared_by.mp claim
    obtain ⟨lowerToo, ownToo⟩ := RoutingTable.mem_declared_by.mp claimToo
    obtain ⟨a, first⟩ := exists_predecessor built rootLast overrides nothingElse lower
    obtain ⟨c, second⟩ := exists_predecessor built rootLast overrides nothingElse lowerToo
    exact shared (a, b) first (c, d) second
      ⟨route, (routes _ first route).mp own, other, (routes _ second other).mp ownToo, same⟩

theorem declared_alike (route : Route) :
    (∃ b ∈ l.handlers derived none, ∃ own ∈ b.declaredRoutes l.hierarchy,
      (route == own) = true) ↔
    ∃ a ∈ l.handlers base none, ∃ own ∈ a.declaredRoutes l.hierarchy, (route == own) = true := by
  have routes := routes_of_succession built rootLast overrides nothingElse shownAlike
  constructor
  · rintro ⟨b, lower, own, declared, same⟩
    obtain ⟨a, pair⟩ := exists_predecessor built rootLast overrides nothingElse lower
    exact ⟨a, upper_of_succession pair, own, (routes _ pair own).mp declared, same⟩
  · rintro ⟨a, upper, own, declared, same⟩
    obtain ⟨b, pair⟩ := exists_successor built rootLast overrides nothingElse upper
    exact ⟨b, lower_of_succession pair, own, (routes _ pair own).mpr declared, same⟩

end Shown

end Succession

section Tables
variable {base derived : ClassId}

/-- A class that only puts unmarked functions in the place of inherited handlers has a table where
names that share a route stay names of one function, and that table has the inherited routes. -/
theorem overrides_keep_routes (built : l.hierarchy.Built) (rootLast : l.RootLast derived)
    (overrides : l.Overrides base derived) (nothingElse : l.NothingElse base derived)
    (shownAlike : l.ShownAlike base derived) {t : RoutingTable}
    (table : RoutingTable.build l.hierarchy (l.handlers base none) = .ok t) :
    ((∃ u, RoutingTable.build l.hierarchy (l.handlers derived none) = .ok u) ↔
      l.SharedTogether base derived) ∧
    ∀ u, RoutingTable.build l.hierarchy (l.handlers derived none) = .ok u →
      ∀ route, u.has route = t.has route := by
  obtain ⟨valid, _⟩ := RoutingTable.build_declared table
  refine ⟨⟨?_, ?_⟩, ?_⟩
  · rintro ⟨u, tableToo⟩
    have validToo := (RoutingTable.build_declared tableToo).1
    exact shared_of_valid built rootLast overrides nothingElse shownAlike validToo
  · intro shared
    have validToo :=
      valid_of_shared built rootLast overrides nothingElse shownAlike valid shared
    exact ⟨_, (RoutingTable.build_ok_iff ..).mpr ⟨validToo, rfl⟩⟩
  · intro u tableToo route
    rw [Bool.eq_iff_iff, RoutingTable.has_iff_declared table,
      RoutingTable.has_iff_declared tableToo]
    exact declared_alike built rootLast overrides nothingElse shownAlike route

theorem routes_all_has {t u : RoutingTable} (same : ∀ route, u.has route = t.has route) :
    t.routes.all u.has = true := by
  apply List.all_eq_true.mpr
  intro route listed
  rw [same]
  exact List.any_eq_true.mpr ⟨route, listed, beq_self_eq_true route⟩

theorem loses_of_check
    (checked : (RoutingTable.build l.hierarchy (l.handlers base none)).toOption.any (fun t =>
      !(RoutingTable.build l.hierarchy (l.handlers derived none)).toOption.any (fun u =>
        t.routes.all u.has && u.routes.all t.has)) = true) :
    ¬ l.KeepsRoutes base derived := by
  intro keeps
  obtain ⟨t, table, lost⟩ := RoutingTable.exists_of_check _ _ _ checked
  obtain ⟨u, tableToo, same⟩ := keeps t table
  rw [tableToo, Except.toOption, Option.any_some, routes_all_has same,
    routes_all_has fun route => (same route).symm] at lost
  cases lost

end Tables

section Samples

def upperClass : ClassId := Hierarchy.builtinBases.length

def sideClass : ClassId := upperClass + 1

def lowerClass : ClassId := sideClass + 1

def threeClasses : Hierarchy := Hierarchy.defineBuiltins Hierarchy.builtin
  [("Upper", [Hierarchy.rootClass]), ("Side", [Hierarchy.rootClass]),
    ("Lower", [upperClass, sideClass])]

def classes (upper side lower : List (String × Member)) : Library where
  hierarchy := threeClasses
  bodies := [(upperClass, upper), (sideClass, side), (lowerClass, lower)]

def handling (identity : String) (mark : Option Mark) (known : List (String × ClassId))
    (types : List TypeExpr) : Member :=
  let params := types.map fun type => ("e", some type)
  .function { identity, mark, signature := { scope := .ofClasses known, params } }

def valueError : TypeExpr := .cls (Hierarchy.builtinPlace "ValueError")

def keyError : TypeExpr := .cls (Hierarchy.builtinPlace "KeyError")

def unannotated : Library := classes
  [("on_value", handling "Upper.on_value" (some .bare) [] [valueError])] []
  [("on_value", handling "Lower.on_value" none [] [])]

def onValue : Member := handling "Upper.on_value" (some { exceptions := [valueError] }) [] []

def parted : Library := classes
  [("on_value", onValue), ("on_error", onValue)] []
  [("on_value", handling "Lower.on_value" none [] [])]

def widened : Library := classes
  [("on_value", onValue)]
  [("on_key", handling "Side.on_key" (some { exceptions := [keyError] }) [] [])]
  [("on_value", handling "Lower.on_value" none [] [])]

def lateOrValue : TypeExpr := .union false [.forward (some 0) "Late", valueError]

/-- A name in a union that the upper class cannot look up, and that is remembered from a function of
the lower one, which can. -/
def remembered : Library := classes
  [("on_key", handling "Upper.on_key" (some { exceptions := [keyError] }) [] []),
    ("on_late", handling "Upper.on_late" (some .bare) [] [lateOrValue])] []
  [("on_key", handling "Lower.on_key" none
    [("Late", Hierarchy.builtinPlace "IndexError")] [lateOrValue])]

theorem three_classes_built : threeClasses.Built :=
  Hierarchy.built_define_builtins Hierarchy.built_builtin _

theorem lower_descends : upperClass ∈ threeClasses.lineage lowerClass := by
  decide +kernel

section Lower
variable {upper side lower : List (String × Member)}

theorem classes_hierarchy : (classes upper side lower).hierarchy = threeClasses := by
  simp only [classes]

theorem classes_built : (classes upper side lower).hierarchy.Built := by
  rw [classes_hierarchy]
  exact three_classes_built

theorem lower_root_last : (classes upper side lower).RootLast lowerClass := by
  apply root_last_of_built classes_built
  rw [classes_hierarchy]
  decide +kernel

theorem overrides_of_members
    (handled : ∀ entry ∈ (classes upper side lower).membersOf lowerClass,
      entry.1 ∈ Entries.keys ((classes upper side lower).namedHandlers upperClass))
    (unmarked : ∀ entry ∈ (classes upper side lower).membersOf lowerClass,
      entry.2.isUnmarkedFunction = true) :
    (classes upper side lower).Overrides upperClass lowerClass := by
  refine ⟨?_, by decide, handled, unmarked⟩
  rw [classes_hierarchy]
  exact lower_descends

theorem loses_by_members
    (handled : ∀ entry ∈ (classes upper side lower).membersOf lowerClass,
      entry.1 ∈ Entries.keys ((classes upper side lower).namedHandlers upperClass))
    (unmarked : ∀ entry ∈ (classes upper side lower).membersOf lowerClass,
      entry.2.isUnmarkedFunction = true)
    (lost : ¬ (classes upper side lower).KeepsRoutes upperClass lowerClass) :
    (classes upper side lower).LosesRoutes upperClass lowerClass :=
  ⟨classes_built, lower_root_last, overrides_of_members handled unmarked, lost⟩

end Lower

/-- What is annotated, which names go together, what else is inherited and what is remembered each
make a difference. -/
theorem overrides_lose_routes :
    unannotated.LosesRoutes upperClass lowerClass ∧ parted.LosesRoutes upperClass lowerClass ∧
      widened.LosesRoutes upperClass lowerClass ∧
      remembered.LosesRoutes upperClass lowerClass := by
  refine ⟨?_, ?_, ?_, ?_⟩
  all_goals
    apply loses_by_members ?_ ?_ (loses_of_check ?_)
    all_goals decide +kernel

def replaced : Library := classes
  [("on_value", handling "Upper.on_value" (some .bare) [] [valueError]),
    ("on_key", handling "Upper.on_key" (some { exceptions := [keyError] }) [] []),
    ("on_lookup", handling "Upper.on_key" (some { exceptions := [keyError] }) [] [])]
  [("help", handling "Side.help" none [] [])]
  [("on_value", handling "Lower.on_value" none [] [valueError, .cls Hierarchy.rootClass]),
    ("on_lookup", handling "Lower.on_key" none [] []),
    ("on_key", handling "Lower.on_key" none [] [])]

theorem replaced_keeps_routes :
    replaced.SharedTogether upperClass lowerClass ∧
      replaced.KeepsRoutes upperClass lowerClass ∧
      ∃ t, RoutingTable.build replaced.hierarchy (replaced.handlers upperClass none) = .ok t := by
  have overrides : replaced.Overrides upperClass lowerClass :=
    overrides_of_members (by decide +kernel) (by decide +kernel)
  have nothingElse : replaced.NothingElse upperClass lowerClass := by
    unfold NothingElse Defines
    decide +kernel
  have classes : ∀ pair ∈ replaced.successions upperClass lowerClass,
      pair.2.declaredClasses replaced.hierarchy = pair.1.declaredClasses replaced.hierarchy := by
    decide +kernel
  have shownAlike : replaced.ShownAlike upperClass lowerClass := by
    intro pair member _ c
    rw [classes pair member]
  have shared : replaced.SharedTogether upperClass lowerClass := by
    unfold SharedTogether
    decide +kernel
  have kept := fun t => overrides_keep_routes (t := t) classes_built lower_root_last overrides
    nothingElse shownAlike
  obtain ⟨t, table, _⟩ := RoutingTable.exists_of_check replaced.hierarchy
    (replaced.handlers upperClass none) (fun _ => true) (by decide +kernel)
  refine ⟨shared, ?_, t, table⟩
  intro t table
  obtain ⟨u, tableToo⟩ := (kept t table).1.mpr shared
  exact ⟨u, tableToo, (kept t table).2 u tableToo⟩

end Samples

end HandlerRouting.Library
