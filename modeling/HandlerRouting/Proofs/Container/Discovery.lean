import HandlerRouting.Hierarchy.Builtin
import HandlerRouting.Proofs.Container.Names

/-!
Discovery gives the handlers that a container declares, each once. The walk looks for a name's mark
from the class that defines the name, and asks that class for what the container gives: both come to
what the lineage says of the name, because no class before that one has it.
-/

namespace HandlerRouting.Library
variable {l : Library} {container definer : ClassId} {instance? : Option Instance} {name : String}

theorem nearest_mark_iff {classes : List ClassId} {mark : Mark} :
    l.nearestMark name classes = some mark ↔ l.Nearest name classes mark := by
  induction classes with
  | nil =>
    constructor
    · intro found
      cases found
    · intro nearest
      cases nearest
  | cons c rest ih =>
    cases here : (l.member? c name).bind Member.mark? with
    | some first =>
      have found : l.nearestMark name (c :: rest) = some first := by
        simp [nearestMark, here]
      obtain ⟨member, defined, marked⟩ := Option.bind_eq_some_iff.mp here
      rw [found]
      constructor
      · intro same
        cases same
        exact .here defined marked
      · intro nearest
        cases nearest with
        | here known mark =>
          rw [defined] at known
          cases known
          exact marked.symm.trans mark
        | further unmarked _ =>
          rw [unmarked member defined] at marked
          cases marked
    | none =>
      have passed : l.nearestMark name (c :: rest) = l.nearestMark name rest := by
        simp [nearestMark, here]
      have unmarked := Option.bind_eq_none_iff.mp here
      rw [passed, ih]
      constructor
      · exact .further unmarked
      · intro nearest
        cases nearest with
        | here defined marked =>
          rw [unmarked _ defined] at marked
          cases marked
        | further _ behind => exact behind

theorem FirstDefines.upwards (rootLast : l.RootLast container) {above : List ClassId}
    (first : l.FirstDefines container definer name above) :
    (l.hierarchy.lineage container).dropWhile (· ≠ definer) = definer :: above := by
  obtain ⟨below, split, silent⟩ := first.below_silent rootLast
  have others : ∀ c ∈ below, decide (c ≠ definer) = true := by
    intro c member
    apply decide_eq_true
    rintro rfl
    exact silent c member first.defines
  rw [split, List.dropWhile_append_of_pos others, List.dropWhile_cons_of_neg (by simp)]

theorem FirstDefines.attribute (rootLast : l.RootLast container) {above : List ClassId}
    (first : l.FirstDefines container definer name above) :
    l.attribute? container name = l.member? definer name := by
  obtain ⟨below, split, silent⟩ := first.below_silent rootLast
  have passed : below.findSome? (fun c => l.member? c name) = none :=
    List.findSome?_eq_none_iff.mpr fun c member => member_none_iff.mpr (silent c member)
  rw [attribute?, split, List.findSome?_append, passed, Option.none_or, List.findSome?_cons]
  cases found : l.member? definer name with
  | some member => rfl
  | none => exact absurd first.defines (member_none_iff.mp found)

theorem FirstDefines.access (rootLast : l.RootLast container) {above : List ClassId}
    (first : l.FirstDefines container definer name above) :
    l.access? container instance? name definer = l.callable? container instance? name := by
  rw [access?, callable?, first.attribute rootLast]

theorem handler_of_some (rootLast : l.RootLast container) {mark : Mark} {found : Access}
    (declares : l.Declares container instance? definer name mark found) (m : TypeMemory) :
    l.handlerOf container instance? m definer name =
      some (l.described definer name mark found m, (found.parameterTypes l.hierarchy m).2) := by
  obtain ⟨above, first, nearest⟩ := declares.declared
  have marked := nearest_mark_iff.mpr nearest
  have called := (first.access rootLast).trans declares.callable
  rw [handlerOf, first.upwards rootLast, marked, called]
  rfl

theorem declares_of_handler (rootLast : l.RootLast container) {above : List ClassId}
    (first : l.FirstDefines container definer name above) {m : TypeMemory}
    {result : Handler × TypeMemory}
    (made : l.handlerOf container instance? m definer name = some result) :
    ∃ mark found, l.Declares container instance? definer name mark found := by
  rw [handlerOf, first.upwards rootLast, first.access rootLast] at made
  cases marked : l.nearestMark name (definer :: above) with
  | none => simp [marked] at made
  | some mark =>
    cases called : l.callable? container instance? name with
    | none => simp [called] at made
    | some found =>
      exact ⟨mark, found, ⟨above, first, nearest_mark_iff.mp marked⟩, called⟩

def declaring (l : Library) (container : ClassId) (instance? : Option Instance)
    (entry : ClassId × String) : Bool :=
  (l.handlerOf container instance? l.types entry.1 entry.2).isSome

theorem declaring_iff (rootLast : l.RootLast container) {above : List ClassId}
    (first : l.FirstDefines container definer name above) :
    l.declaring container instance? (definer, name) = true ↔
      ∃ mark found, l.Declares container instance? definer name mark found := by
  constructor
  · intro made
    obtain ⟨result, made⟩ := Option.isSome_iff_exists.mp made
    exact declares_of_handler rootLast first made
  · rintro ⟨mark, found, declares⟩
    simp [declaring, handler_of_some rootLast declares]

theorem handlers_of_described (rootLast : l.RootLast container) {names : List (ClassId × String)}
    (firsts : ∀ entry ∈ names, ∃ above, l.FirstDefines container entry.1 entry.2 above)
    (m : TypeMemory) :
    l.Describes container instance? m (names.filter (l.declaring container instance?))
      (l.handlersOf container instance? m names) := by
  induction names generalizing m with
  | nil => exact .nil
  | cons entry rest ih =>
    obtain ⟨definer, name⟩ := entry
    obtain ⟨⟨above, first⟩, behind⟩ := List.forall_mem_cons.mp firsts
    by_cases declaring : l.declaring container instance? (definer, name) = true
    · obtain ⟨mark, found, declares⟩ := (declaring_iff rootLast first).mp declaring
      rw [List.filter_cons_of_pos declaring, handlersOf, handler_of_some rootLast declares]
      exact .cons declares (ih behind _)
    · have unmade : l.handlerOf container instance? m definer name = none := by
        apply Option.eq_none_iff_forall_ne_some.mpr
        intro result made
        exact declaring ((declaring_iff rootLast first).mpr
          (declares_of_handler rootLast first made))
      rw [List.filter_cons_of_neg declaring, handlersOf, unmade]
      exact ih behind m

theorem handlers_discovered (container : ClassId) (instance? : Option Instance)
    (rootLast : l.RootLast container) (namesOnce : l.NamesOnce) :
    ∃ names : List (ClassId × String),
      (∀ definer name, (definer, name) ∈ names ↔
        ∃ mark found, l.Declares container instance? definer name mark found) ∧
      names.Pairwise (l.Precedes (l.hierarchy.lineage container)) ∧
      (names.map Prod.snd).Nodup ∧
      l.Describes container instance? l.types names (l.handlers container instance?) := by
  refine ⟨(l.definedNames container).filter (l.declaring container instance?), ?_, ?_, ?_, ?_⟩
  · intro definer name
    rw [List.mem_filter, mem_defined_names rootLast]
    constructor
    · rintro ⟨⟨above, first⟩, declaring⟩
      exact (declaring_iff rootLast first).mp declaring
    · rintro ⟨mark, found, declares⟩
      obtain ⟨above, first, _⟩ := declares.declared
      exact ⟨⟨above, first⟩, (declaring_iff rootLast first).mpr ⟨mark, found, declares⟩⟩
  · exact (defined_names_ordered rootLast namesOnce).filter _
  · have distinct := names_from_distinct namesOnce [] (l.levels container)
    exact distinct.sublist (List.filter_sublist.map Prod.snd)
  · apply handlers_of_described rootLast
    rintro ⟨definer, name⟩ member
    exact (mem_defined_names rootLast).mp member

def service : ClassId := Hierarchy.builtinBases.length

def pageService : ClassId := service + 1

/-- A service with two handlers, and one below it that defines the first of them anew and puts a
value in the place of the second. -/
def services : Library where
  hierarchy := Hierarchy.defineBuiltins Hierarchy.builtin
    [("Service", [Hierarchy.rootClass]), ("PageService", [service])]
  bodies := [
    (service, [
      ("on_value", .function
        { identity := "Service.on_value", signature := { scope := .ofClasses [], params := [] }
          mark := some { exceptions := [.cls (Hierarchy.builtinPlace "ValueError")] } }),
      ("on_key", .function
        { identity := "Service.on_key", mark := some .bare
          signature :=
            { scope := .ofClasses Hierarchy.builtinNames
              params := [("e", some (.text "KeyError"))] } })]),
    (pageService, [
      ("on_key", .value .null),
      ("on_value", .function
        { identity := "PageService.on_value"
          signature := { scope := .ofClasses [], params := [] } })])]

theorem page_service_discovered :
    (services.handlers pageService none).map Handler.name = ["PageService.on_value"] ∧
    ∃ names : List (ClassId × String),
      (∀ definer name, (definer, name) ∈ names ↔
        ∃ mark found, services.Declares pageService none definer name mark found) ∧
      names.Pairwise (services.Precedes (services.hierarchy.lineage pageService)) ∧
      (names.map Prod.snd).Nodup ∧
      services.Describes pageService none services.types names
        (services.handlers pageService none) := by
  have lineage : services.hierarchy.lineage pageService =
      [pageService, service] ++ [Hierarchy.rootClass] := by decide +kernel
  refine ⟨by decide +kernel, handlers_discovered pageService none ?_ ?_⟩
  · exact root_last_of_append lineage (by decide +kernel)
  · unfold NamesOnce
    decide +kernel

end HandlerRouting.Library
