import HandlerRouting.Container.Asked
import HandlerRouting.Proofs.Container.Discovery
import HandlerRouting.Proofs.Signature.Returning

/-!
Handlers of an object of a container. An object changes what its functions are bound to, and nothing
else of what the container declares, unless it holds values of its own. Where the container has been
asked before, only names that stood for nothing then can make a difference.
-/

namespace HandlerRouting

theorem Member.access_signature {member : Member} {container : ClassId} {identity? : Option String}
    {found : Access} (called : member.access container identity? = some found) :
    found.signature = member.signature? := by
  cases member with
  | value => cases called
  | _ =>
    obtain rfl := Option.some.inj called
    rfl

theorem Member.access_alike (member : Member) (container : ClassId)
    (identity? other? : Option String) :
    (member.access container identity?).isSome = (member.access container other?).isSome := by
  cases member <;> rfl

namespace Library
variable {l : Library} {container : ClassId} {instance? first second : Option Instance}
  {m n : TypeMemory} {definer : ClassId} {name : String} {f g : Finding}

theorem finding_iff : l.finding? container instance? m definer name = some f ↔
    l.nearestMark name ((l.hierarchy.lineage container).dropWhile (· ≠ definer)) = some f.mark ∧
      l.access? container instance? name definer = some f.found ∧
      f.definer = definer ∧ f.name = name ∧ f.before = m := by
  obtain ⟨own, called, mark, found, before⟩ := f
  simp only [finding?, Option.bind_eq_bind, Option.bind_eq_some_iff, Option.pure_def,
    Option.some.injEq, Finding.mk.injEq]
  constructor
  · rintro ⟨_, marked, _, reached, rfl, rfl, rfl, rfl, rfl⟩
    exact ⟨marked, reached, rfl, rfl, rfl⟩
  · rintro ⟨marked, reached, rfl, rfl, rfl⟩
    exact ⟨mark, marked, found, reached, rfl, rfl, rfl, rfl, rfl⟩

theorem findings_cons_none {rest : List (ClassId × String)}
    (here : l.finding? container instance? m definer name = none) :
    l.findingsOf container instance? m ((definer, name) :: rest) =
      l.findingsOf container instance? m rest := by
  rw [findingsOf, here]

theorem findings_cons_some {rest : List (ClassId × String)}
    (here : l.finding? container instance? m definer name = some f) :
    l.findingsOf container instance? m ((definer, name) :: rest) =
      f :: l.findingsOf container instance? (f.after l.hierarchy) rest := by
  rw [findingsOf, here]

theorem handlers_of_findings (l : Library) (container : ClassId) (instance? : Option Instance)
    (m : TypeMemory) (names : List (ClassId × String)) :
    l.handlersOf container instance? m names =
      (l.findingsOf container instance? m names).map l.handlerFound := by
  induction names generalizing m with
  | nil => rfl
  | cons entry rest ih =>
    obtain ⟨definer, name⟩ := entry
    rw [handlersOf, findingsOf, handlerOf, finding?]
    cases l.nearestMark name ((l.hierarchy.lineage container).dropWhile (· ≠ definer)) with
    | none => exact ih m
    | some mark =>
      cases l.access? container instance? name definer with
      | none => exact ih m
      | some found => exact congrArg (_ :: ·) (ih _)

/-- What is remembered has no part in which names there are and what they give. -/
theorem findings_knowing (l : Library) (container : ClassId) (instance? : Option Instance)
    (n : TypeMemory) : (l.knowing n).findings container instance? =
      l.findingsOf container instance? n (l.definedNames container) := by
  have names : ∀ seen classes, (l.knowing n).namesFrom seen classes = l.namesFrom seen classes := by
    intro seen classes
    induction classes generalizing seen with
    | nil => rfl
    | cons c rest ih => exact congrArg (_ ++ ·) (ih _)
  have each : ∀ m names, (l.knowing n).findingsOf container instance? m names =
      l.findingsOf container instance? m names := by
    intro m names
    induction names generalizing m with
    | nil => rfl
    | cons entry rest ih =>
      have same : (l.knowing n).finding? container instance? m entry.1 entry.2 =
          l.finding? container instance? m entry.1 entry.2 := rfl
      cases here : l.finding? container instance? m entry.1 entry.2 with
      | none => rw [findings_cons_none here, findings_cons_none (same.trans here), ih]
      | some f =>
        rw [findings_cons_some here, findings_cons_some (same.trans here)]
        exact congrArg _ (ih _)
  rw [findings, each, definedNames, names]
  rfl

/-! ## What is remembered -/

section Remembered
variable (formed : l.Formed) (holds : ∀ object ∈ instance?, object.Formed)

include formed holds

theorem access_formed {found : Access} {s : Signature}
    (called : l.access? container instance? name definer = some found)
    (own : found.signature = some s) : s.Formed := by
  unfold access? at called
  cases held : instance?.bind (Instance.own? · name) with
  | some value =>
    obtain ⟨object, rfl, there⟩ := Option.bind_eq_some_iff.mp held
    rw [held] at called
    obtain rfl := called
    exact holds object rfl name found s there own
  | none =>
    rw [held] at called
    obtain ⟨member, defined, reached⟩ := Option.bind_eq_some_iff.mp called
    exact formed.members definer name member s defined (Member.access_signature reached ▸ own)

theorem finding_remembered (sound : m.Sound)
    (here : l.finding? container instance? m definer name = some f) :
    (f.after l.hierarchy).Sound ∧ m.Within (f.after l.hierarchy) := by
  obtain ⟨_, called, rfl, rfl, rfl⟩ := finding_iff.mp here
  unfold Finding.after Access.parameterTypes
  cases own : f.found.signature with
  | none => exact ⟨sound, .refl _⟩
  | some s =>
    have steady := (access_formed formed holds called own).steady_evaluated l.hierarchy
    exact ⟨steady.sound sound, steady.within sound⟩

theorem findings_passed (container : ClassId) (sound : m.Sound) {keeps : Finding → Bool}
    (passed : ∀ f : Finding, f.name = name → keeps f = false) (definer : ClassId)
    (rest : List (ClassId × String)) :
    ∃ k : TypeMemory, k.Sound ∧ m.Within k ∧
      (l.findingsOf container instance? m ((definer, name) :: rest)).filter keeps =
        (l.findingsOf container instance? k rest).filter keeps ∧
      (l.findingsOf container instance? m ((definer, name) :: rest)).foldl
          (fun _ f => f.after l.hierarchy) m =
        (l.findingsOf container instance? k rest).foldl (fun _ f => f.after l.hierarchy) k := by
  cases here : l.finding? container instance? m definer name with
  | none =>
    rw [findings_cons_none here]
    exact ⟨m, sound, .refl m, rfl, rfl⟩
  | some f =>
    rw [findings_cons_some here]
    obtain ⟨still, grown⟩ := finding_remembered formed holds sound here
    obtain ⟨_, _, _, named, _⟩ := finding_iff.mp here
    refine ⟨f.after l.hierarchy, still, grown, ?_, rfl⟩
    exact List.filter_cons_of_neg (by simp [passed f named])

theorem findings_remembered (container : ClassId) (sound : m.Sound)
    (names : List (ClassId × String)) :
    ((l.findingsOf container instance? m names).foldl (fun _ f => f.after l.hierarchy) m).Sound ∧
      m.Within ((l.findingsOf container instance? m names).foldl
        (fun _ f => f.after l.hierarchy) m) := by
  induction names generalizing m with
  | nil => exact ⟨sound, .refl m⟩
  | cons entry rest ih =>
    cases here : l.finding? container instance? m entry.1 entry.2 with
    | none =>
      rw [findings_cons_none here]
      exact ih sound
    | some f =>
      rw [findings_cons_some here]
      obtain ⟨still, grown⟩ := finding_remembered formed holds sound here
      exact ⟨(ih still).1, grown.trans (ih still).2⟩

end Remembered

/-! ## Found again -/

theorem types_again (formed : ∀ s, f.found.signature = some s → s.Formed)
    (signature : g.found.signature = f.found.signature) (sound : f.before.Sound)
    (soundToo : g.before.Sound) (later : (f.after l.hierarchy).Within g.before) :
    (¬ f.Stuck l.hierarchy → ¬ g.Stuck l.hierarchy) ∧
      (¬ f.Stuck l.hierarchy ∨ g.Stuck l.hierarchy →
        (g.found.parameterTypes l.hierarchy g.before).1 =
          (f.found.parameterTypes l.hierarchy f.before).1) := by
  unfold Finding.Stuck Access.parameterTypes
  cases own : f.found.signature with
  | none => simp [signature, own]
  | some s =>
    simp only [Finding.after, Access.parameterTypes, own] at later
    simp only [signature, own, Option.some.injEq, exists_eq_left']
    have shaped := formed s own
    have free : ¬ s.Stuck l.hierarchy f.before → ¬ s.Stuck l.hierarchy g.before := by
      intro free
      obtain ⟨found, evaluated⟩ := Signature.not_stuck_iff.mp free
      have again := Signature.evaluated_again sound soundToo shaped evaluated later
      exact Signature.not_stuck_iff.mpr ⟨found, again⟩
    refine ⟨free, fun alike => ?_⟩
    have both : s.Stuck l.hierarchy f.before ↔ s.Stuck l.hierarchy g.before :=
      ⟨fun stuck => alike.resolve_left fun other => other stuck,
        fun stuck => by_contra fun other => free other stuck⟩
    -- A function differs from itself in no more than its result.
    have same : (s.returning s.returns).parameterTypes l.hierarchy f.before =
        (s.returning s.returns).parameterTypes l.hierarchy g.before :=
      Signature.types_of_returning sound soundToo shaped shaped (.inr later) both
    exact same.symm

theorem found_again {mark : Mark} {found foundToo : Access}
    (formed : ∀ s, found.signature = some s → s.Formed)
    (signature : foundToo.signature = found.signature) (sound : m.Sound) (soundToo : n.Sound)
    (later : (Finding.after l.hierarchy ⟨definer, name, mark, found, m⟩).Within n) :
    l.FoundAgain ⟨definer, name, mark, found, m⟩ ⟨definer, name, mark, foundToo, n⟩ := by
  obtain ⟨free, types⟩ :=
    types_again (g := ⟨definer, name, mark, foundToo, n⟩) formed signature sound soundToo later
  refine ⟨rfl, rfl, rfl, free, fun alike => ⟨types alike, ?_⟩⟩
  simp only [handlerFound, described, types alike]
  rfl

theorem access_unheld (unheld : Unheld instance? name) (definer : ClassId) :
    l.access? container instance? name definer =
      (l.member? definer name).bind
        (Member.access container (instance?.map Instance.identity)) := by
  unfold Unheld at unheld
  rw [access?, unheld]
  rfl

/-- Through whatever holds nothing under a name, the same member is found. -/
theorem finding_unheld (l : Library) (container : ClassId) (unheld : Unheld first name)
    (unheldToo : Unheld second name) (definer : ClassId) (m n : TypeMemory) :
    (l.finding? container first m definer name = none ∧
        l.finding? container second n definer name = none) ∨
      ∃ mark found foundToo,
        l.finding? container first m definer name = some ⟨definer, name, mark, found, m⟩ ∧
        l.finding? container second n definer name = some ⟨definer, name, mark, foundToo, n⟩ ∧
        foundToo.signature = found.signature := by
  simp only [finding?, access_unheld unheld, access_unheld unheldToo]
  cases l.nearestMark name ((l.hierarchy.lineage container).dropWhile (· ≠ definer)) with
  | none => exact .inl ⟨rfl, rfl⟩
  | some mark =>
    cases l.member? definer name with
    | none => exact .inl ⟨rfl, rfl⟩
    | some member =>
      have alike := member.access_alike container (first.map Instance.identity)
        (second.map Instance.identity)
      cases called : member.access container (first.map Instance.identity) with
      | none =>
        rw [called, Option.isSome_none, eq_comm, Option.isSome_eq_false_iff,
          Option.isNone_iff_eq_none] at alike
        exact .inl ⟨by simp [called], by simp [alike]⟩
      | some found =>
        rw [called, Option.isSome_some, eq_comm, Option.isSome_iff_exists] at alike
        obtain ⟨foundToo, calledToo⟩ := alike
        refine .inr ⟨mark, found, foundToo, by simp [called], by simp [calledToo], ?_⟩
        exact (Member.access_signature calledToo).trans (Member.access_signature called).symm

section Again
variable (formed : l.Formed) (holds : ∀ object ∈ first, object.Formed)
  (holdsToo : ∀ object ∈ second, object.Formed)

include formed holds holdsToo

theorem findings_again (sound : m.Sound) (soundToo : n.Sound) (names : List (ClassId × String))
    (later : ((l.findingsOf container first m names).foldl
      (fun _ f => f.after l.hierarchy) m).Within n) :
    List.Forall₂ l.FoundAgain
      ((l.findingsOf container first m names).filter
        fun f => Unheld first f.name ∧ Unheld second f.name)
      ((l.findingsOf container second n names).filter
        fun f => Unheld first f.name ∧ Unheld second f.name) := by
  induction names generalizing m n with
  | nil => exact .nil
  | cons entry rest ih =>
    obtain ⟨definer, name⟩ := entry
    by_cases unheld : Unheld first name ∧ Unheld second name
    · rcases l.finding_unheld container unheld.1 unheld.2 definer m n with
        ⟨here, there⟩ | ⟨mark, found, foundToo, here, there, signature⟩
      · rw [findings_cons_none here] at later ⊢
        rw [findings_cons_none there]
        exact ih sound soundToo later
      · rw [findings_cons_some here] at later ⊢
        rw [findings_cons_some there]
        obtain ⟨still, _⟩ := finding_remembered formed holds sound here
        obtain ⟨stillToo, grown⟩ := finding_remembered formed holdsToo soundToo there
        obtain ⟨_, called, _⟩ := finding_iff.mp here
        have known := (findings_remembered formed holds container still rest).2
        rw [List.filter_cons_of_pos (by simpa using unheld),
          List.filter_cons_of_pos (by simpa using unheld)]
        refine .cons ?_ (ih still stillToo (later.trans grown))
        exact found_again (fun s own => access_formed formed holds called own) signature sound
          soundToo (known.trans later)
    · have passed : ∀ f : Finding, f.name = name →
          decide (Unheld first f.name ∧ Unheld second f.name) = false := by
        rintro f rfl
        exact decide_eq_false unheld
      obtain ⟨_, still, _, same, left⟩ :=
        findings_passed formed holds container sound passed definer rest
      obtain ⟨_, stillToo, grown, sameToo, _⟩ :=
        findings_passed formed holdsToo container soundToo passed definer rest
      rw [left] at later
      rw [same, sameToo]
      exact ih still stillToo (later.trans grown)

end Again

/-! ## Values that an object holds -/

theorem exists_finding_of_mem {names : List (ClassId × String)}
    (among : f ∈ l.findingsOf container instance? m names) : (f.definer, f.name) ∈ names ∧
      l.finding? container instance? f.before f.definer f.name = some f := by
  induction names generalizing m with
  | nil => cases among
  | cons entry rest ih =>
    cases here : l.finding? container instance? m entry.1 entry.2 with
    | none =>
      rw [findings_cons_none here] at among
      obtain ⟨there, found⟩ := ih among
      exact ⟨List.mem_cons_of_mem _ there, found⟩
    | some first =>
      rw [findings_cons_some here] at among
      rcases List.mem_cons.mp among with rfl | behind
      · obtain ⟨_, _, own, named, before⟩ := finding_iff.mp here
        rw [← own, ← named, ← before] at here
        exact ⟨by rw [own, named]; exact List.mem_cons_self, here⟩
      · obtain ⟨there, found⟩ := ih behind
        exact ⟨List.mem_cons_of_mem _ there, found⟩

theorem exists_mem_findings {names : List (ClassId × String)} {mark : Mark} {found : Access}
    (among : (definer, name) ∈ names)
    (marked : l.nearestMark name
      ((l.hierarchy.lineage container).dropWhile (· ≠ definer)) = some mark)
    (called : l.access? container instance? name definer = some found) (m : TypeMemory) :
    ∃ k, ⟨definer, name, mark, found, k⟩ ∈ l.findingsOf container instance? m names := by
  induction names generalizing m with
  | nil => cases among
  | cons entry rest ih =>
    rcases List.mem_cons.mp among with rfl | behind
    · have here : l.finding? container instance? m definer name =
          some ⟨definer, name, mark, found, m⟩ := finding_iff.mpr ⟨marked, called, rfl, rfl, rfl⟩
      rw [findings_cons_some here]
      exact ⟨m, List.mem_cons_self⟩
    · cases here : l.finding? container instance? m entry.1 entry.2 with
      | none =>
        rw [findings_cons_none here]
        exact ih behind m
      | some first =>
        rw [findings_cons_some here]
        obtain ⟨k, there⟩ := ih behind (first.after l.hierarchy)
        exact ⟨k, List.mem_cons_of_mem _ there⟩

theorem access_held {object : Instance} {own : Option Access}
    (held : object.own? name = some own) (definer : ClassId) :
    l.access? container (some object) name definer = own := by
  simp [access?, held]

theorem replaced_by_held {names : List (ClassId × String)} {object : Instance}
    {own : Option Access} (among : f ∈ l.findingsOf container first m names)
    (held : object.own? f.name = some own) (n : TypeMemory) :
    l.ReplacedBy f own (l.findingsOf container (some object) n names) := by
  obtain ⟨there, here⟩ := exists_finding_of_mem among
  obtain ⟨marked, _⟩ := finding_iff.mp here
  constructor
  case gone =>
    rintro rfl g amongToo same
    obtain ⟨_, called, _⟩ := finding_iff.mp (exists_finding_of_mem amongToo).2
    rw [same, access_held held] at called
    cases called
  case instead =>
    rintro found rfl
    obtain ⟨k, amongToo⟩ := exists_mem_findings there marked (access_held held f.definer) n
    exact ⟨_, amongToo, rfl, rfl, rfl, rfl, rfl⟩

/-! ## The same state -/

theorem findings_alike {names : List (ClassId × String)}
    (unheld : ∀ f ∈ l.findingsOf container first m names ++ l.findingsOf container second m names,
      Unheld first f.name ∧ Unheld second f.name) :
    List.Forall₂ (fun f g => (l.handlerFound f).DeclaredAlike l.hierarchy (l.handlerFound g))
      (l.findingsOf container first m names) (l.findingsOf container second m names) := by
  induction names generalizing m with
  | nil => exact .nil
  | cons entry rest ih =>
    obtain ⟨definer, name⟩ := entry
    by_cases clear : Unheld first name ∧ Unheld second name
    · rcases l.finding_unheld container clear.1 clear.2 definer m m with
        ⟨here, there⟩ | ⟨mark, found, foundToo, here, there, signature⟩
      · rw [findings_cons_none here, findings_cons_none there] at unheld ⊢
        exact ih unheld
      · have shown : foundToo.parameterTypes l.hierarchy m =
            found.parameterTypes l.hierarchy m := by
          rw [Access.parameterTypes, Access.parameterTypes, signature]
        have after : Finding.after l.hierarchy ⟨definer, name, mark, foundToo, m⟩ =
            Finding.after l.hierarchy ⟨definer, name, mark, found, m⟩ := congrArg Prod.snd shown
        have same : l.handlerFound ⟨definer, name, mark, foundToo, m⟩ =
            { l.handlerFound ⟨definer, name, mark, found, m⟩ with
              function := foundToo.function } := by
          simp only [handlerFound, described, shown]
        rw [findings_cons_some here, findings_cons_some there, after] at unheld ⊢
        refine .cons (same ▸ ⟨rfl, rfl, rfl, rfl, rfl⟩) (ih fun other among => unheld other ?_)
        simp only [List.mem_append, List.mem_cons] at among ⊢
        exact among.imp .inr .inr
    · -- Under a name that is held there is no handler.
      have missing : ∀ instance?, (∀ f, l.finding? container instance? m definer name = some f →
          Unheld first f.name ∧ Unheld second f.name) →
          l.finding? container instance? m definer name = none := by
        intro instance? found
        refine Option.eq_none_iff_forall_ne_some.mpr fun f here => clear ?_
        exact (finding_iff.mp here).2.2.2.1 ▸ found f here
      have here := missing first fun f here => unheld f (by simp [findings_cons_some here])
      have there := missing second fun f there => unheld f (by simp [findings_cons_some there])
      rw [findings_cons_none here, findings_cons_none there] at unheld ⊢
      exact ih unheld

theorem formed_of_bodies (types : l.types.Sound)
    (members : ∀ body ∈ l.bodies, ∀ entry ∈ body.2, ∀ s, entry.2.signature? = some s → s.Formed) :
    l.Formed where
  types := types
  members c name member s defined own := by
    unfold member? membersOf at defined
    cases body : l.bodies.lookup c with
    | none => simp [body] at defined
    | some entries =>
      rw [body, Option.getD_some] at defined
      exact members _ (Entries.mem_of_lookup body) _ (Entries.mem_of_lookup defined) s own

def namedKey : TypeExpr := .union false [.forward (some 0) "KeyError", .cls Hierarchy.noneClass]

/-- Two handlers of one named error. Where the first of them comes from the name stands for nothing.
-/
def lateServices : Library where
  hierarchy := services.hierarchy
  bodies := [
    (service, [("on_key", .function
      { identity := "Service.on_key", mark := some .bare
        signature :=
          { scope := .ofClasses Hierarchy.builtinNames, params := [("e", some namedKey)] } })]),
    (pageService, [("on_page", .function
      { identity := "PageService.on_page", mark := some .bare
        signature := { scope := .ofClasses [], params := [("e", some namedKey)] } })])]

theorem named_key_formed : namedKey.Formed := by
  refine .union (by simp [TypeExpr.isMember]) ?_ (.cons (fun t among => ?_) (.cons (by simp) .nil))
  · simp [TypeExpr.Formed.forward, TypeExpr.Formed.cls]
  · obtain rfl := List.mem_singleton.mp among
    rfl

theorem late_services_formed : lateServices.Formed := by
  have each : ∀ classes : List (String × ClassId),
      ({ scope := classes, params := [("e", some namedKey)] } : Signature).Formed := by
    refine fun classes => ⟨?_, Scope.of_classes_formed classes⟩
    simpa [Signature.annotations] using named_key_formed
  refine formed_of_bodies TypeMemory.sound_empty ?_
  simp only [lateServices, List.forall_mem_cons, List.not_mem_nil, Member.signature?,
    FunctionBody.effective, Option.getD_none, Option.some.injEq, forall_eq']
  exact ⟨⟨each _, by simp⟩, ⟨each _, by simp⟩, by simp⟩

theorem late_services_covered :
    (lateServices.handlers pageService none).map (fun a => (a.routes lateServices.hierarchy).isOk) =
        [false, true] ∧
      ((lateServices.knowing (lateServices.typesAfter pageService none)).handlers pageService
          (some { identity := "page" })).map (fun a => (a.routes lateServices.hierarchy).isOk) =
        [true, true] := by
  decide +kernel

end Library

end HandlerRouting
