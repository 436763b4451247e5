import HandlerRouting.Proofs.Signature.Hints
import HandlerRouting.Proofs.TypeExpr.Widening

/-!
The types of a signature's parameters. Where all annotations can be looked up they are flattened
from those of the parameters, and a class that is widened by what is known already adds nothing.
-/

namespace HandlerRouting.Signature

open TypeExpr (Gathers)

variable {h : Hierarchy} {s : Signature} {m n : TypeMemory}

theorem equal_trans (t u v : TypeExpr) (first : (t == u) = true) (second : (u == v) = true) :
    (t == v) = true := TypeExpr.same_trans first second

theorem flattened_from {hints : List TypeExpr} (known : ∀ hint ∈ hints, hint.Joinable) :
    FlattenedFrom hints (distinct (hints.flatMap TypeExpr.members)) := by
  constructor
  case ordered => exact distinct_sublist _
  case first =>
    intro t kept
    obtain ⟨front, back, split, new⟩ := exists_before_of_mem_firsts_after equal_trans kept
    exact ⟨front, back, split, by simpa using new⟩
  case apart => exact distinct_apart _
  case listed => exact fun t kept => exists_hint_of_kept kept
  case complete => exact fun hint among t lists => exists_kept among lists
  case single =>
    intro t kept
    obtain ⟨_, _, lists⟩ := exists_hint_of_kept kept
    exact lists.single.1
  case value =>
    intro t kept
    obtain ⟨hint, among, lists⟩ := exists_hint_of_kept kept
    have joinable := known hint among
    exact ⟨TypeExpr.lists_not_none joinable.formed joinable.not_none lists, lists.single.2⟩

theorem distinct_members_widened {c : ClassId} {front ends : List TypeExpr}
    {e : Expression} {t : TypeExpr} (known : ∀ hint ∈ front, hint.Joinable)
    (widens : e.Widens h c front ends) (gathered : Gathers ends t) (back : List TypeExpr) :
    distinct ((front ++ t.asAnnotation :: back).flatMap TypeExpr.members) =
      distinct ((front ++ .cls c :: back).flatMap TypeExpr.members) := by
  rw [TypeExpr.as_annotation_eq]
  have member : ∀ u, u ∈ t.memberOfBar.members ↔ u ∈ t.brought ∧ u ≠ .cls Hierarchy.noneClass :=
    fun u => TypeExpr.mem_members_of_formed gathered.formed.member_of_bar
  have seen : ∀ u ∈ t.memberOfBar.members,
      u = .cls c ∨ (front.flatMap TypeExpr.members).any (· == u) = true := by
    intro u among
    obtain ⟨brought, value⟩ := (member u).mp among
    rcases widens.brings_no_more known gathered brought with own | nothing |
        ⟨hint, before, v, lists, near⟩
    · exact Or.inl own
    · exact absurd nothing value
    · exact Or.inr (List.any_eq_true.mpr ⟨v, mem_flattened_iff.mpr ⟨hint, before, lists⟩, near⟩)
  simp only [List.flatMap_append, List.flatMap_cons]
  rw [distinct, distinct, firsts_after_append_of_trans equal_trans [],
    firsts_after_append_of_trans equal_trans [], List.nil_append]
  refine congrArg _ ?_
  by_cases nothing : c = Hierarchy.noneClass
  · -- The class of no value is listed nowhere.
    have old : ∀ u ∈ t.memberOfBar.members,
        (front.flatMap TypeExpr.members).any (· == u) = true := by
      intro u among
      refine (seen u among).resolve_left fun own => ?_
      exact ((member u).mp among).2 (own.trans (congrArg _ nothing))
    rw [firsts_after_skip old]
    simp [TypeExpr.members, nothing]
  · have value : TypeExpr.cls c ≠ .cls Hierarchy.noneClass := by simpa using nothing
    rw [firsts_after_absorb ((member _).mpr ⟨widens.brings_own gathered, value⟩) seen]
    simp [TypeExpr.members, nothing]

/-! ## One parameter among others -/

section Parted
variable {before after : List (String × Option TypeExpr)} {name : String} {a : TypeExpr}
  (params : s.params = before ++ (name, some a) :: after)

include params

theorem evaluated_iff_parted (found : List TypeExpr) (last : TypeMemory) :
    s.evaluated h m = (some found, last) ↔
      ∃ front between hint beyond back,
        TypeExpr.resolveAll h (s.scope.lookUp h)
            ((before.filterMap Prod.snd).map TypeExpr.asAnnotation) m = (some front, between) ∧
          a.asAnnotation.resolve h (s.scope.lookUp h) between = (some hint, beyond) ∧
          TypeExpr.resolveAll h (s.scope.lookUp h)
            ((after.filterMap Prod.snd ++ s.returns.toList).map TypeExpr.asAnnotation) beyond =
              (some back, last) ∧
          found = front ++ hint :: back := by
  have whole : (s.annotations ++ s.returns.toList).map TypeExpr.asAnnotation =
      (before.filterMap Prod.snd).map TypeExpr.asAnnotation ++ a.asAnnotation ::
        (after.filterMap Prod.snd ++ s.returns.toList).map TypeExpr.asAnnotation := by
    simp [annotations, params]
  rw [evaluated, whole, TypeExpr.resolve_all_append_iff]
  simp only [TypeExpr.resolve_all_cons_iff]
  constructor
  · rintro ⟨front, between, _, here, ⟨hint, beyond, back, own, behind, rfl⟩, same⟩
    exact ⟨front, between, hint, beyond, back, here, own, behind, same⟩
  · rintro ⟨front, between, hint, beyond, back, here, own, behind, same⟩
    exact ⟨front, between, _, here, ⟨hint, beyond, back, own, behind, rfl⟩, same⟩

theorem hints_parted {front back : List TypeExpr} {hint : TypeExpr}
    (length : front.length = (before.filterMap Prod.snd).length)
    (evaluated : (s.evaluated h m).1 = some (front ++ hint :: back)) :
    s.hints h m = front ++ hint :: back.take (after.filterMap Prod.snd).length := by
  have size : s.annotations.length = front.length + ((after.filterMap Prod.snd).length + 1) := by
    simp [annotations, params, length]
  simp only [hints, evaluated, size, List.take_length_add_append, List.take_succ_cons]

end Parted

/-! ## One parameter widened -/

section Widened
variable {before after : List (String × Option TypeExpr)} {name : String} {a b t : TypeExpr}
  {c : ClassId} {e : Expression} {ends : List TypeExpr}

theorem types_widened {front back : List TypeExpr}
    (params : s.params = before ++ (name, some a) :: after)
    (length : front.length = (before.filterMap Prod.snd).length)
    (own : (s.evaluated h m).1 = some (front ++ .cls c :: back))
    (other : ((s.withParams (before ++ (name, some b) :: after)).evaluated h n).1 =
      some (front ++ t.asAnnotation :: back))
    (known : ∀ hint ∈ front, hint.Joinable) (widens : e.Widens h c front ends)
    (gathered : Gathers ends t) :
    (s.withParams (before ++ (name, some b) :: after)).parameterTypes h n =
      s.parameterTypes h m := by
  rw [parameterTypes, parameterTypes, hints_parted params length own,
    hints_parted (s := s.withParams _) rfl length other]
  exact distinct_members_widened known widens gathered _

section Replaced
variable (sound : m.Sound) (formed : s.Formed)
  (params : s.params = before ++ (name, some a) :: after) {found : List TypeExpr}
  (evaluated : (s.evaluated h m).1 = some found)
  (here : (s.hints h m)[(before.filterMap Prod.snd).length]? = some (.cls c))
  (widens : e.Widens h c ((s.hints h m).take (before.filterMap Prod.snd).length) ends)
  (writes : e.Writes h s.scope b)

include formed params

theorem formed_parted : (∀ t ∈ before.filterMap Prod.snd, t.Formed) ∧ a.Formed ∧
    ∀ t ∈ after.filterMap Prod.snd ++ s.returns.toList, t.Formed := by
  have annotated := formed.annotated
  simp only [annotations, params, List.filterMap_append, List.filterMap_cons, List.append_assoc,
    List.cons_append, List.forall_mem_append, List.forall_mem_cons] at annotated ⊢
  exact annotated

include sound evaluated here

theorem exists_parted : ∃ front between beyond back,
    found = front ++ .cls c :: back ∧
      front = (s.hints h m).take (before.filterMap Prod.snd).length ∧
      front.length = (before.filterMap Prod.snd).length ∧
      (∀ hint ∈ front, hint.Joinable) ∧
      TypeExpr.resolveAll h (s.scope.lookUp h)
        ((before.filterMap Prod.snd).map TypeExpr.asAnnotation) m = (some front, between) ∧
      a.asAnnotation.resolve h (s.scope.lookUp h) between = (some (.cls c), beyond) ∧
      TypeExpr.resolveAll h (s.scope.lookUp h)
        ((after.filterMap Prod.snd ++ s.returns.toList).map TypeExpr.asAnnotation) beyond =
          (some back, (s.evaluated h m).2) := by
  obtain ⟨front, between, hint, beyond, back, first, own, rest, rfl⟩ :=
    (evaluated_iff_parted params ..).mp (Prod.ext evaluated rfl)
  have length : front.length = (before.filterMap Prod.snd).length := by
    simpa using TypeExpr.resolve_all_length first
  have hints := hints_parted params length evaluated
  rw [hints, ← length] at here
  obtain rfl : hint = .cls c := by simpa using here
  have taken : front = (s.hints h m).take (before.filterMap Prod.snd).length := by
    rw [hints, ← length, List.take_left]
  have known : ∀ hint ∈ front, hint.Joinable := fun hint among =>
    hints_joinable sound formed evaluated hint (List.mem_of_mem_take (taken ▸ among))
  exact ⟨front, between, beyond, back, rfl, taken, length, known, first, own, rest⟩

include widens writes

theorem widened_here (plain : a = .cls c) (type : b.isText = false) :
    ((s.withParams (before ++ (name, some b) :: after)).evaluated h m).1.isSome = true ∧
      (s.withParams (before ++ (name, some b) :: after)).parameterTypes h m =
        s.parameterTypes h m := by
  obtain ⟨front, between, beyond, back, rfl, rfl, length, known, first, own, rest⟩ :=
    exists_parted sound formed params evaluated here
  subst plain
  obtain ⟨_, rfl⟩ := Prod.mk.inj own
  obtain ⟨instead, gathered⟩ := widens.resolved_here known writes type between
  have other := (evaluated_iff_parted (s := s.withParams (before ++ (name, some b) :: after))
    rfl ..).mpr ⟨_, between, _, between, back, first, instead, rest, rfl⟩
  have looked := congrArg Prod.fst other
  exact ⟨by simp [looked], types_widened params length evaluated looked known widens gathered⟩

theorem widened_later (soundToo : n.Sound) (later : (s.evaluated h m).2.Within n) :
    ((s.withParams (before ++ (name, some b) :: after)).evaluated h n).1.isSome = true ∧
      (s.withParams (before ++ (name, some b) :: after)).parameterTypes h n =
        s.parameterTypes h m := by
  obtain ⟨front, between, beyond, back, rfl, rfl, length, known, first, own, rest⟩ :=
    exists_parted sound formed params evaluated here
  obtain ⟨shaped, shapedOwn, shapedRest⟩ := formed_parted formed params
  obtain ⟨_, soundBetween, _⟩ := (formed.steady h shaped).left sound first
  obtain ⟨_, soundBeyond, grown⟩ := (formed.steady_one h shapedOwn).left soundBetween own
  obtain ⟨_, _, last⟩ := (formed.steady h shapedRest).left soundBeyond rest
  obtain ⟨one, firstToo, soundOne, near, _⟩ :=
    (formed.steady h shaped).repeated sound soundToo first ((grown.trans last).trans later)
  obtain ⟨t, two, instead, gathered⟩ := widens.resolved known writes soundOne
  obtain ⟨_, soundTwo, further⟩ :=
    (formed.steady_one h (widens.written_formed known writes)).left soundOne instead
  obtain ⟨_, restToo, _, _, _⟩ := (formed.steady h shapedRest).repeated soundBeyond soundTwo rest
    ((later.trans near).trans further)
  have other := (evaluated_iff_parted (s := s.withParams (before ++ (name, some b) :: after))
    rfl ..).mpr ⟨_, one, _, two, back, firstToo, instead, restToo, rfl⟩
  have looked := congrArg Prod.fst other
  exact ⟨by simp [looked], types_widened params length evaluated looked known widens gathered⟩

/-- The widened annotation where all annotations are looked up, among the others. -/
theorem exists_widened (soundToo : n.Sound)
    (looks : ((s.withParams (before ++ (name, some b) :: after)).evaluated h n).1.isSome = true) :
    ∃ front one t two back,
      ((s.withParams (before ++ (name, some b) :: after)).evaluated h n).1 =
          some (front ++ t.asAnnotation :: back) ∧
        front.length = (before.filterMap Prod.snd).length ∧ Gathers ends t ∧ one.Sound ∧
        TypeExpr.resolveAll h (s.scope.lookUp h)
          ((before.filterMap Prod.snd).map TypeExpr.asAnnotation) n = (some front, one) ∧
        b.asAnnotation.resolve h (s.scope.lookUp h) one = (some t.asAnnotation, two) ∧
        TypeExpr.resolveAll h (s.scope.lookUp h)
          ((after.filterMap Prod.snd ++ s.returns.toList).map TypeExpr.asAnnotation) two =
            (some back,
              ((s.withParams (before ++ (name, some b) :: after)).evaluated h n).2) := by
  obtain ⟨_, _, _, _, _, rfl, _, known, _⟩ := exists_parted sound formed params evaluated here
  obtain ⟨shaped, _, _⟩ := formed_parted formed params
  obtain ⟨found, looked⟩ := Option.isSome_iff_exists.mp looks
  obtain ⟨front, one, hint, two, back, first, own, rest, rfl⟩ :=
    (evaluated_iff_parted rfl ..).mp (Prod.ext looked rfl)
  obtain ⟨_, soundOne, _⟩ := (formed.steady h shaped).left soundToo first
  obtain ⟨t, _, instead, gathered⟩ := widens.resolved known writes soundOne
  obtain ⟨same, rfl⟩ := Prod.mk.inj (own.symm.trans instead)
  obtain rfl := Option.some.inj same
  have length := TypeExpr.resolve_all_length first
  exact ⟨front, one, t, two, back, looked, by simpa using length, gathered, soundOne, first, own,
    rest⟩

theorem widened_earlier (soundToo : n.Sound)
    (looks : ((s.withParams (before ++ (name, some b) :: after)).evaluated h n).1.isSome = true)
    (earlier : ((s.withParams (before ++ (name, some b) :: after)).evaluated h n).2.Within m) :
    (s.withParams (before ++ (name, some b) :: after)).parameterTypes h n =
      s.parameterTypes h m := by
  obtain ⟨_, _, _, _, _, looked, _, gathered, soundOne, firstToo, instead, restToo⟩ :=
    exists_widened sound formed params evaluated here widens writes soundToo looks
  obtain ⟨front, between, beyond, back, rfl, rfl, length, known, first, own, rest⟩ :=
    exists_parted sound formed params evaluated here
  obtain ⟨shaped, shapedOwn, shapedRest⟩ := formed_parted formed params
  obtain ⟨_, soundTwo, further⟩ :=
    (formed.steady_one h (widens.written_formed known writes)).left soundOne instead
  obtain ⟨_, _, last⟩ := (formed.steady h shapedRest).left soundTwo restToo
  -- What the function itself looks up is what was looked up before.
  obtain ⟨_, again, soundBetween, near, _⟩ := (formed.steady h shaped).repeated soundToo sound
    firstToo ((further.trans last).trans earlier)
  obtain ⟨same, rfl⟩ := Prod.mk.inj (first.symm.trans again)
  obtain rfl := Option.some.inj same
  obtain ⟨_, soundBeyond, grown⟩ := (formed.steady_one h shapedOwn).left soundBetween own
  obtain ⟨_, behind, _, _, _⟩ := (formed.steady h shapedRest).repeated soundTwo soundBeyond restToo
    ((earlier.trans near).trans grown)
  obtain rfl := Option.some.inj (Prod.mk.inj (rest.symm.trans behind)).1
  exact types_widened params length evaluated looked known widens gathered

theorem widened_beside (soundToo : n.Sound)
    (looks : ((s.withParams (before ++ (name, some b) :: after)).evaluated h n).1.isSome = true)
    (alike : ((s.withParams (before ++ (name, some b) :: after)).hints h n).eraseIdx
        (before.filterMap Prod.snd).length =
      (s.hints h m).eraseIdx (before.filterMap Prod.snd).length) :
    (s.withParams (before ++ (name, some b) :: after)).parameterTypes h n =
      s.parameterTypes h m := by
  obtain ⟨front, _, t, _, back, looked, lengthToo, gathered, _⟩ :=
    exists_widened sound formed params evaluated here widens writes soundToo looks
  obtain ⟨_, _, _, _, rfl, taken, length, known, _⟩ :=
    exists_parted sound formed params evaluated here
  rw [← taken] at widens
  have own := hints_parted params length evaluated
  have other := hints_parted (s := s.withParams _) rfl lengthToo looked
  rw [own, other, List.eraseIdx_append_of_length_le (Nat.le_of_eq lengthToo),
    List.eraseIdx_append_of_length_le (Nat.le_of_eq length), lengthToo, length, Nat.sub_self,
    List.eraseIdx_cons_zero, List.eraseIdx_cons_zero] at alike
  obtain ⟨rfl, rest⟩ := List.append_inj alike (lengthToo.trans length.symm)
  rw [parameterTypes, parameterTypes, own, other, rest]
  exact distinct_members_widened known widens gathered _

end Replaced

end Widened

def listOf : List TypeExpr → Option TypeExpr
  | [t] => some (.generic (Hierarchy.builtinPlace "list") [t])
  | _ => none

def texts : TypeExpr :=
  .generic (Hierarchy.builtinPlace "list") [.cls (Hierarchy.builtinPlace "str")]

def textsExpression : Expression := .made listOf [.value (.cls (Hierarchy.builtinPlace "str"))]

def failure : TypeExpr := .cls (Hierarchy.builtinPlace "OSError")

def postponed : Scope where
  read text := [("list[str]", textsExpression),
    ("Optional[ValueError]", .optional (.value (.cls (Hierarchy.builtinPlace "ValueError")))),
    ("OSError", .value failure),
    ("OSError | list[str] | None",
      .bar (.bar (.value failure) textsExpression) (.value .none))].lookup text

def batchHandler : Signature where
  scope := postponed
  params := [("self", none), ("codes", some (.text "list[str]")),
    ("error", some (.text "Optional[ValueError]")), ("cause", some (.text "OSError"))]

def widenedHandler : Signature := batchHandler.withParams
  [("self", none), ("codes", some (.text "list[str]")),
    ("error", some (.text "Optional[ValueError]")),
    ("cause", some (.text "OSError | list[str] | None"))]

theorem texts_expression_formed : textsExpression.Formed := by
  refine .made (fun ts t shaped made => ?_) (by simpa using .value (.cls _))
  unfold listOf at made
  split at made
  · obtain rfl := Option.some.inj made
    exact .generic shaped
  · cases made

theorem postponed_formed : postponed.Formed := by
  intro name e reads
  have value : (Expression.value failure).Formed := .value (.cls _)
  have among := Entries.mem_of_lookup reads
  simp only [List.mem_cons, Prod.mk.injEq, List.not_mem_nil, or_false] at among
  rcases among with ⟨_, rfl⟩ | ⟨_, rfl⟩ | ⟨_, rfl⟩ | ⟨_, rfl⟩
  · exact texts_expression_formed
  · exact .optional (.value (.cls _))
  · exact value
  · exact .bar (.bar value texts_expression_formed) (.value .none)

theorem batch_handler_formed : batchHandler.Formed where
  annotated := by simp [batchHandler, annotations, TypeExpr.Formed.text]
  scope := postponed_formed

set_option maxRecDepth 4000 in
/-- The last parameter's class beside a list that an earlier parameter takes and beside no value. -/
theorem batch_cause_widened {earlier : List TypeExpr} (taken : texts ∈ earlier) :
    Expression.Widens Hierarchy.builtin (Hierarchy.builtinPlace "OSError") earlier
      (.bar (.bar (.value failure) textsExpression) (.value .none))
      (([failure] ++ [texts]) ++ [.none]) := by
  have failed : ∀ n, ¬ failure.Lists (.int n) := fun n lists => by cases lists
  have texted : ∀ n, ¬ texts.Lists (.int n) := fun n lists => by cases lists
  have listed : textsExpression.Unites Hierarchy.builtin [texts] := by
    refine .made texts_expression_formed fun m u _ made => ?_
    obtain rfl := Option.some.inj made
    rfl
  constructor
  case unites =>
    have both : ∀ t ∈ [failure] ++ [texts], ∀ n, ¬ t.Lists (.int n) := by
      simpa using ⟨failed, texted⟩
    exact .bar (.bar (.value _) listed (by simpa using failed)) (.value _) both
  case own => exact List.mem_cons_self
  case adds =>
    simp only [List.cons_append, List.nil_append, List.forall_mem_cons]
    exact ⟨.inl rfl, .inr (.inr (.inr ⟨texts, taken, .inl rfl⟩)), .inr (.inl rfl), by simp⟩
  case settled =>
    simp only [List.cons_append, List.nil_append, List.forall_mem_cons]
    exact ⟨rfl, rfl, rfl, by simp⟩

end HandlerRouting.Signature
