import HandlerRouting.Container
import HandlerRouting.Event.Line
import HandlerRouting.Proofs.RoutingTable.Declarations
import HandlerRouting.Proofs.Text.Quoting
import HandlerRouting.Router.Run

/-!
Every event is written as one line. Values are quoted, whatever is in them; names are not, so every
step that reports something is looked at for the names that it gives its fields.
-/

namespace HandlerRouting

namespace Event
variable {e : Event}

theorem mem_intercalate {separator c : Char} {parts : List (List Char)}
    (member : c ∈ [separator].intercalate parts) : c = separator ∨ ∃ part ∈ parts, c ∈ part := by
  induction parts with
  | nil => simp at member
  | cons part rest ih =>
    cases rest with
    | nil => exact Or.inr ⟨part, List.mem_cons_self, by simpa using member⟩
    | cons next rest =>
      rw [List.intercalate_cons_cons, List.mem_append, List.mem_append] at member
      rcases member with (here | mark) | behind
      · exact Or.inr ⟨part, List.mem_cons_self, here⟩
      · exact Or.inl (List.mem_singleton.mp mark)
      · rcases ih behind with mark | ⟨other, later, inside⟩
        · exact Or.inl mark
        · exact Or.inr ⟨other, List.mem_cons_of_mem _ later, inside⟩

theorem name_of_pair {pair : String × String} (member : pair ∈ e.pairs) :
    pair.1 ∈ ["event", "level_hint", "level"] ∨ ∃ field ∈ e.fields, pair.1 = field.1 := by
  rcases List.mem_cons.mp member with rfl | behind
  · exact Or.inl (by simp)
  · rcases Entries.mem_assign behind with hinted | rfl
    · rcases List.mem_append.mp hinted with hint | given
      · unfold hints at hint
        split at hint
        · rw [List.mem_singleton.mp hint]
          exact Or.inl (by simp)
        · cases hint
      · exact Or.inr ⟨pair, (List.mem_filter.mp given).1, rfl⟩
    · exact Or.inl (by simp)

theorem names_printable : (["event", "level_hint", "level"] ++ fieldNames).all
    (·.toList.all Text.isPrintable) = true := by decide

theorem line_printable (named : e.WellNamed) : ∀ c ∈ e.lineChars, Text.isPrintable c = true := by
  intro c member
  rcases mem_intercalate member with rfl | ⟨part, listed, inside⟩
  · exact Text.printable_of_ascii (by decide) (by decide)
  · obtain ⟨pair, paired, rfl⟩ := List.mem_map.mp listed
    have known : pair.1 ∈ ["event", "level_hint", "level"] ++ fieldNames := by
      rcases name_of_pair paired with own | ⟨field, given, same⟩
      · exact List.mem_append_left _ own
      · exact List.mem_append_right _ (same ▸ named (List.mem_map_of_mem given))
    rcases List.mem_append.mp inside with name | value
    · exact List.all_eq_true.mp (List.all_eq_true.mp names_printable pair.1 known) c name
    · rcases List.mem_cons.mp value with rfl | quoted
      · exact Text.printable_of_ascii (by decide) (by decide)
      · exact Text.quote_chars_printable _ c quoted

theorem line_breaks_unprintable : Text.lineBreaks.all (!Text.isPrintable ·) = true := by
  decide +kernel

theorem WellNamed.one_line (named : e.WellNamed) : e.OneLine where
  printable := line_printable named
  unbroken c ends member := by
    have hidden := List.all_eq_true.mp line_breaks_unprintable c ends
    simp [line_printable named c member] at hidden

end Event

theorem Library.discovery_well_named (l : Library) (container : ClassId)
    (instance? : Option Instance) : ∀ e ∈ l.discoveryEvents container instance?, e.WellNamed := by
  intro e member
  rcases List.mem_append.mp member with found | finished
  · obtain ⟨a, _, rfl⟩ := List.mem_map.mp found
    simp [Event.WellNamed, Event.fieldNames]
  · rw [List.mem_singleton.mp finished]
    simp [Event.WellNamed, Event.fieldNames]

section Building
variable {h : Hierarchy} {a : Handler} {defect : Defect}

theorem Handler.unreadable_well_named {name : String} {data : List Datum}
    (unreadable : Unreadable name data (.defect defect)) : defect.WellNamed h := by
  generalize met : BuildFailure.defect defect = failure at unreadable
  induction unreadable with
  | later _ _ ih => exact ih met
  | here refused =>
    subst met
    unfold readMediaType at refused
    dsimp only at refused
    -- Only a text can be refused in two ways, and one of them is no defect.
    split at refused
    · split at refused
      · cases refused
      · cases refused
        simp [Defect.WellNamed, Defect.metadata, Event.fieldNames]
      · cases refused
    · cases refused
      simp [Defect.WellNamed, Defect.metadata, Event.fieldNames]

theorem Handler.contested_well_named {held : Route → Option Handler} {routes : List Route}
    (contest : a.Contested held routes defect) : defect.WellNamed h := by
  induction contest with
  | here => simp [Defect.WellNamed, Defect.metadata, Event.fieldNames]
  | later _ _ ih => exact ih

theorem Handler.stopped_well_named {claims : List (Route × Handler)}
    (stopped : a.StoppedBy h claims (.defect defect)) : defect.WellNamed h := by
  cases stopped with
  | unfit fault =>
    cases fault with
    | otherTypes => simp [Defect.WellNamed, Defect.metadata, Event.fieldNames]
    | noTypes => simp [Defect.WellNamed, Defect.metadata, Event.fieldNames]
    | mediaType _ unreadable => exact unreadable_well_named unreadable
  | contested _ _ contest => exact contested_well_named contest

theorem RoutingTable.defect_event_well_named (named : defect.WellNamed h) :
    (defectEvent h defect).WellNamed := by
  have names : (Event.fieldsOf (defect.metadata h)).map Prod.fst =
      (defect.metadata h).map Prod.fst := List.map_map
  rw [Event.WellNamed, defectEvent, names]
  exact named

theorem RoutingTable.build_events_well_named (h : Hierarchy) (handlers : List Handler) :
    ∀ e ∈ buildEvents h handlers, e.WellNamed := by
  intro e member
  unfold buildEvents at member
  cases claimed : claimAll h empty handlers with
  | mk t stopped =>
    rw [claimed] at member
    rcases List.mem_append.mp member with mapped | last
    · obtain ⟨entry, _, rfl⟩ := List.mem_map.mp mapped
      simp [Event.WellNamed, mappedEvent, Event.fieldNames]
    · cases stopped with
      | none =>
        rw [List.mem_singleton.mp last]
        simp [Event.WellNamed, builtEvent, Event.fieldNames]
      | some failure =>
        cases failure with
        | nulInCharset => cases last
        | defect defect =>
          have refused : build h handlers = .error (.defect defect) := by simp [build, claimed]
          obtain ⟨_, a, _, _, _, stopped⟩ := (build_error_iff ..).mp refused
          rw [List.mem_singleton.mp last]
          exact defect_event_well_named (Handler.stopped_well_named stopped)

end Building

namespace Router

theorem build_events_well_named (h : Hierarchy) (name : String) (settings : Settings)
    (handlers : List Handler) : ∀ e ∈ buildEvents h name settings handlers, e.WellNamed := by
  refine List.forall_mem_append.mpr ⟨RoutingTable.build_events_well_named h handlers, ?_⟩
  cases build h name settings handlers with
  | error => simp
  | ok r => simp [Event.WellNamed, readyEvent, Event.fieldNames]

theorem look_up_well_named (r : Router) (asked : Route) :
    ∀ e ∈ (r.lookUp asked).events, e.WellNamed := by
  unfold lookUp
  split
  · simp
  · simp [Event.WellNamed, computedEvent, Event.fieldNames]

theorem walk_well_named (r : Router) (g : Raisings) (m : MediaType) (chain : List Nat) :
    ∀ e ∈ (walk g m r chain).events, e.WellNamed := by
  induction chain generalizing r with
  | nil => simp [walk]
  | cons x rest ih =>
    have first := r.look_up_well_named ⟨g.classOf x, m⟩
    simp only [walk]
    split
    · exact first
    · refine List.forall_mem_append.mpr ⟨List.forall_mem_append.mpr ⟨first, ?_⟩, ih _⟩
      intro e trying
      obtain ⟨y, _, rfl⟩ := List.mem_map.mp trying
      simp [Event.WellNamed, tryingEvent, Event.fieldNames]

theorem resolve_class_well_named (r : Router) (wanted : TypeExpr) (media : MediaRequest) :
    ∀ e ∈ (r.resolveClass wanted media).events, e.WellNamed := by
  unfold resolveClass
  split
  · simp
  · split
    · simp
    · exact r.look_up_well_named _

theorem resolve_raised_well_named (r : Router) (g : Raisings) (start : Nat)
    (media : MediaRequest) : ∀ e ∈ (r.resolveRaised g start media).events, e.WellNamed := by
  unfold resolveRaised
  split
  · simp
  · refine List.forall_mem_append.mpr ⟨r.walk_well_named g _ _, ?_⟩
    split
    · simp
    · simp [Event.WellNamed, missedEvent, Event.fieldNames]

theorem answer_well_named (r : Router) (query : Query) :
    ∀ e ∈ (r.answer query).events, e.WellNamed := by
  cases query with
  | exceptionClass wanted media => exact r.resolve_class_well_named wanted media
  | raised g start media => exact r.resolve_raised_well_named g start media
  | value => simp [answer, refuseValue]

theorem events_well_named (r : Router) (queries : List Query) :
    ∀ e ∈ r.events queries, e.WellNamed := by
  induction queries generalizing r with
  | nil => simp [events]
  | cons query rest ih => exact List.forall_mem_append.mpr ⟨r.answer_well_named query, ih _⟩

/-- Whatever is discovered, built and asked for, each event is one line of printable characters. -/
theorem events_on_one_line (l : Library) (container : ClassId) (instance? : Option Instance)
    (h : Hierarchy) (name : String) (settings : Settings) (handlers : List Handler) (r : Router)
    (queries : List Query) :
    ∀ e ∈ l.discoveryEvents container instance? ++ buildEvents h name settings handlers ++
      r.events queries, e.OneLine := by
  have named := List.forall_mem_append.mpr ⟨List.forall_mem_append.mpr
    ⟨l.discovery_well_named container instance?, build_events_well_named h name settings handlers⟩,
    r.events_well_named queries⟩
  exact fun e reported => (named e reported).one_line

def brokenTitle : MediaType := ⟨['a'], ['b'], [(['t'], ['x', '\n', 'y'])]⟩

theorem broken_request_on_one_line :
    let r := make Hierarchy.builtin "two\nlines" {} .empty
    ∃ e ∈ r.events [.raised [{ cls := Hierarchy.rootClass }] 0 (.media brokenTitle)],
      ("container", "two\nlines") ∈ e.fields ∧ ("media_type", "a/b;t=\"x\ny\"") ∈ e.fields ∧
        e.OneLine := by
  intro r
  let queries : List Query := [.raised [{ cls := Hierarchy.rootClass }] 0 (.media brokenTitle)]
  have reported : r.missedEvent Hierarchy.rootClass brokenTitle ∈ r.events queries :=
    List.mem_cons_of_mem _ List.mem_cons_self
  refine ⟨_, reported, List.mem_cons_self, ?_, ?_⟩
  · exact List.mem_cons_of_mem _ (List.mem_cons_of_mem _ (List.mem_singleton.mpr rfl))
  · exact events_on_one_line { hierarchy := Hierarchy.builtin } 0 none Hierarchy.builtin "" {} [] r
      queries _ (List.mem_append_right _ reported)

end Router

end HandlerRouting
